import HodeiJobs.Jobs.Aggregate
import HodeiJobs.Library.Casts

/-!
# The expiry of jobs

`Job::has_expired` compares a signed number of milliseconds, cast to `u64`, with the
timeout of the job.
-/

namespace HodeiJobs.Jobs

open HodeiJobs.Library HodeiJobs.Shared
open HodeiJobs.Execution (JobId)

/-- `DateTime<Utc>`, in nanoseconds since the epoch: from the first day of the year -262143
to the last of 262142. -/
structure Timestamp where
  nanos : Int
  lower : -8334601228800 * 10 ^ 9 ≤ nanos
  upper : nanos < 8210266876800 * 10 ^ 9
  deriving DecidableEq

namespace Timestamp

instance : LE Timestamp := ⟨fun earlier later => earlier.nanos ≤ later.nanos⟩

theorem le_def {earlier later : Timestamp} : earlier ≤ later ↔ earlier.nanos ≤ later.nanos :=
  Iff.rfl

/-- `signed_duration_since`, in nanoseconds. -/
def signedDurationSince (later earlier : Timestamp) : Int := later.nanos - earlier.nanos

end Timestamp

/-- `num_milliseconds`: whole milliseconds, rounded towards zero. -/
def numMilliseconds (duration : Int) : Int := duration.tdiv (10 ^ 6)

/-- The fields of a job that its expiry reads. -/
structure TimedJob where
  id : JobId
  state : JobState
  startedAt : Option Timestamp
  timeoutMs : UInt64
  deriving DecidableEq

namespace TimedJob

def hasExpired (job : TimedJob) (now : Timestamp) : Bool :=
  match job.startedAt with
  | some startedAt =>
      let elapsed := now.signedDurationSince startedAt
      UInt64.ofInt (numMilliseconds elapsed) > job.timeoutMs
  | none => false

/-- `cleanup_expired_jobs`, on the answer of `find_by_state`. The clock is read once for
each job. -/
def cleanupExpiredJobs (stored : Except DomainError (List TimedJob)) (clock : JobId → Timestamp) :
    Except DomainError (List JobId) :=
  stored.map fun pendingJobs =>
    (pendingJobs.filter fun job => job.hasExpired (clock job.id)).map fun job => job.id

/-! ## What expiry is for -/

/-- The job is still within its timeout. -/
def WithinTimeout (job : TimedJob) (now : Timestamp) : Prop :=
  ∀ startedAt, job.startedAt = some startedAt →
    now.signedDurationSince startedAt ≤ job.timeoutMs.toNat * 10 ^ 6

/-- No job expires within its timeout, and none that has expired comes back. -/
def ExpiresInTime (job : TimedJob) (now later : Timestamp) : Prop :=
  (job.WithinTimeout now → job.hasExpired now = false) ∧
    (job.hasExpired now = true → job.hasExpired later = true)

/-- The start lies no whole millisecond ahead of the clock, or the timeout is so long that
the lead, taken off `2 ^ 64` milliseconds, still stays within it. -/
def LeadIsSmall (job : TimedJob) (now : Timestamp) : Prop :=
  ∀ startedAt, job.startedAt = some startedAt →
    startedAt.signedDurationSince now < 10 ^ 6 ∨
      2 ^ 64 ≤ job.timeoutMs.toNat + startedAt.signedDurationSince now / 10 ^ 6

/-! ## When it does what it is for -/

section Cast

variable (now startedAt : Timestamp)

theorem num_milliseconds_nonneg {elapsed : Int} (notAhead : 0 ≤ elapsed) :
    numMilliseconds elapsed = elapsed / 10 ^ 6 :=
  Int.tdiv_eq_ediv_of_nonneg notAhead

theorem num_milliseconds_neg (lead : Int) :
    numMilliseconds (-lead) = -numMilliseconds lead :=
  Int.neg_tdiv ..

/-- The time between two points fits in an `i64` of milliseconds. -/
theorem signed_duration_bounds :
    -(2 ^ 54) * 10 ^ 6 < now.signedDurationSince startedAt ∧
      now.signedDurationSince startedAt < 2 ^ 54 * 10 ^ 6 := by
  have nowLower := now.lower
  have nowUpper := now.upper
  have startLower := startedAt.lower
  have startUpper := startedAt.upper
  unfold Timestamp.signedDurationSince
  constructor <;> omega

/-- As long as the start is no whole millisecond ahead, the cast keeps the milliseconds. -/
theorem elapsed_cast (small : startedAt.signedDurationSince now < 10 ^ 6) :
    ((UInt64.ofInt (numMilliseconds (now.signedDurationSince startedAt))).toNat : Int) =
      max 0 (now.signedDurationSince startedAt / 10 ^ 6) := by
  have bounds := signed_duration_bounds now startedAt
  have opposite : startedAt.signedDurationSince now = -now.signedDurationSince startedAt := by
    unfold Timestamp.signedDurationSince
    omega
  rw [opposite] at small
  generalize now.signedDurationSince startedAt = elapsed at bounds small ⊢
  rcases lt_or_ge elapsed 0 with ahead | past
  · have rounded : numMilliseconds elapsed = 0 := by
      rw [← neg_neg elapsed, num_milliseconds_neg, num_milliseconds_nonneg (by omega)]
      omega
    rw [rounded, of_int_to_nat (by omega) (by omega)]
    omega
  · rw [num_milliseconds_nonneg past, of_int_to_nat (by omega) (by omega)]
    omega

/-- A start that is ahead comes out as an elapsed time near `2 ^ 64` milliseconds. -/
theorem lead_cast (ahead : 10 ^ 6 ≤ startedAt.signedDurationSince now) :
    ((UInt64.ofInt (numMilliseconds (now.signedDurationSince startedAt))).toNat : Int) =
      2 ^ 64 - startedAt.signedDurationSince now / 10 ^ 6 := by
  have bounds := signed_duration_bounds startedAt now
  have opposite : now.signedDurationSince startedAt = -startedAt.signedDurationSince now := by
    unfold Timestamp.signedDurationSince
    omega
  rw [opposite, num_milliseconds_neg, num_milliseconds_nonneg (by omega)]
  generalize startedAt.signedDurationSince now = lead at bounds ahead ⊢
  rw [of_int_to_nat_negative (by omega) (by omega)]
  omega

end Cast

variable {job : TimedJob} {now later startedAt : Timestamp}

theorem has_expired_iff (started : job.startedAt = some startedAt) :
    job.hasExpired now = true ↔ (job.timeoutMs.toNat : Int) <
      (UInt64.ofInt (numMilliseconds (now.signedDurationSince startedAt))).toNat := by
  unfold hasExpired
  rw [started]
  simp only [gt_iff_lt, decide_eq_true_eq]
  rw [UInt64.lt_iff_toNat_lt, Int.ofNat_lt]

theorem has_expired_past (started : job.startedAt = some startedAt)
    (small : startedAt.signedDurationSince now < 10 ^ 6) :
    job.hasExpired now = true ↔
      (job.timeoutMs.toNat : Int) < now.signedDurationSince startedAt / 10 ^ 6 := by
  rw [has_expired_iff started, elapsed_cast now startedAt small]
  omega

theorem has_expired_ahead (started : job.startedAt = some startedAt)
    (ahead : 10 ^ 6 ≤ startedAt.signedDurationSince now) :
    job.hasExpired now = true ↔
      job.timeoutMs.toNat + startedAt.signedDurationSince now / 10 ^ 6 < 2 ^ 64 := by
  rw [has_expired_iff started, lead_cast now startedAt ahead]
  omega

theorem within_timeout_of_ahead (started : job.startedAt = some startedAt)
    (ahead : 0 ≤ startedAt.signedDurationSince now) : job.WithinTimeout now := by
  intro other otherStarted
  obtain rfl := Option.some.inj (started.symm.trans otherStarted)
  have opposite : now.signedDurationSince startedAt = -startedAt.signedDurationSince now := by
    unfold Timestamp.signedDurationSince
    omega
  rw [opposite]
  omega

theorem not_expired_of_never_started (fresh : job.startedAt = none) :
    job.hasExpired now = false := by
  unfold hasExpired
  rw [fresh]

theorem lead_of_in_time (inTime : job.ExpiresInTime now later) : job.LeadIsSmall now := by
  intro startedAt started
  rcases lt_or_ge (startedAt.signedDurationSince now) (10 ^ 6) with small | ahead
  · exact Or.inl small
  · have notExpired := inTime.1 (within_timeout_of_ahead started (by omega))
    have notBelow : ¬job.timeoutMs.toNat + startedAt.signedDurationSince now / 10 ^ 6 < 2 ^ 64 := by
      rw [← has_expired_ahead started ahead, notExpired]
      exact Bool.false_ne_true
    exact Or.inr (by omega)

theorem in_time_of_lead (order : now ≤ later) (lead : job.LeadIsSmall now) :
    job.ExpiresInTime now later := by
  cases started : job.startedAt with
  | none =>
      constructor
      · intro _
        exact not_expired_of_never_started started
      · intro expired
        rw [not_expired_of_never_started started] at expired
        cases expired
  | some startedAt =>
      rw [Timestamp.le_def] at order
      rcases lt_or_ge (startedAt.signedDurationSince now) (10 ^ 6) with small | ahead
      · have smallLater : startedAt.signedDurationSince later < 10 ^ 6 := by
          unfold Timestamp.signedDurationSince at small ⊢
          omega
        constructor
        · intro within
          rw [Bool.eq_false_iff, ne_eq, has_expired_past started small]
          have withinStart := within startedAt started
          omega
        · rw [has_expired_past started small, has_expired_past started smallLater]
          unfold Timestamp.signedDurationSince
          omega
      · -- The lead is so small beside the timeout that the job does not look expired.
        have notExpired : job.hasExpired now = false := by
          rw [Bool.eq_false_iff, ne_eq, has_expired_ahead started ahead]
          have longTimeout := lead startedAt started
          omega
        constructor
        · intro _
          exact notExpired
        · intro expired
          rw [notExpired] at expired
          cases expired

/-- A job expires no sooner than its timeout, and for good, exactly as long as its start is
not ahead of the clock. -/
theorem expires_in_time_iff (job : TimedJob) {now later : Timestamp} (order : now ≤ later) :
    job.ExpiresInTime now later ↔ job.LeadIsSmall now := by
  constructor
  · exact lead_of_in_time
  · exact in_time_of_lead order

/-- A job with a timeout of five minutes. -/
def fiveMinuteJob (startedAt : Timestamp) : TimedJob where
  id := ⟨7⟩
  state := .pending
  startedAt := some startedAt
  timeoutMs := 300000

def epoch : Timestamp := ⟨0, by decide, by decide⟩

def hourLater : Timestamp := ⟨3600 * 10 ^ 9, by decide, by decide⟩

theorem started_job_expires_in_time : (fiveMinuteJob epoch).ExpiresInTime epoch hourLater :=
  (expires_in_time_iff (fiveMinuteJob epoch) (by decide)).mpr (by
    intro startedAt started
    cases started
    exact Or.inl (by decide))

/-- A job that another machine starts an hour ahead has expired at once. -/
theorem job_ahead_of_clock_expires :
    ¬∀ (job : TimedJob) (now later : Timestamp), now ≤ later → job.ExpiresInTime now later := by
  intro inTime
  have within : (fiveMinuteJob hourLater).WithinTimeout epoch :=
    within_timeout_of_ahead rfl (by decide)
  have expired := (inTime (fiveMinuteJob hourLater) epoch epoch (by decide)).1 within
  revert expired
  decide

/-! ## The cleanup -/

/-- The cleanup picks a job exactly if it is stored and has expired. -/
theorem mem_cleanup_iff {stored : List TimedJob} {clock : JobId → Timestamp} {picked : List JobId}
    (cleaned : cleanupExpiredJobs (.ok stored) clock = .ok picked) (jobId : JobId) :
    jobId ∈ picked ↔ ∃ job ∈ stored, job.id = jobId ∧ job.hasExpired (clock jobId) = true := by
  cases cleaned
  simp only [List.mem_map, List.mem_filter]
  constructor
  · rintro ⟨job, ⟨member, expired⟩, rfl⟩
    exact ⟨job, member, rfl, expired⟩
  · rintro ⟨job, member, rfl, expired⟩
    exact ⟨job, ⟨member, expired⟩, rfl⟩

/-- Jobs whose start is not ahead of the clock are picked only past their timeout, and
picked again by every later cleanup. -/
theorem cleanup_in_time {stored : List TimedJob} {clock laterClock : JobId → Timestamp}
    {picked pickedLater : List JobId} (leads : ∀ job ∈ stored, job.LeadIsSmall (clock job.id))
    (order : ∀ jobId, clock jobId ≤ laterClock jobId)
    (cleaned : cleanupExpiredJobs (.ok stored) clock = .ok picked)
    (cleanedLater : cleanupExpiredJobs (.ok stored) laterClock = .ok pickedLater) :
    picked ⊆ pickedLater ∧
      ∀ jobId ∈ picked, ∃ job ∈ stored, job.id = jobId ∧ ¬job.WithinTimeout (clock jobId) := by
  constructor
  · intro jobId chosen
    obtain ⟨job, member, rfl, expired⟩ := (mem_cleanup_iff cleaned jobId).mp chosen
    have inTime := in_time_of_lead (order job.id) (leads job member)
    exact (mem_cleanup_iff cleanedLater job.id).mpr ⟨job, member, rfl, inTime.2 expired⟩
  · intro jobId chosen
    obtain ⟨job, member, rfl, expired⟩ := (mem_cleanup_iff cleaned jobId).mp chosen
    have inTime := in_time_of_lead (order job.id) (leads job member)
    refine ⟨job, member, rfl, ?_⟩
    intro within
    rw [inTime.1 within] at expired
    cases expired

end TimedJob
end HodeiJobs.Jobs
