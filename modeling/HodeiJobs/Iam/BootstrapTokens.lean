import Mathlib.Algebra.Group.Nat.Defs
import HodeiJobs.Execution.Repositories
import HodeiJobs.Library.Runs

/-!
# Bootstrap tokens

`PostgresWorkerBootstrapTokenStore`: a worker registers with a token that is issued for it, once
and in time. Server and database have one clock. The server reads it to the nanosecond; `NOW()`
and the columns keep whole microseconds.
-/

namespace HodeiJobs.Iam

open HodeiJobs.Execution (WorkerId)
open HodeiJobs.Library
open HodeiJobs.Sagas (DateTime Duration Uuid UuidSource)

structure OtpToken where
  uuid : Uuid
  deriving DecidableEq

inductive DomainError where
  | invalidOtpToken (message : String)
  deriving DecidableEq

/-- `DateTime<Utc>` as the server has it, in nanoseconds. -/
abbrev ServerTime := Int

/-- The time as the database has it. -/
def inMicroseconds (time : ServerTime) : DateTime := time / 1000

/-- A row of `worker_bootstrap_tokens`. -/
structure TokenRow where
  token : OtpToken
  workerId : WorkerId
  expiresAt : DateTime
  consumedAt : Option DateTime

/-- The longest duration of the time library, in nanoseconds: `i64::MAX` milliseconds. -/
def maxNanos : Nat := 9223372036854775807 * 1000000

/-- `from_std(ttl).unwrap_or_default()`, in nanoseconds. -/
def fromStdOrDefault (ttl : Duration) : Nat := if ttl.nanos ≤ maxNanos then ttl.nanos else 0

/-- `now + ttl`, which panics after the last time that the library knows, as it is stored. -/
def expiresAt (lastTime now : ServerTime) (ttl : Duration) : Option DateTime :=
  let expiry := now + fromStdOrDefault ttl
  if expiry ≤ lastTime then some (inMicroseconds expiry) else none

abbrev TokenStore := List TokenRow

namespace TokenStore

def issue (store : TokenStore) (lastTime : ServerTime) (token : OtpToken) (workerId : WorkerId)
    (ttl : Duration) (now : ServerTime) : Option OtpToken × TokenStore :=
  match expiresAt lastTime now ttl with
  | none => (none, store)
  | some expiresAt => (some token, store ++ [⟨token, workerId, expiresAt, none⟩])

/-- The `WHERE` clause of `consume`. -/
def isConsumable (token : OtpToken) (workerId : WorkerId) (now : DateTime) (row : TokenRow) :
    Bool :=
  decide (row.token = token ∧ row.workerId = workerId ∧ now < row.expiresAt ∧
    row.consumedAt = none)

/-- The `UPDATE` of `consume`. -/
def consumeRow (token : OtpToken) (workerId : WorkerId) (now : DateTime) (row : TokenRow) :
    TokenRow :=
  if isConsumable token workerId now row then { row with consumedAt := some now } else row

def consume (store : TokenStore) (token : OtpToken) (workerId : WorkerId) (now : DateTime) :
    Except DomainError Unit × TokenStore :=
  let rowsAffected := store.countP (isConsumable token workerId now)
  let store := store.map (consumeRow token workerId now)
  if rowsAffected = 0 then
    (.error (.invalidOtpToken "Token not found, expired, or already consumed"), store)
  else (.ok (), store)

def cleanupExpired (store : TokenStore) (now : DateTime) : Nat × TokenStore :=
  (store.countP fun row => decide (row.expiresAt < now),
    store.filter fun row => decide (¬row.expiresAt < now))

end TokenStore

/-! ## Runs -/

/-- Statements, each some time after the one before. The clock was read for an `INSERT` some
time before it. -/
inductive TokenMove where
  | issue (waited age : Nat) (workerId : WorkerId) (ttl : Duration)
  | consume (waited : Nat) (token : OtpToken) (workerId : WorkerId)
  | cleanupExpired (waited : Nat)

/-- A token that `issue` has returned. -/
structure Issue where
  token : OtpToken
  workerId : WorkerId
  issuedAt : ServerTime
  ttl : Duration

/-- The time is before the issue time and the `ttl`. -/
def Issue.IsLiveAt (issue : Issue) (now : ServerTime) : Prop :=
  now < issue.issuedAt + issue.ttl.nanos

instance (issue : Issue) (now : ServerTime) : Decidable (issue.IsLiveAt now) :=
  inferInstanceAs (Decidable (now < issue.issuedAt + issue.ttl.nanos))

/-- The time library knows durations as long as the `ttl`, and the time is not in the microsecond
in which it ends. -/
def Issue.IsKeptAt (issue : Issue) (now : ServerTime) : Prop :=
  issue.ttl.nanos ≤ maxNanos ∧
    inMicroseconds now ≠ inMicroseconds (issue.issuedAt + issue.ttl.nanos)

/-- A `consume` that has succeeded. -/
structure Consumption where
  token : OtpToken
  workerId : WorkerId
  consumedAt : ServerTime

structure TokenRun where
  store : TokenStore
  clock : ServerTime
  issues : List Issue
  consumptions : List Consumption

namespace TokenRun

def start (now : ServerTime) : TokenRun := ⟨[], now, [], []⟩

section Step

variable (ids : UuidSource) (lastTime : ServerTime)

def issuing (run : TokenRun) (now issuedAt : ServerTime) (workerId : WorkerId) (ttl : Duration) :
    TokenRun :=
  let drawn : OtpToken := ⟨ids.newV4 (run.issues.map fun issue => issue.token.uuid)⟩
  let (issued, store) := run.store.issue lastTime drawn workerId ttl issuedAt
  { run with
    store := store
    clock := now
    issues := run.issues ++ issued.toList.map fun token => ⟨token, workerId, issuedAt, ttl⟩ }

def consuming (run : TokenRun) (now : ServerTime) (token : OtpToken) (workerId : WorkerId) :
    TokenRun :=
  let (outcome, store) := run.store.consume token workerId (inMicroseconds now)
  { run with
    store := store
    clock := now
    consumptions := run.consumptions ++
      match outcome with
      | .ok () => [⟨token, workerId, now⟩]
      | .error _ => [] }

def step (run : TokenRun) : TokenMove → TokenRun
  | .issue waited age workerId ttl =>
      run.issuing ids lastTime (run.clock + waited) (run.clock + waited - age) workerId ttl
  | .consume waited token workerId => run.consuming (run.clock + waited) token workerId
  | .cleanupExpired waited =>
      { run with
        store := (run.store.cleanupExpired (inMicroseconds (run.clock + waited))).2
        clock := run.clock + waited }

end Step

def IsConsumed (run : TokenRun) (token : OtpToken) : Prop :=
  ∃ consumption ∈ run.consumptions, consumption.token = token

/-- Each token is consumed at most once, with the worker that it was issued for and in time. -/
structure Justified (run : TokenRun) : Prop where
  once : (run.consumptions.map Consumption.token).Nodup
  issued : ∀ consumption ∈ run.consumptions, ∃ issue ∈ run.issues,
    issue.token = consumption.token ∧ issue.workerId = consumption.workerId ∧
      issue.IsLiveAt consumption.consumedAt

/-- A token of the worker that is in time and not consumed yet. -/
def Asks (run : TokenRun) (now : ServerTime) (token : OtpToken) (workerId : WorkerId)
    (issue : Issue) : Prop :=
  issue ∈ run.issues ∧ issue.token = token ∧ issue.workerId = workerId ∧
    issue.IsLiveAt now ∧ ¬run.IsConsumed token

/-- A `consume` that ought to succeed does. -/
def Succeeds (run : TokenRun) : TokenMove → Prop
  | .consume waited token workerId =>
      ∀ issue, run.Asks (run.clock + waited) token workerId issue →
        (run.store.consume token workerId (inMicroseconds (run.clock + waited))).1 = .ok ()
  | _ => True

def MeetsKept (run : TokenRun) : TokenMove → Prop
  | .consume waited token workerId =>
      ∀ issue, run.Asks (run.clock + waited) token workerId issue →
        issue.IsKeptAt (run.clock + waited)
  | _ => True

end TokenRun

/-! ## Times -/

section Times

variable {lastTime now later : ServerTime} {expiry : DateTime}

theorem in_microseconds_mono (ordered : now ≤ later) :
    inMicroseconds now ≤ inMicroseconds later :=
  Int.ediv_le_ediv (by decide) ordered

theorem lt_of_in_microseconds_lt (before : inMicroseconds now < inMicroseconds later) :
    now < later := by
  by_contra ordered
  exact absurd (in_microseconds_mono (Int.not_lt.mp ordered)) (Int.not_le.mpr before)

/-- Only the last microsecond, if it is not a whole one, is lost. -/
theorem in_microseconds_lt_iff (ordered : now < later) :
    inMicroseconds now < inMicroseconds later ↔ inMicroseconds now ≠ inMicroseconds later :=
  ⟨Int.ne_of_lt, lt_of_le_of_ne (in_microseconds_mono (Int.le_of_lt ordered))⟩

theorem expires_at_eq_some {issuedAt : ServerTime} {ttl : Duration}
    (expires : expiresAt lastTime issuedAt ttl = some expiry) :
    expiry = inMicroseconds (issuedAt + fromStdOrDefault ttl) := by
  unfold expiresAt at expires
  dsimp only at expires
  split at expires
  · exact (Option.some.inj expires).symm
  · cases expires

theorem live_of_lt {issue : Issue} (expires : expiresAt lastTime issue.issuedAt issue.ttl =
    some expiry) (before : inMicroseconds now < expiry) : issue.IsLiveAt now := by
  rw [expires_at_eq_some expires] at before
  have live := lt_of_in_microseconds_lt before
  have shorter : (fromStdOrDefault issue.ttl : Int) ≤ issue.ttl.nanos := by
    unfold fromStdOrDefault
    split
    · exact Int.le_refl _
    · exact Int.natCast_nonneg _
  exact lt_of_lt_of_le live (Int.add_le_add_left shorter _)

/-- What is stored is what the `ttl` says exactly if it is kept. -/
theorem lt_expiry_iff {issue : Issue} (expires : expiresAt lastTime issue.issuedAt issue.ttl =
    some expiry) (past : issue.issuedAt ≤ now) (live : issue.IsLiveAt now) :
    inMicroseconds now < expiry ↔ issue.IsKeptAt now := by
  rw [expires_at_eq_some expires]
  unfold fromStdOrDefault Issue.IsKeptAt
  by_cases known : issue.ttl.nanos ≤ maxNanos
  · rw [if_pos known, and_iff_right known]
    exact in_microseconds_lt_iff live
  · rw [if_neg known, Int.natCast_zero, Int.add_zero]
    refine iff_of_false ?_ fun kept => known kept.1
    exact Int.not_lt.mpr (in_microseconds_mono past)

end Times

/-! ## The statements -/

section Statements

variable (store : TokenStore) (token : OtpToken) (workerId : WorkerId) (now : DateTime)

/-- A row of the token that can still be consumed. -/
def TokenStore.Offers : Prop := ∃ row ∈ store, TokenStore.isConsumable token workerId now row = true

theorem consume_offered (offers : store.Offers token workerId now) :
    store.consume token workerId now =
      (.ok (), store.map (TokenStore.consumeRow token workerId now)) := by
  obtain ⟨row, member, consumable⟩ := offers
  have affected : store.countP (TokenStore.isConsumable token workerId now) ≠ 0 :=
    Nat.ne_of_gt (List.countP_pos_iff.mpr ⟨row, member, consumable⟩)
  unfold TokenStore.consume
  dsimp only
  rw [if_neg affected]

theorem consume_not_offered (offersNot : ¬store.Offers token workerId now) :
    store.consume token workerId now =
      (.error (.invalidOtpToken "Token not found, expired, or already consumed"), store) := by
  have none : ∀ row ∈ store, ¬TokenStore.isConsumable token workerId now row = true :=
    fun row member consumable => offersNot ⟨row, member, consumable⟩
  have unaffected : store.countP (TokenStore.isConsumable token workerId now) = 0 :=
    List.countP_eq_zero.mpr none
  have same : store.map (TokenStore.consumeRow token workerId now) = store := by
    calc
      _ = store.map id := List.map_congr_left fun row member => if_neg (none row member)
      _ = store := List.map_id store
  unfold TokenStore.consume
  dsimp only
  rw [if_pos unaffected, same]

/-- Consuming changes only when a row was consumed. -/
theorem consume_row_same (row : TokenRow) :
    (TokenStore.consumeRow token workerId now row).token = row.token ∧
    (TokenStore.consumeRow token workerId now row).workerId = row.workerId ∧
    (TokenStore.consumeRow token workerId now row).expiresAt = row.expiresAt := by
  unfold TokenStore.consumeRow
  split <;> exact ⟨rfl, rfl, rfl⟩

theorem consumed_at_consume_row (row : TokenRow) :
    (TokenStore.consumeRow token workerId now row).consumedAt = none ↔
      row.consumedAt = none ∧ ¬TokenStore.isConsumable token workerId now row = true := by
  unfold TokenStore.consumeRow
  by_cases consumable : TokenStore.isConsumable token workerId now row = true
  · simp [consumable]
  · simp [consumable]

theorem consume_ok_iff :
    (store.consume token workerId now).1 = .ok () ↔ store.Offers token workerId now := by
  constructor
  · intro ok
    by_contra offersNot
    rw [consume_not_offered store token workerId now offersNot] at ok
    cases ok
  · intro offers
    rw [consume_offered store token workerId now offers]

end Statements

/-! ## What ties the rows to what was issued -/

namespace TokenRun

structure Tracked (lastTime : ServerTime) (run : TokenRun) : Prop where
  distinct : (run.issues.map Issue.token).Nodup
  past : ∀ issue ∈ run.issues, issue.issuedAt ≤ run.clock
  rows : ∀ row ∈ run.store, ∃ issue ∈ run.issues, issue.token = row.token ∧
    issue.workerId = row.workerId ∧
    expiresAt lastTime issue.issuedAt issue.ttl = some row.expiresAt
  marks : ∀ row ∈ run.store, row.consumedAt = none ↔ ¬run.IsConsumed row.token
  present : ∀ issue ∈ run.issues, ∃ expiry,
    expiresAt lastTime issue.issuedAt issue.ttl = some expiry ∧
    ((∃ row ∈ run.store, row.token = issue.token) ∨ expiry < inMicroseconds run.clock)
  justified : run.Justified

section Tracked

variable {lastTime : ServerTime} {run : TokenRun}

theorem Tracked.same_issue (tracked : run.Tracked lastTime) {issue other : Issue}
    (member : issue ∈ run.issues) (otherMember : other ∈ run.issues)
    (same : issue.token = other.token) : issue = other :=
  List.inj_on_of_nodup_map tracked.distinct member otherMember same

/-- The row of an issued token. -/
theorem Tracked.row_of (tracked : run.Tracked lastTime) {issue : Issue} {row : TokenRow}
    (member : issue ∈ run.issues) (stored : row ∈ run.store) (same : row.token = issue.token) :
    issue.workerId = row.workerId ∧
      expiresAt lastTime issue.issuedAt issue.ttl = some row.expiresAt := by
  obtain ⟨other, otherMember, sameToken, worker, expires⟩ := tracked.rows row stored
  obtain rfl := tracked.same_issue otherMember member (sameToken.trans same)
  exact ⟨worker, expires⟩

/-- Whether an issued token can be consumed. -/
theorem Tracked.offers_iff (tracked : run.Tracked lastTime) {issue : Issue}
    (member : issue ∈ run.issues) {now : ServerTime} {expiry : DateTime} (later : run.clock ≤ now)
    (expires : expiresAt lastTime issue.issuedAt issue.ttl = some expiry)
    (unconsumed : ¬run.IsConsumed issue.token) :
    run.store.Offers issue.token issue.workerId (inMicroseconds now) ↔
      inMicroseconds now < expiry := by
  constructor
  · rintro ⟨row, stored, consumable⟩
    obtain ⟨token, -, inTime, -⟩ := of_decide_eq_true consumable
    obtain ⟨-, sameExpiry⟩ := tracked.row_of member stored token
    rw [expires] at sameExpiry
    rw [Option.some.inj sameExpiry]
    exact inTime
  · intro inTime
    obtain ⟨other, sameExpiry, stored | gone⟩ := tracked.present issue member
    · obtain ⟨row, stored, token⟩ := stored
      obtain ⟨worker, rowExpiry⟩ := tracked.row_of member stored token
      rw [expires] at rowExpiry
      have unmarked : row.consumedAt = none := by
        rw [tracked.marks row stored, token]
        exact unconsumed
      refine ⟨row, stored, decide_eq_true ⟨token, worker.symm, ?_, unmarked⟩⟩
      rw [← Option.some.inj rowExpiry]
      exact inTime
    · rw [expires] at sameExpiry
      rw [← Option.some.inj sameExpiry] at gone
      exact absurd (lt_trans (lt_of_lt_of_le gone (in_microseconds_mono later)) inTime)
        (lt_irrefl _)

/-- Time goes by. -/
theorem Tracked.waits (tracked : run.Tracked lastTime) {now : ServerTime}
    (later : run.clock ≤ now) :
    ({ run with clock := now } : TokenRun).Tracked lastTime where
  distinct := tracked.distinct
  past issue member := le_trans (tracked.past issue member) later
  rows := tracked.rows
  marks := tracked.marks
  present issue member := by
    obtain ⟨expiry, expires, stored | gone⟩ := tracked.present issue member
    · exact ⟨expiry, expires, .inl stored⟩
    · exact ⟨expiry, expires, .inr (lt_of_lt_of_le gone (in_microseconds_mono later))⟩
  justified := ⟨tracked.justified.once, tracked.justified.issued⟩

theorem Tracked.cleans (tracked : run.Tracked lastTime) {now : ServerTime}
    (later : run.clock ≤ now) :
    ({ run with
      store := (run.store.cleanupExpired (inMicroseconds now)).2
      clock := now } : TokenRun).Tracked lastTime where
  distinct := tracked.distinct
  past := (tracked.waits later).past
  rows row stored := tracked.rows row (List.mem_of_mem_filter stored)
  marks row stored := tracked.marks row (List.mem_of_mem_filter stored)
  present issue member := by
    obtain ⟨expiry, expires, stored | gone⟩ := (tracked.waits later).present issue member
    · obtain ⟨row, stored, token⟩ := stored
      obtain ⟨-, rowExpiry⟩ := tracked.row_of member stored token
      by_cases expired : row.expiresAt < inMicroseconds now
      · exact ⟨row.expiresAt, rowExpiry, .inr expired⟩
      · refine ⟨expiry, expires, .inl ⟨row, ?_, token⟩⟩
        exact List.mem_filter.mpr ⟨stored, decide_eq_true expired⟩
    · exact ⟨expiry, expires, .inr gone⟩
  justified := ⟨tracked.justified.once, tracked.justified.issued⟩

/-- Only issued tokens are consumed. -/
theorem Tracked.issued_of_consumed (tracked : run.Tracked lastTime) {token : OtpToken}
    (consumed : run.IsConsumed token) : ∃ issue ∈ run.issues, issue.token = token := by
  obtain ⟨consumption, member, rfl⟩ := consumed
  obtain ⟨issue, issued, token, -⟩ := tracked.justified.issued consumption member
  exact ⟨issue, issued, token⟩

/-- A token that no issue has is not consumed yet. -/
theorem Tracked.unconsumed_of_fresh (tracked : run.Tracked lastTime) {token : OtpToken}
    (fresh : ∀ issue ∈ run.issues, issue.token ≠ token) : ¬run.IsConsumed token := by
  intro consumed
  obtain ⟨issue, issued, same⟩ := tracked.issued_of_consumed consumed
  exact fresh issue issued same

theorem drawn_token_fresh (run : TokenRun) (ids : UuidSource) :
    ∀ issue ∈ run.issues,
      issue.token ≠ ⟨ids.newV4 (run.issues.map fun issue => issue.token.uuid)⟩ := by
  intro issue member same
  have used : issue.token.uuid ∈ run.issues.map fun issue => issue.token.uuid :=
    List.mem_map.mpr ⟨issue, member, rfl⟩
  rw [same] at used
  exact ids.fresh _ used

theorem Tracked.issues (tracked : run.Tracked lastTime) (ids : UuidSource) {now : ServerTime}
    (later : run.clock ≤ now) {issuedAt : ServerTime} (read : issuedAt ≤ now) (workerId : WorkerId)
    (ttl : Duration) : (run.issuing ids lastTime now issuedAt workerId ttl).Tracked lastTime := by
  have waited := tracked.waits later
  have fresh := drawn_token_fresh run ids
  unfold issuing TokenStore.issue
  cases expires : expiresAt lastTime issuedAt ttl with
  | none =>
      simp only [Option.toList_none, List.map_nil, List.append_nil]
      exact waited
  | some expiry =>
      simp only [Option.toList_some, List.map_cons, List.map_nil]
      generalize (⟨ids.newV4 (run.issues.map fun issue => issue.token.uuid)⟩ : OtpToken) = token
        at fresh
      constructor
      case distinct => exact nodup_map_append tracked.distinct fresh
      case past =>
        intro issue member
        rcases List.mem_append.mp member with old | new
        · exact waited.past issue old
        · rw [List.mem_singleton.mp new]
          exact read
      case rows =>
        intro row stored
        rcases List.mem_append.mp stored with old | new
        · obtain ⟨issue, member, ofRow⟩ := tracked.rows row old
          exact ⟨issue, List.mem_append_left _ member, ofRow⟩
        · rw [List.mem_singleton.mp new]
          exact ⟨_, List.mem_append_right _ (List.mem_singleton_self _), rfl, rfl, expires⟩
      case marks =>
        intro row stored
        rcases List.mem_append.mp stored with old | new
        · exact tracked.marks row old
        · rw [List.mem_singleton.mp new]
          exact iff_of_true rfl (tracked.unconsumed_of_fresh fresh)
      case present =>
        intro issue member
        rcases List.mem_append.mp member with old | new
        · obtain ⟨other, expires, stored | gone⟩ := waited.present issue old
          · obtain ⟨row, stored, token⟩ := stored
            exact ⟨other, expires, .inl ⟨row, List.mem_append_left _ stored, token⟩⟩
          · exact ⟨other, expires, .inr gone⟩
        · rw [List.mem_singleton.mp new]
          exact ⟨expiry, expires,
            .inl ⟨_, List.mem_append_right _ (List.mem_singleton_self _), rfl⟩⟩
      case justified =>
        refine ⟨tracked.justified.once, ?_⟩
        intro consumption member
        obtain ⟨issue, issued, ofIssue⟩ := tracked.justified.issued consumption member
        exact ⟨issue, List.mem_append_left _ issued, ofIssue⟩

/-- Consuming a token makes it the one token that is consumed now and was not before. -/
theorem is_consumed_append {consumptions : List Consumption} {consumption : Consumption}
    (was : run.consumptions = consumptions) (store : TokenStore) (now : ServerTime)
    (other : OtpToken) :
    ({ run with
      store := store
      clock := now
      consumptions := consumptions ++ [consumption] } : TokenRun).IsConsumed other ↔
      run.IsConsumed other ∨ consumption.token = other := by
  simp only [IsConsumed, was, List.mem_append, List.mem_singleton, or_and_right, exists_or,
    exists_eq_left]

/-- Rows of one token can be consumed alike. -/
theorem Tracked.consumable_of_same (tracked : run.Tracked lastTime) {token : OtpToken}
    {workerId : WorkerId} {now : DateTime} {row other : TokenRow} (stored : row ∈ run.store)
    (otherStored : other ∈ run.store) (same : other.token = row.token)
    (consumable : TokenStore.isConsumable token workerId now row = true)
    (unmarked : other.consumedAt = none) :
    TokenStore.isConsumable token workerId now other = true := by
  obtain ⟨ofToken, ofWorker, inTime, -⟩ := of_decide_eq_true consumable
  obtain ⟨issue, member, token, worker, expires⟩ := tracked.rows row stored
  obtain ⟨otherWorker, otherExpires⟩ := tracked.row_of member otherStored (same.trans token.symm)
  rw [expires] at otherExpires
  refine decide_eq_true ⟨same.trans ofToken, ?_, ?_, unmarked⟩
  · rw [← otherWorker, worker, ofWorker]
  · rw [← Option.some.inj otherExpires]
    exact inTime

theorem Tracked.consumes_offered (tracked : run.Tracked lastTime) {now : ServerTime}
    (later : run.clock ≤ now) {token : OtpToken} {workerId : WorkerId}
    (offers : run.store.Offers token workerId (inMicroseconds now)) :
    (run.consuming now token workerId).Tracked lastTime := by
  have waited := tracked.waits later
  obtain ⟨row, stored, consumable⟩ := offers
  obtain ⟨ofToken, ofWorker, inTime, unmarked⟩ := of_decide_eq_true consumable
  unfold consuming
  rw [consume_offered run.store token workerId _ ⟨row, stored, consumable⟩]
  dsimp only
  constructor
  case distinct => exact tracked.distinct
  case past => exact waited.past
  case rows =>
    intro other otherStored
    obtain ⟨before, beforeStored, rfl⟩ := List.mem_map.mp otherStored
    obtain ⟨sameToken, sameWorker, sameExpiry⟩ := consume_row_same token workerId _ before
    rw [sameToken, sameWorker, sameExpiry]
    exact tracked.rows before beforeStored
  case marks =>
    intro other otherStored
    obtain ⟨before, beforeStored, rfl⟩ := List.mem_map.mp otherStored
    rw [consumed_at_consume_row, is_consumed_append rfl, (consume_row_same token workerId
      (inMicroseconds now) before).1, not_or, tracked.marks before beforeStored]
    apply and_congr_right
    intro unconsumed
    have beforeUnmarked := (tracked.marks before beforeStored).mpr unconsumed
    constructor
    · intro spared same
      exact spared (tracked.consumable_of_same stored beforeStored (same.symm.trans ofToken.symm)
        consumable beforeUnmarked)
    · intro different beforeConsumable
      exact different (of_decide_eq_true beforeConsumable).1.symm
  case present =>
    intro issue member
    obtain ⟨expiry, expires, ⟨before, beforeStored, sameToken⟩ | gone⟩ :=
      waited.present issue member
    · refine ⟨expiry, expires, .inl ⟨_, List.mem_map_of_mem beforeStored, ?_⟩⟩
      rw [(consume_row_same token workerId _ before).1, sameToken]
    · exact ⟨expiry, expires, .inr gone⟩
  case justified =>
    constructor
    case once =>
      apply nodup_map_append tracked.justified.once
      intro consumption before same
      exact (tracked.marks row stored).mp unmarked ⟨consumption, before, same.trans ofToken.symm⟩
    case issued =>
      intro consumption member
      rcases List.mem_append.mp member with old | new
      · exact tracked.justified.issued consumption old
      · rw [List.mem_singleton.mp new]
        obtain ⟨issue, issued, sameToken, sameWorker, expires⟩ := tracked.rows row stored
        exact ⟨issue, issued, sameToken.trans ofToken, sameWorker.trans ofWorker,
          live_of_lt expires inTime⟩

theorem Tracked.consumes (tracked : run.Tracked lastTime) {now : ServerTime}
    (later : run.clock ≤ now) (token : OtpToken) (workerId : WorkerId) :
    (run.consuming now token workerId).Tracked lastTime := by
  by_cases offers : run.store.Offers token workerId (inMicroseconds now)
  · exact tracked.consumes_offered later offers
  · unfold consuming
    rw [consume_not_offered run.store token workerId _ offers]
    simp only [List.append_nil]
    exact tracked.waits later

theorem tracked_step (ids : UuidSource) (run : TokenRun) (move : TokenMove)
    (tracked : run.Tracked lastTime) : (run.step ids lastTime move).Tracked lastTime := by
  have later (waited : Nat) : run.clock ≤ run.clock + waited :=
    Int.le_add_of_nonneg_right (Int.natCast_nonneg waited)
  cases move with
  | issue waited age workerId ttl =>
      exact tracked.issues ids (later waited)
        (Int.sub_le_self _ (Int.natCast_nonneg age)) workerId ttl
  | consume waited token workerId => exact tracked.consumes (later waited) token workerId
  | cleanupExpired waited => exact tracked.cleans (later waited)

theorem tracked_start (now : ServerTime) : (start now).Tracked lastTime where
  distinct := List.nodup_nil
  past _ member := absurd member List.not_mem_nil
  rows _ member := absurd member List.not_mem_nil
  marks _ member := absurd member List.not_mem_nil
  present _ member := absurd member List.not_mem_nil
  justified := ⟨List.nodup_nil, fun _ member => absurd member List.not_mem_nil⟩

/-- A consumption that ought to succeed does exactly if the `ttl` is kept. -/
theorem succeeds_iff (run : TokenRun) (move : TokenMove) (tracked : run.Tracked lastTime) :
    run.Succeeds move ↔ run.MeetsKept move := by
  cases move with
  | issue => exact Iff.rfl
  | cleanupExpired => exact Iff.rfl
  | consume waited token workerId =>
      apply forall_congr'
      intro issue
      apply imp_congr_right
      rintro ⟨member, rfl, rfl, live, unconsumed⟩
      have later : run.clock ≤ run.clock + waited :=
        Int.le_add_of_nonneg_right (Int.natCast_nonneg waited)
      obtain ⟨expiry, expires, -⟩ := tracked.present issue member
      rw [consume_ok_iff, tracked.offers_iff member later expires unconsumed]
      exact lt_expiry_iff expires (le_trans (tracked.past issue member) later) live

end Tracked

/-- All that is asked of a run. -/
structure Keeps (ids : UuidSource) (lastTime : DateTime) (start : TokenRun)
    (moves : List TokenMove) : Prop where
  justified : Always (step ids lastTime) Justified start moves
  succeeds : EachMove (step ids lastTime) Succeeds start moves

/-- Nobody consumes a token twice, for another worker or too late; and whoever ought to succeed
does, exactly as long as the store keeps each `ttl` that it is asked about. -/
theorem tokens_keep_iff (ids : UuidSource) (lastTime now : ServerTime) (moves : List TokenMove) :
    Always (step ids lastTime) Justified (start now) moves ∧
      (Keeps ids lastTime (start now) moves ↔
        EachMove (step ids lastTime) MeetsKept (start now) moves) := by
  have tracked := always_of_preserved (step ids lastTime) (Tracked lastTime)
    (tracked_step ids) moves (start now) (tracked_start now)
  have justified := always_imp (step ids lastTime) (fun _ tracked => tracked.justified) moves
    (start now) tracked
  have succeeds := each_move_congr_within (step ids lastTime) (Tracked lastTime) succeeds_iff
    (fun run move tracked _ => tracked_step ids run move tracked) moves (start now)
    (tracked_start now)
  refine ⟨justified, ?_⟩
  rw [← succeeds]
  exact ⟨Keeps.succeeds, fun each => ⟨justified, each⟩⟩

/-! A `ttl` longer than the time library knows, and one of five minutes that begins between two
microseconds. -/

/-- The end of the year 262142. -/
def lastKnown : ServerTime := 8210266876799999999999

def overlong : List TokenMove :=
  [.issue 0 0 ⟨1⟩ ⟨maxNanos + 1⟩, .consume 0 ⟨1⟩ ⟨1⟩]

def fiveMinutes : Duration := ⟨300 * 10 ^ 9⟩

def betweenMicroseconds : List TokenMove :=
  [.issue 500 0 ⟨1⟩ fiveMinutes, .consume (300 * 10 ^ 9 - 1) ⟨1⟩ ⟨1⟩]

theorem live_tokens_are_refused :
    ¬EachMove (step .successor lastKnown) Succeeds (start 0) overlong ∧
    ¬EachMove (step .successor lastKnown) Succeeds (start 0) betweenMicroseconds := by
  constructor
  · rintro ⟨-, succeeds, -⟩
    have ok := succeeds ⟨⟨1⟩, ⟨1⟩, 0, ⟨maxNanos + 1⟩⟩
      ⟨List.mem_singleton_self _, rfl, rfl, by decide, fun ⟨_, member, _⟩ => nomatch member⟩
    cases ok
  · rintro ⟨-, succeeds, -⟩
    have ok := succeeds ⟨⟨1⟩, ⟨1⟩, 500, fiveMinutes⟩
      ⟨List.mem_singleton_self _, rfl, rfl, by decide, fun ⟨_, member, _⟩ => nomatch member⟩
    cases ok

end TokenRun

end HodeiJobs.Iam
