import HodeiJobs.Commands.OutboxRelay
import HodeiJobs.Dispatch.Dispatchers
import HodeiJobs.Library.Text

/-!
# Idempotency keys

The key of a saga begins with its type and names its job, except that a cancellation
has its reason for a key.
-/

namespace HodeiJobs.Dispatch

open HodeiJobs.Commands (zerosText)
open HodeiJobs.Execution (JobId WorkerId ExecutionSaga UuidText)
open HodeiJobs.Library
open HodeiJobs.Sagas (Uuid Duration SagaType)

/-- `Display` of a UUID writes hexadecimal digits and hyphens. -/
structure HyphenatedText extends UuidText where
  symbols : ∀ id, ∀ symbol ∈ (display id).toList, symbol ∈ "0123456789abcdef-".toList

namespace HyphenatedText

variable (texts : HyphenatedText)

theorem display_injective {left right : Uuid} (same : texts.display left = texts.display right) :
    left = right := by
  have parsed := congrArg texts.parse same
  rw [texts.parse_display, texts.parse_display] at parsed
  exact Option.some.inj parsed

theorem colon_not_mem_display (id : Uuid) : ':' ∉ (texts.display id).toList := by
  intro member
  exact absurd (texts.symbols id ':' member) (by decide)

end HyphenatedText

/-! ## Constructors -/

/-- A saga and the text in its field `idempotency_key`, where it has one. -/
inductive BuiltSaga (Settings : Type) where
  | execution (saga : ExecutionSaga) (idempotencyKey : String)
  | provisioning (saga : ProvisioningSaga Settings) (idempotencyKey : String)
  | recovery (saga : RecoverySaga) (idempotencyKey : String)
  | cancellation (saga : CancellationSaga)
  | timeout (saga : TimeoutSaga) (idempotencyKey : String)

namespace BuiltSaga

variable {Settings : Type}

def sagaType : BuiltSaga Settings → SagaType
  | .execution _ _ => .execution
  | .provisioning _ _ => .provisioning
  | .recovery _ _ => .recovery
  | .cancellation _ => .cancellation
  | .timeout _ _ => .timeout

def idempotencyKey : BuiltSaga Settings → Option String
  | .execution _ idempotencyKey => some idempotencyKey
  | .provisioning _ idempotencyKey => some idempotencyKey
  | .recovery _ idempotencyKey => some idempotencyKey
  | .cancellation saga => some saga.reason
  | .timeout _ idempotencyKey => some idempotencyKey

def jobId : BuiltSaga Settings → Option JobId
  | .execution saga _ => some saga.jobId
  | .provisioning saga _ => saga.jobId
  | .recovery saga _ => some saga.jobId
  | .cancellation saga => some saga.jobId
  | .timeout saga _ => some saga.jobId

end BuiltSaga

/-- A call of a constructor. `ProvisioningSaga::new` draws the id of a job. -/
inductive Construction (Settings : Type) where
  | executionNew (jobId : JobId)
  | executionWithWorker (jobId : JobId) (workerId : WorkerId)
  | provisioningNew (spec : WorkerSpec Settings) (providerId : ProviderId) (generated : JobId)
  | provisioningWithJob (spec : WorkerSpec Settings) (providerId : ProviderId) (jobId : JobId)
  | recoveryNew (jobId : JobId) (failedWorkerId : WorkerId) (targetProviderId : Option String)
  | cancellationNew (jobId : JobId) (reason : String)
  | timeoutNew (jobId : JobId) (timeoutDuration : Duration) (reason : String)

namespace Construction

variable {Settings : Type} (texts : HyphenatedText)

def build : Construction Settings → BuiltSaga Settings
  | .executionNew jobId => .execution ⟨jobId, none⟩ ("execution:" ++ texts.display jobId.uuid)
  | .executionWithWorker jobId workerId =>
      .execution ⟨jobId, some workerId⟩ ("execution:" ++ texts.display jobId.uuid)
  | .provisioningNew spec providerId generated =>
      .provisioning ⟨spec, providerId, some generated⟩
        ("provisioning:" ++ texts.display providerId.uuid ++ ":" ++ texts.display generated.uuid)
  | .provisioningWithJob spec providerId jobId =>
      .provisioning ⟨spec, providerId, some jobId⟩
        ("provisioning:" ++ texts.display providerId.uuid ++ ":" ++ texts.display jobId.uuid)
  | .recoveryNew jobId failedWorkerId targetProviderId =>
      .recovery ⟨jobId, failedWorkerId, targetProviderId⟩
        ("recovery:" ++ texts.display jobId.uuid ++ ":" ++ texts.display failedWorkerId.uuid)
  | .cancellationNew jobId reason => .cancellation ⟨jobId, reason⟩
  | .timeoutNew jobId timeoutDuration reason =>
      .timeout ⟨jobId, timeoutDuration, reason⟩
        ("timeout:" ++ texts.display jobId.uuid ++ ":" ++ reason)

/-- The reason is spelled like a key of the other kinds, with these ids in it. -/
def Spells (reason : String) : Construction Settings → Prop
  | .executionNew jobId => reason = "execution:" ++ texts.display jobId.uuid
  | .executionWithWorker jobId _ => reason = "execution:" ++ texts.display jobId.uuid
  | .provisioningNew _ providerId generated =>
      reason =
        "provisioning:" ++ texts.display providerId.uuid ++ ":" ++ texts.display generated.uuid
  | .provisioningWithJob _ providerId jobId =>
      reason = "provisioning:" ++ texts.display providerId.uuid ++ ":" ++ texts.display jobId.uuid
  | .recoveryNew jobId failedWorkerId _ =>
      reason = "recovery:" ++ texts.display jobId.uuid ++ ":" ++ texts.display failedWorkerId.uuid
  | .cancellationNew _ _ => False
  | .timeoutNew jobId _ cause => reason = "timeout:" ++ texts.display jobId.uuid ++ ":" ++ cause

/-- Two cancellations for one reason and two jobs, or a cancellation for a reason that
is spelled like the key of the other saga. -/
inductive ReasonClash : Construction Settings → Construction Settings → Prop
  | sameReason (left right : JobId) (reason : String) (different : left ≠ right) :
      ReasonClash (.cancellationNew left reason) (.cancellationNew right reason)
  | leftSpells (jobId : JobId) (reason : String) (other : Construction Settings)
      (spelled : Spells texts reason other) : ReasonClash (.cancellationNew jobId reason) other
  | rightSpells (jobId : JobId) (reason : String) (other : Construction Settings)
      (spelled : Spells texts reason other) : ReasonClash other (.cancellationNew jobId reason)

/-! ## Keys that begin with a type -/

def tag : SagaType → String
  | .provisioning => "provisioning"
  | .execution => "execution"
  | .recovery => "recovery"
  | .cancellation => "cancellation"
  | .timeout => "timeout"
  | .cleanup => "cleanup"

theorem tag_injective {left right : SagaType} (same : tag left = tag right) : left = right := by
  cases left <;> cases right <;> first | rfl | exact absurd same (by decide)

theorem colon_not_mem_tag (sagaType : SagaType) : ':' ∉ (tag sagaType).toList := by
  cases sagaType <;> decide

/-- What follows the first colon. -/
def tail : Construction Settings → String
  | .executionNew jobId => texts.display jobId.uuid
  | .executionWithWorker jobId _ => texts.display jobId.uuid
  | .provisioningNew _ providerId generated =>
      texts.display providerId.uuid ++ ":" ++ texts.display generated.uuid
  | .provisioningWithJob _ providerId jobId =>
      texts.display providerId.uuid ++ ":" ++ texts.display jobId.uuid
  | .recoveryNew jobId failedWorkerId _ =>
      texts.display jobId.uuid ++ ":" ++ texts.display failedWorkerId.uuid
  | .cancellationNew _ reason => reason
  | .timeoutNew jobId _ reason => texts.display jobId.uuid ++ ":" ++ reason

variable {texts} {left right : Construction Settings}

theorem key_tagged (typed : (left.build texts).sagaType ≠ .cancellation) :
    (left.build texts).idempotencyKey =
      some (tag (left.build texts).sagaType ++ ":" ++ left.tail texts) := by
  cases left with
  | cancellationNew jobId reason => exact absurd rfl typed
  | executionNew | executionWithWorker => rfl
  | provisioningNew | provisioningWithJob | recoveryNew | timeoutNew =>
      simp only [build, BuiltSaga.idempotencyKey, BuiltSaga.sagaType, tag, tail,
        String.append_assoc]
      rfl

/-- The ids in a key have no colon in them, so the job can be read off. -/
theorem job_of_tail (sameType : (left.build texts).sagaType = (right.build texts).sagaType)
    (typed : (left.build texts).sagaType ≠ .cancellation)
    (same : left.tail texts = right.tail texts) :
    (left.build texts).jobId = (right.build texts).jobId := by
  have job : ∀ {id id' : JobId}, texts.display id.uuid = texts.display id'.uuid →
      some id = some id' := by
    intro id id' displays
    have uuids := texts.display_injective displays
    cases id
    cases id'
    exact congrArg (fun uuid => some (JobId.mk uuid)) uuids
  have split : ∀ {id id' : Uuid} {rest rest' : String},
      texts.display id ++ ":" ++ rest = texts.display id' ++ ":" ++ rest' →
        texts.display id = texts.display id' ∧ rest = rest' := by
    intro id id' rest rest' joined
    exact split_at_colon (texts.colon_not_mem_display id) (texts.colon_not_mem_display id') joined
  cases left with
  | executionNew | executionWithWorker => cases right <;> cases sameType <;> exact job same
  | provisioningNew | provisioningWithJob =>
      cases right <;> cases sameType <;> exact job (split same).2
  | recoveryNew | timeoutNew =>
      cases right <;> cases sameType
      exact job (split same).1
  | cancellationNew jobId reason => exact absurd rfl typed

theorem typed_keys_separate (leftTyped : (left.build texts).sagaType ≠ .cancellation)
    (rightTyped : (right.build texts).sagaType ≠ .cancellation)
    (same : (left.build texts).idempotencyKey = (right.build texts).idempotencyKey) :
    (left.build texts).sagaType = (right.build texts).sagaType ∧
      (left.build texts).jobId = (right.build texts).jobId := by
  rw [key_tagged leftTyped, key_tagged rightTyped] at same
  obtain ⟨tags, tails⟩ := split_at_colon (colon_not_mem_tag _) (colon_not_mem_tag _)
    (Option.some.inj same)
  have sameType := tag_injective tags
  exact ⟨sameType, job_of_tail sameType leftTyped tails⟩

/-! ## Keys of cancellations -/

theorem cancellation_or_typed (texts : HyphenatedText) (construction : Construction Settings) :
    (∃ jobId reason, construction = .cancellationNew jobId reason) ∨
      (construction.build texts).sagaType ≠ .cancellation := by
  cases construction with
  | cancellationNew jobId reason => exact .inl ⟨jobId, reason, rfl⟩
  | executionNew | executionWithWorker | provisioningNew | provisioningWithJob | recoveryNew
  | timeoutNew => exact .inr (fun same => by cases same)

theorem spells_iff (reason : String) (typed : (right.build texts).sagaType ≠ .cancellation) :
    Spells texts reason right ↔ some reason = (right.build texts).idempotencyKey := by
  cases right with
  | cancellationNew jobId reason => exact absurd rfl typed
  | executionNew | executionWithWorker | provisioningNew | provisioningWithJob | recoveryNew
  | timeoutNew => exact Option.some_inj.symm

theorem not_spells_cancellation {reason : String} (spelled : Spells texts reason right) :
    (right.build texts).sagaType ≠ .cancellation := by
  intro same
  cases right with
  | cancellationNew jobId cause => exact spelled
  | executionNew | executionWithWorker | provisioningNew | provisioningWithJob | recoveryNew
  | timeoutNew => cases same

theorem clash_keys (clash : ReasonClash texts left right) :
    (left.build texts).idempotencyKey = (right.build texts).idempotencyKey ∧
      ((left.build texts).sagaType ≠ (right.build texts).sagaType ∨
        (left.build texts).jobId ≠ (right.build texts).jobId) := by
  cases clash with
  | sameReason left right reason different =>
      exact ⟨rfl, .inr fun same => different (Option.some.inj same)⟩
  | leftSpells jobId reason other spelled =>
      have typed := not_spells_cancellation spelled
      exact ⟨(spells_iff reason typed).mp spelled, .inl fun same => typed same.symm⟩
  | rightSpells jobId reason other spelled =>
      have typed := not_spells_cancellation spelled
      exact ⟨((spells_iff reason typed).mp spelled).symm, .inl typed⟩

variable (texts left right) in
/-- One key stands for sagas of one type and one job, except where a reason makes it
the key of another saga. -/
theorem keys_separate_iff :
    ((left.build texts).idempotencyKey = (right.build texts).idempotencyKey →
      (left.build texts).sagaType = (right.build texts).sagaType ∧
        (left.build texts).jobId = (right.build texts).jobId) ↔
      ¬ReasonClash texts left right := by
  constructor
  · intro separate clash
    obtain ⟨keys, apart⟩ := clash_keys clash
    rcases apart with types | jobs
    · exact types (separate keys).1
    · exact jobs (separate keys).2
  · intro distinct same
    rcases cancellation_or_typed texts left with ⟨jobId, reason, rfl⟩ | leftTyped
    · rcases cancellation_or_typed texts right with ⟨jobId', reason', rfl⟩ | rightTyped
      · have reasons : reason = reason' := Option.some.inj same
        subst reasons
        by_cases jobs : jobId = jobId'
        · exact ⟨rfl, congrArg some jobs⟩
        · exact absurd (.sameReason jobId jobId' reason jobs) distinct
      · have spelled := (spells_iff reason rightTyped).mpr same
        exact absurd (.leftSpells jobId reason right spelled) distinct
    · rcases cancellation_or_typed texts right with ⟨jobId', reason', rfl⟩ | rightTyped
      · have spelled := (spells_iff reason' leftTyped).mpr same.symm
        exact absurd (.rightSpells jobId' reason' left spelled) distinct
      · exact typed_keys_separate leftTyped rightTyped same

end Construction

/-- UUIDs that are written as so many zeros. -/
def zerosHyphenated : HyphenatedText where
  toUuidText := zerosText
  symbols id symbol member := by
    have zeros : symbol = '0' := by
      have listed : symbol ∈ List.replicate id '0' := by
        simpa [zerosText] using member
      exact List.eq_of_mem_replicate listed
    rw [zeros]
    decide

/-- Two users cancel two jobs and give the same reason. -/
theorem user_requested_twice :
    let first : Construction Unit := .cancellationNew ⟨1⟩ "user_requested"
    let second : Construction Unit := .cancellationNew ⟨2⟩ "user_requested"
    (first.build zerosHyphenated).idempotencyKey =
        (second.build zerosHyphenated).idempotencyKey ∧
      (first.build zerosHyphenated).jobId ≠ (second.build zerosHyphenated).jobId := by
  exact ⟨rfl, by decide⟩

end HodeiJobs.Dispatch
