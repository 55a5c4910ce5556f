import HodeiJobs.Templates.TriggerSteps

/-!
# What triggered runs leave

The execution numbers, the specifications, the run counts and the executions that any
interleaving of calls leaves, and the condition on its steps under which they are right.
-/

namespace HodeiJobs.Templates

open HodeiJobs.Commands (zerosText)
open HodeiJobs.Execution (UuidText)
open HodeiJobs.Jobs (Floats)
open HodeiJobs.Library
open HodeiJobs.Outbox (FieldTypes textTypes wholeFloats)
open HodeiJobs.Sagas (UuidSource)

variable {types : FieldTypes} {floats : Floats}

/-! ## What is asked of the runs -/

namespace Call

variable (stores : Stores types floats) (call : Call floats)

def AppliesParameters : Prop :=
  ∀ result, call.result = some (.ok result) →
    ∀ template, stores.templates.find call.command.templateId = some template →
      ∃ expected, template.spec.applyParameters call.command.parameters none = .ok expected ∧
        (stores.executions.find result.executionId).map JobExecution.jobSpec = some expected ∧
        ∃ jobId, result.jobId = some jobId ∧ stores.createdSpecs jobId = [expected]

def LeavesNoOrphan : Prop :=
  ∀ error, call.result = some (.error error) →
    ∀ row, stores.executions.find call.executionId = some row →
      ∃ jobId, row.jobId = some jobId ∧ stores.createdSpecs jobId ≠ []

end Call

namespace TriggerState

variable (state : TriggerState types floats)

/-- The number of the execution that a successful call returns. -/
def number (call : Call floats) : Option (JobTemplateId × UInt64) :=
  match call.result with
  | some (.ok result) =>
      (state.stores.executions.find result.executionId).map fun execution =>
        (execution.templateId, execution.executionNumber)
  | _ => none

def DistinctNumbers : Prop := (state.calls.filterMap state.number).Nodup

/-- The execution and the job of a successful call have the specification of the template,
with the parameters of the command. -/
def AppliesParameters : Prop := ∀ call ∈ state.calls, call.AppliesParameters state.stores

def succeededFor (id : JobTemplateId) (call : Call floats) : Bool :=
  match call.result with
  | some (.ok _) => call.command.templateId = id
  | _ => false

def successes (id : JobTemplateId) : Nat := state.calls.countP (succeededFor id)

/-- The run count of a template has grown by the successful calls for it. -/
def CountsRuns (templates : JobTemplates floats) : Prop :=
  ∀ id template, state.stores.templates.find id = some template →
    ∃ before, templates.find id = some before ∧
      template.runCount.toNat = before.runCount.toNat + state.successes id

/-- A call that has failed has left no execution, or one whose job has been created. -/
def LeavesNoOrphans : Prop := ∀ call ∈ state.calls, call.LeavesNoOrphan state.stores

def Keeps (templates : JobTemplates floats) (state : TriggerState types floats) : Prop :=
  (state.DistinctNumbers ∧ state.AppliesParameters) ∧
    state.CountsRuns templates ∧ state.LeavesNoOrphans

end TriggerState

/-! ## The conditions on the steps -/

namespace Call

variable (stores : Stores types floats) (call : Call floats) (fault : Option String)

/-- A call that saves its execution would still be given its number. -/
def Undisturbed : Prop :=
  ∀ template execution, call.stage = .saving template execution → fault = none →
    stores.executions.getNextExecutionNumber call.command.templateId none =
      .ok execution.executionNumber

/-- A call succeeds only if its parameters change nothing in the template. -/
def Unparametrized : Prop :=
  ∀ template execution job, call.stage = .creating template execution job → fault = none →
    template.spec.applyParameters call.command.parameters none = .ok template.spec

/-- The call does not create its job. -/
def Uncreated : Prop :=
  ∀ template execution job, call.stage = .creating template execution job → fault ≠ none

/-- The call does not fail once its execution has been saved. -/
def Unfailing : Prop := call.stage.isLate = true → fault = none

end Call

namespace TriggerState

def Undisturbed : TriggerState types floats → TriggerMove → Prop := Meets Call.Undisturbed

def Unparametrized : TriggerState types floats → TriggerMove → Prop :=
  Meets fun _ => Call.Unparametrized

/-- Of the calls that have saved their execution, none fails and none creates its job. -/
def Harmless (state : TriggerState types floats) (move : TriggerMove) : Prop :=
  state.Meets (fun _ => Call.Uncreated) move ∧ state.Meets (fun _ => Call.Unfailing) move

end TriggerState

/-! ## Orphans -/

section Orphans

variable {call other : Call floats} {stores after : Stores types floats} {stage : Stage floats}
  {fault : Option String}

/-- A step fails late, or leaves nothing behind if it fails. -/
theorem Handles.fails (handles : Handles call stores fault stage after) :
    (call.stage.isLate = true ∧ fault ≠ none ∧ (∃ error, stage = .failed error) ∧
        after = stores) ∨
      ((call.stage.isLate = true → fault = none) ∧ ∀ error, stage = .failed error →
        after = stores ∧ (call.stage = .failed error ∨ call.stage.row = some none)) := by
  obtain ⟨command, executionId, jobId, before⟩ := call
  cases handles with
  | @failed problem unfinished late =>
      by_cases isLate : before.isLate = true
      · exact .inl ⟨isLate, late isLate, ⟨problem, rfl⟩, rfl⟩
      · refine .inr ⟨fun again => absurd again isLate, ?_⟩
        intro error _
        refine ⟨rfl, .inr ?_⟩
        cases before <;> first | rfl | exact absurd rfl isLate | cases unfinished
  | rested finished =>
      refine .inr ⟨?_, fun error same => ⟨rfl, .inl same⟩⟩
      intro late
      have unfinished : Call.result ⟨command, executionId, jobId, before⟩ = none := by
        cases before <;> first | rfl | cases late
      exact absurd unfinished finished
  | found waits | numbered _ _ waits =>
      cases waits
      exact .inr ⟨fun late => (by cases late), fun error same => (by cases same)⟩
  | saved waits succeeds | linked waits succeeds | announced _ _ waits succeeds
  | created _ _ waits succeeds =>
      exact .inr ⟨fun _ => succeeds, fun error same => (by cases same)⟩

/-- What a late call has stored has no job yet. -/
theorem orphan_of_late (known : call.Known stores) (late : call.stage.isLate = true) :
    ∃ row, stores.executions.find call.executionId = some row ∧
      ∀ jobId, row.jobId = some jobId → stores.createdSpecs jobId = [] := by
  obtain ⟨command, executionId, jobId, before⟩ := call
  cases before with
  | linking template execution job =>
      refine ⟨_, known.row _ rfl, ?_⟩
      intro other linked
      cases linked
  | announcing template execution job | creating template execution job =>
      have made : Made _ _ _ jobId template execution job := known.tracks
      refine ⟨_, known.row _ rfl, ?_⟩
      intro other linked
      rw [made.linked, made.jobId] at linked
      cases linked
      exact known.created
  | _ => cases late

theorem Call.Steps.leaves_no_orphan (steps : call.Steps stores stage after)
    (different : other.executionId ≠ call.executionId) (clean : other.LeavesNoOrphan stores) :
    other.LeavesNoOrphan after := by
  intro error failed row stored
  rw [steps.others _ different] at stored
  obtain ⟨jobId, linked, created⟩ := clean error failed row stored
  exact ⟨jobId, linked, steps.lasting jobId created⟩

theorem leaves_no_orphan_iff (known : call.Known stores) (clean : call.LeavesNoOrphan stores)
    (handles : Handles call stores fault stage after) :
    Call.LeavesNoOrphan after { call with stage := stage } ↔
      (call.stage.isLate = true → fault = none) := by
  rcases handles.fails with ⟨late, fails, ⟨error, rfl⟩, rfl⟩ | ⟨onTime, fails⟩
  · obtain ⟨row, stored, uncreated⟩ := orphan_of_late known late
    apply iff_of_false
    · intro leaves
      obtain ⟨jobId, linked, created⟩ := leaves error rfl row stored
      exact created (uncreated jobId linked)
    · intro allowed
      exact fails (allowed late)
  · refine iff_of_true ?_ onTime
    intro error returned row stored
    have failed : stage = .failed error := by
      cases stage <;> cases returned
      rfl
    obtain ⟨rfl, before | before⟩ := fails error failed
    · exact clean error (by rw [Call.result, before]) row stored
    · have absent := known.row none before
      rw [stored] at absent
      cases absent

end Orphans

namespace TriggerState

variable {templates : JobTemplates floats} {state : TriggerState types floats}

theorem leaves_no_orphans_step_iff (uuids : UuidText) (ids : UuidSource)
    (consistent : state.Consistent templates) (clean : state.LeavesNoOrphans)
    (move : TriggerMove) :
    (step uuids ids state move).LeavesNoOrphans ↔ state.Meets (fun _ => Call.Unfailing) move := by
  apply each_call_step_iff uuids ids _ _ _ consistent clean
  · intro stores call waits error failed
    rw [Call.result, waits] at failed
    cases failed
  · intro call other stores stage after steps _ different _ kept
    exact steps.leaves_no_orphan different kept
  · intro call stores fault stage after known kept handles _
    exact leaves_no_orphan_iff known kept handles

end TriggerState

/-! ## Successful calls -/

section Successes

variable {call other : Call floats} {stores after : Stores types floats} {stage : Stage floats}
  {fault : Option String}

theorem succeeded_of_result {result : TriggerResult} (returned : call.result = some (.ok result)) :
    ∃ template execution job, call.stage = .succeeded template execution job ∧
      result.executionId = execution.id ∧ result.jobId = some job.id := by
  obtain ⟨command, executionId, jobId, before⟩ := call
  cases before <;> cases returned
  exact ⟨_, _, _, rfl, rfl, rfl⟩

/-- A step that is not the last one of a successful call makes no success. -/
theorem Handles.succeeds (handles : Handles call stores fault stage after) :
    (∃ template execution job, call.stage = .creating template execution job ∧ fault = none ∧
        stage = .succeeded template execution job) ∨
      call.Uncreated fault ∧
        ((stage = call.stage ∧ after = stores) ∨
          ∀ result, call.result ≠ some (.ok result) ∧
            Call.result { call with stage := stage } ≠ some (.ok result)) := by
  obtain ⟨command, executionId, jobId, before⟩ := call
  cases handles with
  | created _ _ waits succeeds => exact .inl ⟨_, _, _, waits, succeeds, rfl⟩
  | rested finished =>
      refine .inr ⟨?_, .inl ⟨rfl, rfl⟩⟩
      intro template execution job waits
      cases waits
      exact absurd rfl finished
  | failed unfinished late =>
      refine .inr ⟨?_, .inr ?_⟩
      · intro template execution job waits
        cases waits
        exact late rfl
      · intro result
        rw [unfinished]
        constructor <;> intro returned <;> cases returned
  | found waits | numbered _ _ waits | saved waits | linked waits | announced _ _ waits =>
      cases waits
      refine .inr ⟨?_, .inr ?_⟩
      · intro template execution job waits
        cases waits
      · intro result
        constructor <;> intro returned <;> cases returned

theorem known_succeeded (known : call.Known stores) {template : JobTemplate floats}
    {execution : JobExecution floats} {job : Job floats}
    (succeeded : call.stage = .succeeded template execution job) :
    Made stores.templates call.command call.executionId call.jobId template execution job := by
  have tracks := known.tracks
  unfold Call.Tracks at tracks
  rw [succeeded] at tracks
  exact tracks

theorem Call.Steps.applies_parameters (steps : call.Steps stores stage after)
    (known : other.Known stores) (different : other.executionId ≠ call.executionId)
    (otherJob : other.jobId ≠ call.jobId) (applies : other.AppliesParameters stores) :
    other.AppliesParameters after := by
  intro result returned template stored
  rw [steps.templates] at stored
  obtain ⟨made, execution, job, succeeded, executionId, jobId⟩ := succeeded_of_result returned
  have own := known_succeeded known succeeded
  obtain ⟨expected, applied, spec, resultJob, isJob, created⟩ :=
    applies result returned template stored
  refine ⟨expected, applied, ?_, resultJob, isJob, ?_⟩
  · rw [executionId, own.executionId] at spec ⊢
    rw [steps.others _ different]
    exact spec
  · rw [jobId, own.jobId] at isJob
    cases isJob
    rw [steps.otherJobs _ otherJob]
    exact created

/-- What a call that succeeds has stored and published is the specification of the template. -/
theorem applies_parameters_iff (applies : call.AppliesParameters stores)
    (handles : Handles call stores fault stage after) (steps : call.Steps stores stage after) :
    Call.AppliesParameters after { call with stage := stage } ↔ call.Unparametrized fault := by
  rcases handles.succeeds with ⟨template, execution, job, waits, succeeds, rfl⟩ |
    ⟨uncreated, ⟨rfl, rfl⟩ | never⟩
  · have own := known_succeeded steps.known rfl
    have row := steps.row _ rfl
    have created := steps.created
    rw [← own.executionId] at row
    rw [← own.jobId] at created
    obtain ⟨original, stored, copied⟩ := own.stored
    constructor
    · intro holds template' execution' job' waits' _
      rw [waits] at waits'
      cases waits'
      obtain ⟨expected, applied, spec, -⟩ := holds _ rfl original stored
      change (after.executions.find execution.id).map JobExecution.jobSpec = _ at spec
      rw [row, Option.map_some, own.jobSpec] at spec
      cases spec
      rw [copied] at applied
      exact applied
    · intro unparametrized result returned other found
      cases returned
      change after.templates.find call.command.templateId = some other at found
      rw [stored] at found
      cases found
      refine ⟨template.spec, ?_, ?_, job.id, rfl, created⟩
      · rw [copied]
        exact unparametrized template execution job waits succeeds
      · change (after.executions.find execution.id).map JobExecution.jobSpec = _
        rw [row, Option.map_some, own.jobSpec]
  · refine iff_of_true applies ?_
    intro template execution job waits succeeds
    exact absurd succeeds (uncreated template execution job waits)
  · apply iff_of_true
    · intro result returned
      exact absurd returned (never result).2
    · intro template execution job waits succeeds
      exact absurd succeeds (uncreated template execution job waits)

end Successes

namespace TriggerState

variable {templates : JobTemplates floats} {state : TriggerState types floats}

theorem applies_parameters_step_iff (uuids : UuidText) (ids : UuidSource)
    (consistent : state.Consistent templates) (applies : state.AppliesParameters)
    (move : TriggerMove) :
    (step uuids ids state move).AppliesParameters ↔ state.Unparametrized move := by
  apply each_call_step_iff uuids ids _ _ _ consistent applies
  · intro stores call waits result returned
    rw [Call.result, waits] at returned
    cases returned
  · intro call other stores stage after steps known different otherJob kept
    exact steps.applies_parameters known different otherJob kept
  · intro call stores fault stage after _ kept handles steps
    exact applies_parameters_iff kept handles steps

/-! ## Run counts -/

theorem successes_eq (state : TriggerState types floats) (id : JobTemplateId) :
    state.successes id = (state.calls.map (succeededFor id)).count true := by
  rw [successes, List.count_eq_countP, List.countP_map]
  congr 1
  funext call
  simp

theorem succeeded_for_eq_false {id : JobTemplateId} {call : Call floats}
    (never : ∀ result, call.result ≠ some (.ok result)) : succeededFor id call = false := by
  unfold succeededFor
  split
  · exact absurd (by assumption) (never _)
  · rfl

section Counts

variable {position : Nat} {call : Call floats} {stage : Stage floats}
  {after : Stores types floats} {id : JobTemplateId}

theorem successes_advance_of_same (found : state.calls[position]? = some call)
    (same : succeededFor id { call with stage := stage } = succeededFor id call) :
    (state.advance position call stage after).successes id = state.successes id := by
  rw [successes_eq, successes_eq]
  exact congrArg (List.count true) (map_set_same (succeededFor id) found same)

theorem successes_advance_of_new (found : state.calls[position]? = some call)
    (old : succeededFor id call = false)
    (new : succeededFor id { call with stage := stage } = true) :
    (state.advance position call stage after).successes id = state.successes id + 1 := by
  obtain ⟨bound, read⟩ := List.getElem?_eq_some_iff.mp found
  unfold successes advance
  rw [List.countP_set bound, read, old, if_neg Bool.false_ne_true, if_pos new]
  rfl

end Counts

theorem successes_call (ids : UuidSource) (command : TriggerRunCommand) (id : JobTemplateId) :
    (state.call ids command).successes id = state.successes id := by
  unfold successes call
  rw [List.countP_append, List.countP_singleton]
  rfl

theorem counts_runs_of_same {after : TriggerState types floats}
    (counts : state.CountsRuns templates)
    (sameTemplates : after.stores.templates = state.stores.templates)
    (same : ∀ id, after.successes id = state.successes id) : after.CountsRuns templates := by
  intro id template stored
  rw [sameTemplates] at stored
  rw [same]
  exact counts id template stored

/-- A success is counted in no template. -/
theorem not_counts_runs_of_success {position : Nat} {call : Call floats}
    {template : JobTemplate floats} {execution : JobExecution floats} {job : Job floats}
    {after : Stores types floats} (counts : state.CountsRuns templates)
    (found : state.calls[position]? = some call)
    (waits : call.stage = .creating template execution job)
    (steps : call.Steps state.stores (.succeeded template execution job) after) :
    ¬(state.advance position call (.succeeded template execution job) after).CountsRuns
      templates := by
  intro holds
  obtain ⟨original, stored, -⟩ : ∃ original,
      after.templates.find call.command.templateId = some original ∧ _ :=
    (known_succeeded steps.known rfl).stored
  obtain ⟨before, initial, grown⟩ := holds _ original stored
  rw [steps.templates] at stored
  obtain ⟨again, isBefore, equal⟩ := counts _ original stored
  rw [initial] at isBefore
  cases isBefore
  have old : succeededFor call.command.templateId call = false := by
    rw [succeededFor, Call.result, waits]
  have new : succeededFor call.command.templateId
      { call with stage := .succeeded template execution job } = true := decide_eq_true rfl
  rw [successes_advance_of_new found old new] at grown
  omega

theorem counts_runs_step_iff (uuids : UuidText) (ids : UuidSource)
    (consistent : state.Consistent templates) (counts : state.CountsRuns templates)
    (move : TriggerMove) :
    (step uuids ids state move).CountsRuns templates ↔
      state.Meets (fun _ => Call.Uncreated) move := by
  cases move with
  | call command =>
      exact iff_of_true (counts_runs_of_same counts rfl (successes_call ids command)) trivial
  | handle position now fault =>
      rcases handle_cases uuids consistent position now fault with
        ⟨nowhere, same⟩ | ⟨call, stage, after, found, known, handles, steps, same⟩
      · rw [step, same]
        exact iff_of_true counts (meets_of_nowhere nowhere now fault)
      · rw [step, same, meets_iff found]
        rcases handles.succeeds with ⟨template, execution, job, waits, succeeds, rfl⟩ |
          ⟨uncreated, ⟨rfl, rfl⟩ | never⟩
        · apply iff_of_false (not_counts_runs_of_success counts found waits steps)
          intro uncreated
          exact uncreated template execution job waits succeeds
        · refine iff_of_true (counts_runs_of_same counts rfl fun id => ?_) uncreated
          exact successes_advance_of_same found rfl
        · refine iff_of_true (counts_runs_of_same counts steps.templates fun id => ?_) uncreated
          apply successes_advance_of_same found
          rw [succeeded_for_eq_false fun result => (never result).1,
            succeeded_for_eq_false fun result => (never result).2]

/-- A success is more than the run counts show. -/
theorem no_success_of_counts (consistent : state.Consistent templates)
    (counts : state.CountsRuns templates) {call : Call floats} (called : call ∈ state.calls)
    (result : TriggerResult) : call.result ≠ some (.ok result) := by
  intro returned
  obtain ⟨template, execution, job, succeeded, -⟩ := succeeded_of_result returned
  obtain ⟨original, stored, -⟩ := (known_succeeded (consistent.known call called) succeeded).stored
  obtain ⟨before, initial, grown⟩ := counts _ original stored
  rw [consistent.templates, initial] at stored
  cases stored
  have positive : 0 < state.successes call.command.templateId := by
    refine List.countP_pos_iff.mpr ⟨call, called, ?_⟩
    rw [succeededFor, returned]
    exact decide_eq_true rfl
  omega

end TriggerState

/-! ## Execution numbers -/

/-- The number with which the execution has been saved. -/
def Stage.number : Stage floats → Option (JobTemplateId × UInt64)
  | .linking _ execution _ | .announcing _ execution _ | .creating _ execution _
  | .succeeded _ execution _ => some (execution.templateId, execution.executionNumber)
  | _ => none

section Numbers

variable {call : Call floats} {stores after : Stores types floats} {stage : Stage floats}
  {fault : Option String} {number : JobTemplateId × UInt64}

theorem row_of_number (known : call.Known stores) (isNumber : call.stage.number = some number) :
    ∃ row ∈ stores.executions.rows, row.templateId = number.1 ∧ row.executionNumber = number.2 := by
  obtain ⟨command, executionId, jobId, before⟩ := call
  cases before with
  | linking template execution job =>
      cases isNumber
      exact ⟨_, List.mem_of_find?_eq_some (known.row _ rfl), rfl, rfl⟩
  | announcing template execution job | creating template execution job
  | succeeded template execution job =>
      cases isNumber
      exact ⟨execution, List.mem_of_find?_eq_some (known.row _ rfl), rfl, rfl⟩
  | _ => cases isNumber

/-- Only the step that saves the execution gives a call its number. -/
theorem Handles.number_cases (handles : Handles call stores fault stage after)
    (isNumber : stage.number = some number) :
    call.stage.number = some number ∨ ∃ template execution,
      call.stage = .saving template execution ∧ fault = none ∧
        number = (execution.templateId, execution.executionNumber) := by
  obtain ⟨command, executionId, jobId, before⟩ := call
  cases handles with
  | saved waits succeeds =>
      cases isNumber
      exact .inr ⟨_, _, waits, succeeds, rfl⟩
  | linked waits | announced _ _ waits | created _ _ waits =>
      cases waits
      exact .inl isNumber
  | rested => exact .inl isNumber
  | found | numbered | failed => cases isNumber

/-- An undisturbed step gives a call no number that another one has. -/
theorem number_ne_of_undisturbed {other : Call floats} (known : call.Known stores)
    (knownOther : other.Known stores) (undisturbed : call.Undisturbed stores fault)
    (handles : Handles call stores fault stage after) (isNumber : stage.number = some number)
    (before : call.stage.number ≠ some number) : other.stage.number ≠ some number := by
  intro taken
  rcases handles.number_cases isNumber with old | ⟨template, execution, waits, succeeds, rfl⟩
  · exact before old
  · have tracks := known.tracks
    unfold Call.Tracks at tracks
    rw [waits] at tracks
    obtain ⟨row, stored, sameTemplate, sameNumber⟩ := row_of_number knownOther taken
    have next := undisturbed template execution waits succeeds
    exact JobExecutions.number_ne_next next stored (sameTemplate.trans tracks.1.templateId)
      sameNumber

end Numbers

namespace TriggerState

variable {templates : JobTemplates floats} {state : TriggerState types floats}

def Numbered (state : TriggerState types floats) : Prop :=
  ∀ one ∈ state.calls, ∀ other ∈ state.calls, ∀ number, one.stage.number = some number →
    other.stage.number = some number → one.executionId = other.executionId

theorem numbered_step (uuids : UuidText) (ids : UuidSource)
    (consistent : state.Consistent templates) (numbered : state.Numbered) (move : TriggerMove)
    (undisturbed : state.Undisturbed move) : (step uuids ids state move).Numbered := by
  cases move with
  | call command =>
      intro one oneCalled other otherCalled number isOne isOther
      rcases List.mem_append.mp oneCalled with oneOld | oneNew
      · rcases List.mem_append.mp otherCalled with otherOld | otherNew
        · exact numbered one oneOld other otherOld number isOne isOther
        · rw [List.mem_singleton.mp otherNew] at isOther
          cases isOther
      · rw [List.mem_singleton.mp oneNew] at isOne
        cases isOne
  | handle position now fault =>
      rcases handle_cases uuids consistent position now fault with
        ⟨-, same⟩ | ⟨call, stage, after, found, known, handles, -, same⟩
      · rw [step, same]
        exact numbered
      · have calling := List.mem_of_getElem? found
        have apart {other : Call floats} (called : other ∈ state.calls)
            (different : other.executionId ≠ call.executionId) {number : JobTemplateId × UInt64}
            (isNumber : stage.number = some number) : other.stage.number ≠ some number := by
          by_cases before : call.stage.number = some number
          · intro taken
            exact different (numbered other called call calling number taken before)
          · exact number_ne_of_undisturbed known (consistent.known other called)
              (undisturbed call found) handles isNumber before
        rw [step, same]
        intro one oneCalled other otherCalled number isOne isOther
        rcases mem_advance consistent found oneCalled with rfl | ⟨oneOld, oneDifferent, -⟩
        · rcases mem_advance consistent found otherCalled with rfl | ⟨otherOld, different, -⟩
          · rfl
          · exact absurd isOther (apart otherOld different isOne)
        · rcases mem_advance consistent found otherCalled with rfl | ⟨otherOld, -⟩
          · exact absurd isOne (apart oneOld oneDifferent isOther)
          · exact numbered one oneOld other otherOld number isOne isOther

/-- The number that is read back is the one with which the execution was saved. -/
theorem stage_number_of_number (consistent : state.Consistent templates) {call : Call floats}
    (called : call ∈ state.calls) {number : JobTemplateId × UInt64}
    (isNumber : state.number call = some number) : call.stage.number = some number := by
  unfold TriggerState.number at isNumber
  split at isNumber
  · next result returned =>
      obtain ⟨template, execution, job, succeeded, executionId, -⟩ := succeeded_of_result returned
      have known := consistent.known call called
      have own := known_succeeded known succeeded
      have row := known.row (some execution) (by rw [succeeded]; rfl)
      rw [executionId, own.executionId, row] at isNumber
      rw [succeeded]
      exact isNumber
  · cases isNumber

theorem distinct_of_numbered (consistent : state.Consistent templates)
    (numbered : state.Numbered) : state.DistinctNumbers := by
  have apart := List.pairwise_map.mp consistent.executionIds
  refine List.pairwise_filterMap.mpr (apart.imp_of_mem ?_)
  intro one other oneCalled otherCalled different number isOne _ isOther rfl
  exact different (numbered one oneCalled other otherCalled number
    (stage_number_of_number consistent oneCalled isOne)
    (stage_number_of_number consistent otherCalled isOther))

/-- Without a success, nothing is asked of numbers and parameters. -/
theorem keeps_of_counts (consistent : state.Consistent templates)
    (counts : state.CountsRuns templates) (clean : state.LeavesNoOrphans) :
    state.Keeps templates := by
  have never {call : Call floats} (called : call ∈ state.calls) :=
    no_success_of_counts consistent counts called
  refine ⟨⟨?_, ?_⟩, counts, clean⟩
  · have none : state.calls.filterMap state.number = [] := by
      rw [List.filterMap_eq_nil_iff]
      intro call called
      unfold TriggerState.number
      split
      · exact absurd (by assumption) (never called _)
      · rfl
    rw [DistinctNumbers, none]
    exact List.nodup_nil
  · intro call called result returned
    exact absurd returned (never called result)

end TriggerState

/-! ## Whole runs -/

section Runs

variable (uuids : UuidText) (ids : UuidSource) (types : FieldTypes)
  (templates : JobTemplates floats) (executions : JobExecutions floats) (moves : List TriggerMove)

open TriggerState

theorem always_consistent :
    Always (step uuids ids) (Consistent templates) (start types templates executions) moves :=
  always_of_preserved (step uuids ids) (Consistent templates)
    (fun _ move consistent => step_consistent uuids ids consistent move) moves _
    (start_consistent types templates executions)

theorem distinct_numbers_of_undisturbed
    (undisturbed : EachMove (step uuids ids) TriggerState.Undisturbed
      (start types templates executions) moves) :
    Always (step uuids ids) DistinctNumbers (start types templates executions) moves := by
  have both := always_within (step uuids ids)
    (fun state => state.Consistent templates ∧ state.Numbered)
    (fun state move both undisturbed => ⟨step_consistent uuids ids both.1 move,
      numbered_step uuids ids both.1 both.2 move undisturbed⟩)
    (fun _ _ _ undisturbed => undisturbed) moves _
    ⟨start_consistent types templates executions, fun _ called => absurd called List.not_mem_nil⟩
    undisturbed
  exact always_imp (step uuids ids) (fun _ both => distinct_of_numbered both.1 both.2) moves _ both.1

theorem applies_parameters_iff_unparametrized :
    Always (step uuids ids) TriggerState.AppliesParameters
        (start types templates executions) moves ↔
      EachMove (step uuids ids) TriggerState.Unparametrized
        (start types templates executions) moves :=
  always_iff_each_move_within (step uuids ids) (Consistent templates) _ _
    (fun _ move consistent => step_consistent uuids ids consistent move)
    (fun _ move consistent applies =>
      applies_parameters_step_iff uuids ids consistent applies move)
    moves _ (start_consistent types templates executions)
    (fun _ called => absurd called List.not_mem_nil)

theorem counts_runs_iff_uncreated :
    Always (step uuids ids) (fun state => state.CountsRuns templates)
        (start types templates executions) moves ↔
      EachMove (step uuids ids) (Meets fun _ => Call.Uncreated)
        (start types templates executions) moves :=
  always_iff_each_move_within (step uuids ids) (Consistent templates) _ _
    (fun _ move consistent => step_consistent uuids ids consistent move)
    (fun _ move consistent counts => counts_runs_step_iff uuids ids consistent counts move)
    moves _ (start_consistent types templates executions)
    (fun _ template stored => ⟨template, stored, rfl⟩)

theorem leaves_no_orphans_iff_unfailing :
    Always (step uuids ids) LeavesNoOrphans (start types templates executions) moves ↔
      EachMove (step uuids ids) (Meets fun _ => Call.Unfailing)
        (start types templates executions) moves :=
  always_iff_each_move_within (step uuids ids) (Consistent templates) _ _
    (fun _ move consistent => step_consistent uuids ids consistent move)
    (fun _ move consistent clean => leaves_no_orphans_step_iff uuids ids consistent clean move)
    moves _ (start_consistent types templates executions)
    (fun _ called => absurd called List.not_mem_nil)

theorem keeps_iff_counts_and_clean :
    Always (step uuids ids) (Keeps templates) (start types templates executions) moves ↔
      Always (step uuids ids) (fun state => state.CountsRuns templates)
          (start types templates executions) moves ∧
        Always (step uuids ids) LeavesNoOrphans (start types templates executions) moves := by
  rw [← always_and_iff]
  constructor
  · exact always_imp (step uuids ids) (fun _ keeps => keeps.2) moves _
  · intro always
    have both := (always_and_iff (step uuids ids) moves _).mpr
      ⟨always_consistent uuids ids types templates executions moves, always⟩
    exact always_imp (step uuids ids)
      (fun _ both => keeps_of_counts both.1 both.2.1 both.2.2) moves _ both

/-- Runs keep all that is asked exactly if no call gets to create its job, or fails once it has
saved its execution. Of the runs in which calls succeed, the numbers are distinct if the calls
save their executions undisturbed, and the specifications are right exactly if the parameters
change nothing. -/
theorem triggers_keep_iff_harmless :
    (Always (step uuids ids) (Keeps templates) (start types templates executions) moves ↔
        EachMove (step uuids ids) Harmless (start types templates executions) moves) ∧
      (EachMove (step uuids ids) TriggerState.Undisturbed
          (start types templates executions) moves →
        Always (step uuids ids) DistinctNumbers (start types templates executions) moves) ∧
      (Always (step uuids ids) TriggerState.AppliesParameters
          (start types templates executions) moves ↔
        EachMove (step uuids ids) TriggerState.Unparametrized
          (start types templates executions) moves) := by
  refine ⟨?_, distinct_numbers_of_undisturbed uuids ids types templates executions moves,
    applies_parameters_iff_unparametrized uuids ids types templates executions moves⟩
  rw [keeps_iff_counts_and_clean, counts_runs_iff_uncreated, leaves_no_orphans_iff_unfailing]
  exact (each_move_and_iff (step uuids ids) moves _).symm

end Runs

/-! ## Two calls with one number -/

def greetTemplate : JobTemplate wholeFloats where
  id := ⟨1⟩
  name := "greet"
  spec := .withCommand wholeFloats (.shell "echo" ["hello ${NAME}"])
  status := .active
  version := 1
  updatedAt := 0
  runCount := 0

def greetWorld : TriggerRunCommand where
  templateId := ⟨1⟩
  jobName := none
  triggeredByUser := "alice"
  parameters := ⟨[("NAME", "world")], List.nodup_singleton _⟩
  triggeredBy := .manual

/-- Two calls, one step of each in turn, until both have succeeded. -/
def inTurn : List TriggerMove :=
  [.call greetWorld, .call greetWorld] ++
    (List.range 12).map fun step => .handle (step % 2) step none

theorem two_calls_get_one_number :
    ¬Always (TriggerState.step zerosText .successor)
      (TriggerState.Keeps ⟨[greetTemplate], List.nodup_singleton _⟩)
      (TriggerState.start textTypes ⟨[greetTemplate], List.nodup_singleton _⟩
        ⟨[], List.nodup_nil⟩) inTurn := by
  intro always
  have kept := always_final _ _ _ always
  have distinct := kept.1.1
  unfold TriggerState.DistinctNumbers at distinct
  exact absurd distinct (by decide)

end HodeiJobs.Templates
