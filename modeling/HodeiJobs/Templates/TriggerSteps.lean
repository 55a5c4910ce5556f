import HodeiJobs.Library.Clients
import HodeiJobs.Templates.TriggerRun

/-!
# The steps of triggered runs

What a call of `handle` can do in one step, and what this leaves as it was: each step keeps to
the execution and the job of its own call, no step writes a template, and none takes back what
was published.
-/

namespace HodeiJobs.Templates

open HodeiJobs.Execution (JobId UuidText)
open HodeiJobs.Jobs (Floats JobSpec)
open HodeiJobs.Library
open HodeiJobs.Outbox (DomainEvent FieldTypes)
open HodeiJobs.Sagas (DateTime Uuid UuidSource)

variable {types : FieldTypes} {floats : Floats}

/-- The job that the event creates. -/
def createdJob (event : DomainEvent (types.withSpecs floats)) : Option (JobId × JobSpec floats) :=
  match event.details with
  | .jobCreated jobId spec => some (jobId, spec)
  | _ => none

namespace Stores

variable (stores : Stores types floats)

/-- The specifications with which a job has been created. -/
def createdSpecs (jobId : JobId) : List (JobSpec floats) :=
  ((stores.published.filterMap createdJob).filter fun job => job.1 = jobId).map Prod.snd

end Stores

/-- The execution has been saved, and the call has not returned. -/
def Stage.isLate : Stage floats → Bool
  | .linking _ _ _ | .announcing _ _ _ | .creating _ _ _ => true
  | _ => false

/-! ## The steps of a call -/

/-- A call works on the template that is stored. -/
structure Loaded (templates : JobTemplates floats) (command : TriggerRunCommand)
    (template : JobTemplate floats) : Prop where
  id : template.id = command.templateId
  stored : ∃ original, templates.find command.templateId = some original ∧
    original.spec = template.spec

structure Prepared (templates : JobTemplates floats) (command : TriggerRunCommand)
    (executionId : Uuid) (template : JobTemplate floats) (execution : JobExecution floats) : Prop
    extends Loaded templates command template where
  executionId : execution.id = executionId
  templateId : execution.templateId = command.templateId
  jobSpec : execution.jobSpec = template.spec

structure Made (templates : JobTemplates floats) (command : TriggerRunCommand)
    (executionId : Uuid) (jobId : JobId) (template : JobTemplate floats)
    (execution : JobExecution floats) (job : Job floats) : Prop
    extends Prepared templates command executionId template execution where
  jobId : job.id = jobId
  spec : job.spec = template.spec
  linked : execution.jobId = some job.id

/-- What the variables of a call have to do with each other. -/
def Stage.Tracks (templates : JobTemplates floats) (command : TriggerRunCommand)
    (executionId : Uuid) (jobId : JobId) : Stage floats → Prop
  | .finding | .failed _ => True
  | .numbering template => Loaded templates command template ∧ template.canCreateRun = true
  | .saving template execution =>
      Prepared templates command executionId template execution ∧
        template.canCreateRun = true ∧ execution.jobId = none
  | .linking template execution job | .announcing template execution job
  | .creating template execution job | .succeeded template execution job =>
      Made templates command executionId jobId template execution job

def Call.Tracks (templates : JobTemplates floats) (call : Call floats) : Prop :=
  call.stage.Tracks templates call.command call.executionId call.jobId

/-- What one step of a call can do. -/
inductive Handles (call : Call floats) (stores : Stores types floats) (fault : Option String) :
    Stage floats → Stores types floats → Prop where
  | found {template : JobTemplate floats} (waits : call.stage = .finding)
      (found : stores.templates.find call.command.templateId = some template)
      (active : template.canCreateRun = true) :
      Handles call stores fault (.numbering template) stores
  | numbered {template : JobTemplate floats} (number : UInt64) (now : DateTime)
      (waits : call.stage = .numbering template) :
      Handles call stores fault (.saving template (call.execution template number now)) stores
  | saved {template run : JobTemplate floats} {execution : JobExecution floats} {job : Job floats}
      (waits : call.stage = .saving template execution) (succeeds : fault = none)
      (sameId : run.id = template.id) (sameSpec : run.spec = template.spec)
      (jobId : job.id = call.jobId) (jobSpec : job.spec = template.spec) :
      Handles call stores fault (.linking run { execution with jobId := some job.id } job)
        { stores with executions := stores.executions.insert execution }
  | linked {template : JobTemplate floats} {execution : JobExecution floats} {job : Job floats}
      (waits : call.stage = .linking template execution job) (succeeds : fault = none) :
      Handles call stores fault (.announcing template execution job)
        { stores with executions := stores.executions.insert execution }
  | announced {template : JobTemplate floats} {execution : JobExecution floats} {job : Job floats}
      (event : DomainEvent (types.withSpecs floats)) (creates : createdJob event = none)
      (waits : call.stage = .announcing template execution job) (succeeds : fault = none) :
      Handles call stores fault (.creating template execution job)
        { stores with published := stores.published ++ [event] }
  | created {template : JobTemplate floats} {execution : JobExecution floats} {job : Job floats}
      (event : DomainEvent (types.withSpecs floats))
      (creates : createdJob event = some (job.id, job.spec))
      (waits : call.stage = .creating template execution job) (succeeds : fault = none) :
      Handles call stores fault (.succeeded template execution job)
        { stores with published := stores.published ++ [event] }
  | failed {error : DomainError} (unfinished : call.result = none)
      (late : call.stage.isLate = true → fault ≠ none) :
      Handles call stores fault (.failed error) stores
  | rested (finished : call.result ≠ none) : Handles call stores fault call.stage stores

theorem create_run_ok {template : JobTemplate floats} (active : template.canCreateRun = true)
    (uuids : UuidText) (jobId : JobId) (now : DateTime) :
    ∃ job run, template.createRun uuids jobId now = .ok (job, run) ∧ run.id = template.id ∧
      run.spec = template.spec ∧ job.id = jobId ∧ job.spec = template.spec := by
  unfold JobTemplate.createRun
  rw [if_pos active]
  exact ⟨_, _, rfl, rfl, rfl, rfl, rfl⟩

theorem handles_handle (uuids : UuidText) {call : Call floats} (now : DateTime)
    (fault : Option String) {stores : Stores types floats}
    (tracks : call.Tracks stores.templates) :
    Handles call stores fault (call.handle uuids now fault stores).1
      (call.handle uuids now fault stores).2 := by
  obtain ⟨command, executionId, jobId, stage⟩ := call
  cases stage with
  | finding =>
      cases fault with
      | some problem => exact .failed rfl (by simp [Stage.isLate])
      | none =>
          cases found : stores.templates.find command.templateId with
          | none =>
              simp only [Call.handle, JobTemplates.findById, found]
              exact .failed rfl (by simp [Stage.isLate])
          | some template =>
              simp only [Call.handle, JobTemplates.findById, found]
              split
              · exact .found rfl found (by assumption)
              · exact .failed rfl (by simp [Stage.isLate])
  | numbering template =>
      simp only [Call.handle]
      split
      · exact .failed rfl (by simp [Stage.isLate])
      · exact .numbered _ now rfl
  | saving template execution =>
      cases fault with
      | some problem => exact .failed rfl (by simp [Stage.isLate])
      | none =>
          obtain ⟨job, run, created, sameId, sameSpec, sameJob, jobSpec⟩ :=
            create_run_ok tracks.2.1 uuids jobId now
          simp only [Call.handle, JobExecutions.save, created]
          exact .saved rfl rfl sameId sameSpec sameJob jobSpec
  | linking template execution job =>
      cases fault with
      | some problem => exact .failed rfl (by simp)
      | none => exact .linked rfl rfl
  | announcing template execution job =>
      cases fault with
      | some problem => exact .failed rfl (by simp)
      | none => exact .announced _ rfl rfl rfl
  | creating template execution job =>
      cases fault with
      | some problem => exact .failed rfl (by simp)
      | none => exact .created _ rfl rfl rfl
  | succeeded template execution job => exact .rested (by simp [Call.result])
  | failed error => exact .rested (by simp [Call.result])

/-! ## What a call has stored -/

/-- The execution as the table has it; none is there before it is saved. -/
def Stage.row : Stage floats → Option (Option (JobExecution floats))
  | .finding | .numbering _ | .saving _ _ => some none
  | .linking _ execution _ => some (some { execution with jobId := none })
  | .announcing _ execution _ | .creating _ execution _ | .succeeded _ execution _ =>
      some (some execution)
  | .failed _ => none

/-- The specification with which the job of the call has been created. -/
def Stage.specs : Stage floats → List (JobSpec floats)
  | .succeeded template _ _ => [template.spec]
  | _ => []

theorem created_specs_append (stores : Stores types floats)
    (event : DomainEvent (types.withSpecs floats)) (jobId : JobId) :
    { stores with published := stores.published ++ [event] }.createdSpecs jobId =
      stores.createdSpecs jobId ++
        (((createdJob event).toList.filter fun job => job.1 = jobId).map Prod.snd) := by
  unfold Stores.createdSpecs
  rw [List.filterMap_append, List.filter_append, List.map_append]
  cases created : createdJob event <;> simp [created]

/-- One step of a call keeps to its own execution and its own job. -/
structure Call.Steps (call : Call floats) (stores : Stores types floats) (stage : Stage floats)
    (after : Stores types floats) : Prop where
  tracks : Call.Tracks stores.templates { call with stage := stage }
  templates : after.templates = stores.templates
  others : ∀ id, id ≠ call.executionId → after.executions.find id = stores.executions.find id
  row : ∀ row, stage.row = some row → after.executions.find call.executionId = row
  otherJobs : ∀ jobId, jobId ≠ call.jobId → after.createdSpecs jobId = stores.createdSpecs jobId
  created : after.createdSpecs call.jobId = stage.specs
  lasting : ∀ jobId, stores.createdSpecs jobId ≠ [] → after.createdSpecs jobId ≠ []

/-- What is known of a call between its steps. -/
structure Call.Known (call : Call floats) (stores : Stores types floats) : Prop where
  tracks : call.Tracks stores.templates
  row : ∀ row, call.stage.row = some row → stores.executions.find call.executionId = row
  created : stores.createdSpecs call.jobId = call.stage.specs

section Steps

variable {call : Call floats} {stores after : Stores types floats} {stage : Stage floats}
  {fault : Option String}

theorem steps_of_same (known : call.Known stores)
    (tracks : Call.Tracks stores.templates { call with stage := stage })
    (row : ∀ row, stage.row = some row → call.stage.row = some row)
    (specs : stage.specs = call.stage.specs) : call.Steps stores stage stores where
  tracks := tracks
  templates := rfl
  others _ _ := rfl
  row stored isRow := known.row stored (row stored isRow)
  otherJobs _ _ := rfl
  created := known.created.trans specs.symm
  lasting _ created := created

theorem steps_of_insert (known : call.Known stores) {execution : JobExecution floats}
    (own : execution.id = call.executionId)
    (tracks : Call.Tracks stores.templates { call with stage := stage })
    (row : ∀ row, stage.row = some row →
      (stores.executions.insert execution).find execution.id = row)
    (specs : stage.specs = call.stage.specs) :
    call.Steps stores stage { stores with executions := stores.executions.insert execution } where
  tracks := tracks
  templates := rfl
  others _ other := JobExecutions.find_insert_other execution (own ▸ other.symm)
  row stored isRow := own ▸ row stored isRow
  otherJobs _ _ := rfl
  created := known.created.trans specs.symm
  lasting _ created := created

theorem steps_of_publish (known : call.Known stores)
    {event : DomainEvent (types.withSpecs floats)}
    (own : ∀ job, createdJob event = some job → job.1 = call.jobId)
    (tracks : Call.Tracks stores.templates { call with stage := stage })
    (row : stage.row = call.stage.row)
    (specs : stage.specs = call.stage.specs ++ (createdJob event).toList.map Prod.snd) :
    call.Steps stores stage { stores with published := stores.published ++ [event] } where
  tracks := tracks
  templates := rfl
  others _ _ := rfl
  row stored isRow := known.row stored (row ▸ isRow)
  otherJobs jobId other := by
    rw [created_specs_append]
    cases created : createdJob event with
    | none => simp
    | some job =>
        have different : job.1 ≠ jobId := fun same => other ((own job created) ▸ same).symm
        simp [different]
  created := by
    rw [created_specs_append, known.created, specs]
    cases created : createdJob event with
    | none => simp
    | some job => simp [own job created]
  lasting jobId created := by
    rw [created_specs_append]
    exact List.append_ne_nil_of_left_ne_nil created _

theorem Handles.steps (handles : Handles call stores fault stage after)
    (known : call.Known stores) : call.Steps stores stage after := by
  obtain ⟨command, executionId, jobId, before⟩ := call
  cases handles with
  | found waits found active =>
      cases waits
      refine steps_of_same known ⟨⟨?_, _, found, rfl⟩, active⟩ (fun _ isRow => isRow) rfl
      exact Table.find_some_key found
  | numbered number now waits =>
      cases waits
      obtain ⟨loaded, active⟩ := known.tracks
      exact steps_of_same known ⟨⟨loaded, rfl, loaded.id, rfl⟩, active, rfl⟩
        (fun _ isRow => isRow) rfl
  | @saved template run execution job waits succeeds sameId sameSpec sameJob jobSpec =>
      cases waits
      obtain ⟨⟨⟨id, original, found, spec⟩, own, templateId, copied⟩, -, unlinked⟩ := known.tracks
      refine steps_of_insert known own ?_ ?_ rfl
      · exact ⟨⟨⟨sameId.trans id, original, found, spec.trans sameSpec.symm⟩, own, templateId,
          copied.trans sameSpec.symm⟩, sameJob, jobSpec.trans sameSpec.symm, rfl⟩
      · intro row isRow
        cases isRow
        have absent := known.row none rfl
        rw [← own] at absent
        rw [JobExecutions.find_insert_of_absent absent, ← unlinked]
  | @linked template execution job waits succeeds =>
      cases waits
      have made : Made _ _ _ _ template execution job := known.tracks
      refine steps_of_insert known made.executionId made ?_ rfl
      intro row isRow
      cases isRow
      have stored := known.row _ rfl
      rw [← made.executionId] at stored
      exact (JobExecutions.find_insert_of_stored stored).trans rfl
  | announced event creates waits succeeds =>
      cases waits
      refine steps_of_publish known ?_ known.tracks rfl ?_
      · intro job isJob
        rw [creates] at isJob
        cases isJob
      · rw [creates]
        rfl
  | @created template execution job event creates waits succeeds =>
      cases waits
      have made : Made _ _ _ _ template execution job := known.tracks
      refine steps_of_publish known ?_ known.tracks rfl ?_
      · intro other isJob
        rw [creates] at isJob
        cases isJob
        exact made.jobId
      · rw [creates]
        exact congrArg (fun spec => [spec]) made.spec.symm
  | failed unfinished late =>
      refine steps_of_same known trivial (fun _ isRow => by cases isRow) ?_
      cases before <;> first | rfl | cases unfinished
  | rested finished => exact steps_of_same known known.tracks (fun _ isRow => isRow) rfl

end Steps

theorem Call.Steps.known {call : Call floats} {stores after : Stores types floats}
    {stage : Stage floats} (steps : call.Steps stores stage after) :
    Call.Known { call with stage := stage } after where
  tracks := by
    rw [steps.templates]
    exact steps.tracks
  row := steps.row
  created := steps.created

theorem Call.Steps.known_other {call other : Call floats} {stores after : Stores types floats}
    {stage : Stage floats} (steps : call.Steps stores stage after) (known : other.Known stores)
    (execution : other.executionId ≠ call.executionId) (job : other.jobId ≠ call.jobId) :
    other.Known after where
  tracks := by
    rw [steps.templates]
    exact known.tracks
  row row isRow := by
    rw [steps.others _ execution]
    exact known.row row isRow
  created := by
    rw [steps.otherJobs _ job]
    exact known.created

/-! ## The invariant -/

namespace TriggerState

structure Consistent (templates : JobTemplates floats) (state : TriggerState types floats) :
    Prop where
  templates : state.stores.templates = templates
  executionIds : (state.calls.map Call.executionId).Nodup
  jobIds : (state.calls.map Call.jobId).Nodup
  drawn : ∀ call ∈ state.calls, call.executionId ∈ state.drawn ∧ call.jobId.uuid ∈ state.drawn
  rows : ∀ row ∈ state.stores.executions.rows, row.id ∈ state.drawn
  jobs : ∀ jobId, state.stores.createdSpecs jobId ≠ [] → jobId.uuid ∈ state.drawn
  known : ∀ call ∈ state.calls, call.Known state.stores

theorem start_consistent (types : FieldTypes) (templates : JobTemplates floats)
    (executions : JobExecutions floats) : (start types templates executions).Consistent templates where
  templates := rfl
  executionIds := List.nodup_nil
  jobIds := List.nodup_nil
  drawn _ member := absurd member List.not_mem_nil
  rows _ member := List.mem_map_of_mem member
  jobs jobId created := by
    have none : (start types templates executions).stores.createdSpecs jobId = [] := rfl
    exact absurd none created
  known _ member := absurd member List.not_mem_nil

variable {templates : JobTemplates floats} {state : TriggerState types floats}

theorem call_consistent (ids : UuidSource) (consistent : state.Consistent templates)
    (command : TriggerRunCommand) : (state.call ids command).Consistent templates := by
  have freshId := ids.fresh state.drawn
  have freshJob := ids.fresh (ids.newV4 state.drawn :: state.drawn)
  obtain ⟨sameTemplates, executionIds, jobIds, drawn, rows, jobs, known⟩ := consistent
  refine ⟨sameTemplates, ?_, ?_, ?_, ?_, ?_, ?_⟩
  · apply nodup_map_append executionIds
    intro other called same
    have taken := (drawn other called).1
    rw [same] at taken
    exact freshId taken
  · apply nodup_map_append jobIds
    intro other called same
    have taken := (drawn other called).2
    rw [same] at taken
    exact freshJob (List.mem_cons_of_mem _ taken)
  · intro other member
    rcases List.mem_append.mp member with called | new
    · have both := drawn other called
      exact ⟨List.mem_cons_of_mem _ (List.mem_cons_of_mem _ both.1),
        List.mem_cons_of_mem _ (List.mem_cons_of_mem _ both.2)⟩
    · rw [List.mem_singleton.mp new]
      exact ⟨List.mem_cons_of_mem _ List.mem_cons_self, List.mem_cons_self⟩
  · intro row member
    exact List.mem_cons_of_mem _ (List.mem_cons_of_mem _ (rows row member))
  · intro jobId created
    exact List.mem_cons_of_mem _ (List.mem_cons_of_mem _ (jobs jobId created))
  · intro other member
    rcases List.mem_append.mp member with called | new
    · exact known other called
    · rw [List.mem_singleton.mp new]
      refine ⟨trivial, ?_, ?_⟩
      · intro row isRow
        cases isRow
        rw [Table.find_none_iff]
        intro stored
        obtain ⟨row, member, same⟩ := List.mem_map.mp stored
        have taken := rows row member
        rw [same] at taken
        exact freshId taken
      · by_contra created
        exact freshJob (List.mem_cons_of_mem _ (jobs _ created))

/-- The call at a position has made a step. -/
def advance (state : TriggerState types floats) (position : Nat) (call : Call floats)
    (stage : Stage floats) (after : Stores types floats) : TriggerState types floats :=
  { state with
    stores := after
    calls := state.calls.set position { call with stage := stage } }

section Advance

variable {position : Nat} {call other : Call floats} {stage : Stage floats}
  {after : Stores types floats}

theorem mem_advance (consistent : state.Consistent templates)
    (found : state.calls[position]? = some call)
    (member : other ∈ (state.advance position call stage after).calls) :
    other = { call with stage := stage } ∨ other ∈ state.calls ∧
      other.executionId ≠ call.executionId ∧ other.jobId ≠ call.jobId := by
  rcases mem_set_of_nodup consistent.executionIds found member with new | ⟨old, different⟩
  · exact .inl new
  · refine .inr ⟨old, different, ?_⟩
    intro sameJob
    have same := List.inj_on_of_nodup_map consistent.jobIds old (List.mem_of_getElem? found) sameJob
    exact different (congrArg Call.executionId same)

theorem advance_consistent (consistent : state.Consistent templates)
    (found : state.calls[position]? = some call) (steps : call.Steps state.stores stage after) :
    (state.advance position call stage after).Consistent templates := by
  have calling := List.mem_of_getElem? found
  have own := consistent.drawn call calling
  refine ⟨steps.templates.trans consistent.templates, ?_, ?_, ?_, ?_, ?_, ?_⟩
  · have same : (state.advance position call stage after).calls.map Call.executionId =
        state.calls.map Call.executionId := map_set_same Call.executionId found rfl
    rw [same]
    exact consistent.executionIds
  · have same : (state.advance position call stage after).calls.map Call.jobId =
        state.calls.map Call.jobId := map_set_same Call.jobId found rfl
    rw [same]
    exact consistent.jobIds
  · intro other member
    rcases mem_advance consistent found member with rfl | ⟨old, -⟩
    · exact own
    · exact consistent.drawn other old
  · intro row member
    have stored : after.executions.find row.id = some row := Table.find_of_mem member
    by_cases same : row.id = call.executionId
    · exact same ▸ own.1
    · rw [steps.others _ same] at stored
      exact consistent.rows row (List.mem_of_find?_eq_some stored)
  · intro jobId created
    by_cases same : jobId = call.jobId
    · exact same ▸ own.2
    · change after.createdSpecs jobId ≠ [] at created
      rw [steps.otherJobs _ same] at created
      exact consistent.jobs jobId created
  · intro other member
    rcases mem_advance consistent found member with rfl | ⟨old, execution, job⟩
    · exact steps.known
    · exact steps.known_other (consistent.known other old) execution job

end Advance

/-- What a step of the system can do. -/
theorem handle_cases (uuids : UuidText) (consistent : state.Consistent templates)
    (position : Nat) (now : DateTime) (fault : Option String) :
    (state.calls[position]? = none ∧ state.handle uuids position now fault = state) ∨
      ∃ call stage after, state.calls[position]? = some call ∧ call.Known state.stores ∧
        Handles call state.stores fault stage after ∧ call.Steps state.stores stage after ∧
        state.handle uuids position now fault = state.advance position call stage after := by
  unfold handle
  cases found : state.calls[position]? with
  | none => exact .inl ⟨rfl, rfl⟩
  | some call =>
      have known := consistent.known call (List.mem_of_getElem? found)
      have handles := handles_handle uuids now fault known.tracks
      exact .inr ⟨call, _, _, rfl, known, handles, handles.steps known, rfl⟩

theorem step_consistent (uuids : UuidText) (ids : UuidSource)
    (consistent : state.Consistent templates) (move : TriggerMove) :
    (step uuids ids state move).Consistent templates := by
  cases move with
  | call command => exact call_consistent ids consistent command
  | handle position now fault =>
      rcases handle_cases uuids consistent position now fault with
        ⟨-, same⟩ | ⟨call, stage, after, found, -, -, steps, same⟩
      · rw [step, same]
        exact consistent
      · rw [step, same]
        exact advance_consistent consistent found steps

/-- The call that makes a step meets a condition. -/
def Meets (condition : Stores types floats → Call floats → Option String → Prop)
    (state : TriggerState types floats) : TriggerMove → Prop
  | .call _ => True
  | .handle position _ fault =>
      ∀ call, state.calls[position]? = some call → condition state.stores call fault

section Meets

variable {condition : Stores types floats → Call floats → Option String → Prop} {position : Nat}
  {call : Call floats}

theorem meets_of_nowhere (nowhere : state.calls[position]? = none) (now : DateTime)
    (fault : Option String) : state.Meets condition (.handle position now fault) := by
  intro call found
  rw [nowhere] at found
  cases found

theorem meets_iff (found : state.calls[position]? = some call) (now : DateTime)
    (fault : Option String) :
    state.Meets condition (.handle position now fault) ↔ condition state.stores call fault := by
  constructor
  · intro meets
    exact meets call found
  · intro meets other isCall
    rw [found] at isCall
    cases isCall
    exact meets

end Meets

/-- A property of calls that is kept while other calls make their steps holds of all of them
after a step exactly if that step of its call keeps it. -/
theorem each_call_step_iff (uuids : UuidText) (ids : UuidSource)
    {holds : Stores types floats → Call floats → Prop}
    {condition : Stores types floats → Call floats → Option String → Prop}
    (initial : ∀ stores call, call.stage = .finding → holds stores call)
    (frame : ∀ (call other : Call floats) (stores : Stores types floats) (stage : Stage floats)
      (after : Stores types floats), call.Steps stores stage after → other.Known stores →
        other.executionId ≠ call.executionId → other.jobId ≠ call.jobId →
          holds stores other → holds after other)
    (exact_step : ∀ (call : Call floats) (stores : Stores types floats) (fault : Option String)
      (stage : Stage floats) (after : Stores types floats), call.Known stores →
        holds stores call → Handles call stores fault stage after →
          call.Steps stores stage after →
            (holds after { call with stage := stage } ↔ condition stores call fault))
    (consistent : state.Consistent templates)
    (each : ∀ call ∈ state.calls, holds state.stores call) (move : TriggerMove) :
    (∀ call ∈ (step uuids ids state move).calls, holds (step uuids ids state move).stores call) ↔
      state.Meets condition move := by
  cases move with
  | call command =>
      refine iff_of_true ?_ trivial
      intro other member
      rcases List.mem_append.mp member with called | new
      · exact each other called
      · rw [List.mem_singleton.mp new]
        exact initial _ _ rfl
  | handle position now fault =>
      rcases handle_cases uuids consistent position now fault with
        ⟨nowhere, same⟩ | ⟨call, stage, after, found, known, handles, steps, same⟩
      · rw [step, same]
        exact iff_of_true each (meets_of_nowhere nowhere now fault)
      · have calling := List.mem_of_getElem? found
        rw [step, same, meets_iff found,
          ← exact_step _ _ _ _ _ known (each call calling) handles steps]
        constructor
        · intro all
          apply all
          obtain ⟨bound, -⟩ := List.getElem?_eq_some_iff.mp found
          exact List.mem_iff_getElem?.mpr ⟨position, List.getElem?_set_self bound⟩
        · intro own other member
          rcases mem_advance consistent found member with rfl | ⟨old, execution, job⟩
          · exact own
          · exact frame _ _ _ _ _ steps (consistent.known other old) execution job (each other old)

end TriggerState

end HodeiJobs.Templates
