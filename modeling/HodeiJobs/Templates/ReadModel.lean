import HodeiJobs.Library.Mirror
import HodeiJobs.Templates.TemplateCommands
import HodeiJobs.Templates.TriggerSteps

/-!
# What the read model shows

The read model has the summaries of the stored templates until a command writes to one side only:
publication fails between the two writes, or a run that goes through is counted in the read model
alone.
-/

namespace HodeiJobs.Templates

open HodeiJobs.Commands (zerosText)
open HodeiJobs.Execution (JobId UuidText)
open HodeiJobs.Jobs (Floats)
open HodeiJobs.Library
open HodeiJobs.Outbox (DomainEvent FieldTypes textTypes wholeFloats)
open HodeiJobs.Sagas (DateTime Uuid)

variable {types : FieldTypes} {floats : Floats}

/-! ## What is asked of the read model -/

/-- Summaries are equal if these are: a map is what it finds. -/
def TemplateSummary.seen (summary : TemplateSummary floats) :
    TemplateSummary floats × (String → Option String) :=
  ({ summary with labels := ⟨[], List.nodup_nil⟩ }, summary.labels.get)

/-- What the read model is to show of a template. -/
def TemplateRecord.shown (rates : Rates floats) (template : TemplateRecord floats) :
    TemplateSummary floats × (String → Option String) :=
  (TemplateSummary.from rates template).seen

/-- The read model shows what is stored, and nothing else. -/
def TemplateStores.Synced (rates : Rates floats) (stores : TemplateStores types floats) : Prop :=
  ∀ id, (stores.readModel.getById id).map TemplateSummary.seen =
    (stores.records.find id).map (TemplateRecord.shown rates)

/-! ## The conditions on the commands -/

/-- The specification, if there is one, can be read. -/
def UpdateTemplateCommand.IsReadable (fromValue : SpecReader floats)
    (command : UpdateTemplateCommand) : Prop :=
  ∀ value, command.spec = some value → ∃ spec, fromValue value = .ok spec

/-- The command has nothing that the template does not have already. -/
structure UpdateTemplateCommand.ChangesNothing (command : UpdateTemplateCommand)
    (template : TemplateRecord floats) : Prop where
  spec : command.spec = none
  description : ∀ description, command.description = some description →
    template.description = some description
  labels : ∀ labels, command.labels = some labels → labels.get = template.labels.get

/-- The handler gets to publish, and fails there. -/
structure Faults.FailsToPublish (faults : Faults) : Prop where
  read : faults.read = none
  write : faults.write = none
  publish : faults.publish ≠ none

namespace TemplateStores

variable (fromValue : SpecReader floats) (stores : TemplateStores types floats)

/-- There is a template, it is active, nothing fails, and a next number is left. -/
structure GoesThrough (command : TriggerRunCommand) (answers : Answers) : Prop where
  active : ∃ template, stores.records.find command.templateId = some template ∧
    template.canCreateRun = true
  unfailing : ∀ step, (answers step).2 = none
  numbered : stores.executions.nextNumber command.templateId < 2 ^ 63

/-- A publication that fails leaves nothing written that is seen, and no run goes through. -/
def Meets (stores : TemplateStores types floats) : TemplateMove → Prop
  | .create command _ _ faults =>
      faults.FailsToPublish → (∃ spec, fromValue command.spec = .ok spec) →
        stores.records.findWhere (fun template => template.name = command.name) ≠ none
  | .update command _ faults =>
      faults.FailsToPublish → command.IsReadable fromValue →
        ∀ template, stores.records.find command.templateId = some template →
          command.ChangesNothing template
  | .delete command scheduledJobs _ faults =>
      faults.FailsToPublish → command.force = true ∨ scheduledJobs = .ok 0 →
        stores.records.find command.templateId = none
  | .disable command now faults =>
      faults.FailsToPublish →
        ∀ template, stores.records.find command.templateId = some template →
          template.status = .disabled ∧ template.updatedAt = now
  | .enable command now faults =>
      faults.FailsToPublish →
        ∀ template, stores.records.find command.templateId = some template →
          template.status = .active ∧ template.updatedAt = now
  | .triggerRun command _ _ answers => ¬stores.GoesThrough command answers

end TemplateStores

/-! ## Commands that write and publish -/

theorem answered_ok_iff {fault : Option String} {action : String} {Answer : Type}
    {answer other : Answer} :
    TemplateRecords.answered fault action answer = .ok other ↔ fault = none ∧ answer = other := by
  cases fault with
  | none => simp [TemplateRecords.answered]
  | some problem => exact iff_of_false nofun (fun both => nomatch both.1)

namespace TemplateStores

variable {rates : Rates floats} {stores : TemplateStores types floats} {faults : Faults}

theorem mirrors_of_synced (synced : stores.Synced rates) :
    Mirrors (TemplateRecord.shown rates) TemplateSummary.seen stores.readModel stores.records :=
  synced

theorem synced_commit_iff (synced : stores.Synced rates)
    {written : Except DomainError (TemplateRecords floats)}
    {event : DomainEvent (types.withSpecs floats)}
    {patch : TemplateReadModel floats → TemplateReadModel floats}
    (patched : ∀ records, written = .ok records →
      Mirrors (TemplateRecord.shown rates) TemplateSummary.seen (patch stores.readModel) records) :
    (stores.commit faults written event patch).2.Synced rates ↔
      ∀ records, written = .ok records → faults.publish ≠ none →
        Mirrors (TemplateRecord.shown rates) TemplateSummary.seen stores.readModel records := by
  cases written with
  | error error => exact iff_of_true synced nofun
  | ok records =>
      unfold commit
      cases unpublished : faults.publish with
      | none => exact iff_of_true (patched records rfl) (fun _ _ fails => absurd rfl fails)
      | some problem =>
          constructor
          · intro mirrors _ is _
            cases is
            exact mirrors
          · exact fun mirrors => mirrors records rfl nofun

/-- A template is saved unseen if publication fails. -/
theorem synced_save_iff (synced : stores.Synced rates) {template : TemplateRecord floats}
    {event : DomainEvent (types.withSpecs floats)}
    {patch : TemplateReadModel floats → TemplateReadModel floats}
    (patched : patch stores.readModel = stores.readModel.upsert (.from rates template)) :
    (stores.commit faults (stores.records.save faults.write template) event patch).2.Synced rates ↔
      (faults.write = none → faults.publish ≠ none →
        (stores.records.find template.id).map (TemplateRecord.shown rates) =
          some (template.shown rates)) := by
  have mirrors := mirrors_of_synced synced
  rw [synced_commit_iff synced]
  · constructor
    · intro unseen write publish
      exact (mirrors.upsert_rows_iff template).mp
        (unseen _ (answered_ok_iff.mpr ⟨write, rfl⟩) publish)
    · rintro same _ saved publish
      obtain ⟨write, rfl⟩ := answered_ok_iff.mp saved
      exact (mirrors.upsert_rows_iff template).mpr (same write publish)
  · rintro _ saved
    obtain ⟨-, rfl⟩ := answered_ok_iff.mp saved
    rw [patched]
    exact mirrors.upsert_both rfl rfl

theorem synced_remove_iff (synced : stores.Synced rates) (id : JobTemplateId)
    (event : DomainEvent (types.withSpecs floats)) :
    (stores.commit faults (stores.records.remove faults.write id) event (·.delete id)).2.Synced
        rates ↔
      (faults.write = none → faults.publish ≠ none → stores.records.find id = none) := by
  have mirrors := mirrors_of_synced synced
  rw [synced_commit_iff synced]
  · constructor
    · intro unseen write publish
      exact (mirrors.delete_row_iff id).mp (unseen _ (answered_ok_iff.mpr ⟨write, rfl⟩) publish)
    · rintro absent _ removed publish
      obtain ⟨write, rfl⟩ := answered_ok_iff.mp removed
      exact (mirrors.delete_row_iff id).mpr (absent write publish)
  · rintro _ removed
    obtain ⟨-, rfl⟩ := answered_ok_iff.mp removed
    exact mirrors.delete_both id

/-- A stored template is in the read model too, so that it is updated there. -/
theorem update_eq_upsert (synced : stores.Synced rates) {old template : TemplateRecord floats}
    (found : stores.records.find template.id = some old) :
    TemplateReadModel.update rates stores.readModel template =
      stores.readModel.upsert (.from rates template) := by
  have present : stores.readModel.find template.id ≠ none := by
    rw [ne_eq, (mirrors_of_synced synced).find_none_iff, found]
    exact nofun
  unfold TemplateReadModel.update
  split
  · rfl
  · exact absurd (by assumption) present

theorem load_ok_iff {uuids : UuidText} {id : JobTemplateId} {template : TemplateRecord floats} :
    stores.load uuids faults id = .ok template ↔
      faults.read = none ∧ stores.records.find id = some template := by
  unfold load TemplateRecords.findById TemplateRecords.answered
  cases faults.read with
  | some problem => exact iff_of_false nofun (fun both => nomatch both.1)
  | none =>
      cases stores.records.find id with
      | none => exact iff_of_false nofun (fun both => nomatch both.2)
      | some stored => simp

end TemplateStores

/-! ## What a change of a template shows -/

theorem display_injective : Function.Injective JobTemplateStatus.display := by
  intro status other same
  cases status <;> cases other <;> first | rfl | exact absurd same (by decide)

/-- A new status is seen, and so is a new time. -/
theorem shown_with_status_iff (rates : Rates floats) (old : TemplateRecord floats)
    (status : JobTemplateStatus) (now : DateTime) :
    old.shown rates = TemplateRecord.shown rates { old with status := status, updatedAt := now } ↔
      old.status = status ∧ old.updatedAt = now := by
  constructor
  · intro same
    have summaries := congrArg Prod.fst same
    have display := congrArg TemplateSummary.status summaries
    exact ⟨display_injective display, congrArg TemplateSummary.updatedAt summaries⟩
  · rintro ⟨rfl, rfl⟩
    rfl

theorem seen_counted_ne (summary : TemplateSummary floats) :
    TemplateSummary.seen { summary with runCount := summary.runCount + 1 } ≠ summary.seen := by
  intro same
  have runs := congrArg (fun seen => seen.1.runCount) same
  change summary.runCount + 1 = summary.runCount at runs
  exact absurd runs (by grind)

/-- A new specification is seen by its version. -/
theorem shown_updated_iff (rates : Rates floats) {fromValue : SpecReader floats} {now : DateTime}
    {command : UpdateTemplateCommand} {old template : TemplateRecord floats}
    (updated : TemplateStores.updated fromValue now command old = .ok template) :
    old.shown rates = template.shown rates ↔ command.ChangesNothing old := by
  obtain ⟨templateId, description, spec, labels, updatedBy⟩ := command
  cases spec with
  | some value =>
      refine iff_of_false ?_ fun nothing => nomatch nothing.spec
      intro same
      unfold TemplateStores.updated at updated
      dsimp only at updated
      split at updated
      · cases updated
      · cases updated
        have version := congrArg (fun shown => shown.1.version) same
        change old.version = old.version + 1 at version
        exact absurd version (by grind)
  | none =>
      cases updated
      constructor
      · intro same
        refine ⟨rfl, ?_, ?_⟩
        · rintro text rfl
          exact congrArg (fun shown => shown.1.description) same
        · rintro map rfl
          exact (congrArg Prod.snd same).symm
      · intro nothing
        have sameDescription : description.or old.description = old.description := by
          cases description with
          | none => rfl
          | some text => exact (nothing.description text rfl).symm
        have sameLabels : (labels.getD old.labels).get = old.labels.get := by
          cases labels with
          | none => rfl
          | some map => exact nothing.labels map rfl
        unfold TemplateRecord.shown TemplateSummary.seen TemplateSummary.from
        dsimp only
        rw [sameDescription, sameLabels]
        rfl

/-! ## When a run goes through -/

/-- The number of steps before the call returns. -/
def Stage.remaining : Stage floats → Nat
  | .finding => 6
  | .numbering _ => 5
  | .saving _ _ => 4
  | .linking _ _ _ => 3
  | .announcing _ _ _ => 2
  | .creating _ _ _ => 1
  | .succeeded _ _ _ | .failed _ => 0

namespace Call

/-- Without a fault, the call succeeds from here. -/
def CanGo (call : Call floats) (stores : Stores types floats) : Prop :=
  match call.stage with
  | .finding =>
      (∃ template, stores.templates.find call.command.templateId = some template ∧
        template.canCreateRun = true) ∧
        stores.executions.nextNumber call.command.templateId < 2 ^ 63
  | .numbering template =>
      template.canCreateRun = true ∧
        stores.executions.nextNumber call.command.templateId < 2 ^ 63
  | .saving template _ => template.canCreateRun = true
  | .linking _ _ _ | .announcing _ _ _ | .creating _ _ _ | .succeeded _ _ _ => True
  | .failed _ => False

/-- The step fails, because of a fault or because the call cannot go on. -/
def Fails (call : Call floats) (stores : Stores types floats) (fault : Option String)
    (stage : Stage floats) : Prop :=
  (∃ error, stage = .failed error) ∧ ¬(fault = none ∧ call.CanGo stores)

/-- The step is taken, and decides nothing else. -/
def Goes (call : Call floats) (stores after : Stores types floats) (fault : Option String)
    (stage : Stage floats) : Prop :=
  fault = none ∧ stage.remaining + 1 = call.stage.remaining ∧
    (CanGo { call with stage := stage } after ↔ call.CanGo stores)

variable (uuids : UuidText)

theorem goes_or_fails (call : Call floats) (stores : Stores types floats) (now : DateTime)
    (fault : Option String) (unfinished : call.stage.remaining ≠ 0) :
    call.Goes stores (call.handle uuids now fault stores).2 fault
        (call.handle uuids now fault stores).1 ∨
      call.Fails stores fault (call.handle uuids now fault stores).1 := by
  obtain ⟨command, executionId, jobId, stage⟩ := call
  cases fault with
  | some problem =>
      refine .inr ⟨?_, nofun⟩
      cases stage with
      | succeeded | failed => exact absurd rfl unfinished
      | finding | numbering | saving | linking | announcing | creating => exact ⟨_, rfl⟩
  | none =>
      cases stage with
      | succeeded | failed => exact absurd rfl unfinished
      | linking | announcing | creating => exact .inl ⟨rfl, rfl, Iff.rfl⟩
      | finding =>
          cases found : stores.templates.find command.templateId with
          | none =>
              simp only [handle, JobTemplates.findById, found]
              exact .inr ⟨⟨_, rfl⟩, fun can => by simp [CanGo, found] at can⟩
          | some template =>
              simp only [handle, JobTemplates.findById, found]
              split
              · refine .inl ⟨rfl, rfl, ?_⟩
                simp [CanGo, found]
              · refine .inr ⟨⟨_, rfl⟩, fun can => ?_⟩
                simp only [CanGo, found] at can
                obtain ⟨-, ⟨_, ⟨rfl⟩, active⟩, -⟩ := can
                contradiction
      | numbering template =>
          simp only [handle, JobExecutions.getNextExecutionNumber]
          split_ifs with next
          · exact .inl ⟨rfl, rfl, (and_iff_left next).symm⟩
          · exact .inr ⟨⟨_, rfl⟩, fun can => next can.2.2⟩
      | saving template execution =>
          cases active : template.canCreateRun with
          | true =>
              simp only [handle, JobExecutions.save, JobTemplate.createRun, active, if_true]
              refine .inl ⟨rfl, rfl, ?_⟩
              simp [CanGo, active]
          | false =>
              simp only [handle, JobExecutions.save, JobTemplate.createRun, active]
              refine .inr ⟨⟨_, rfl⟩, fun can => ?_⟩
              simp [CanGo, active] at can

theorem run_cons (call : Call floats) (answer : DateTime × Option String)
    (answers : List (DateTime × Option String)) (stores : Stores types floats) :
    call.run uuids (answer :: answers) stores =
      run uuids { call with stage := (call.handle uuids answer.1 answer.2 stores).1 } answers
        (call.handle uuids answer.1 answer.2 stores).2 :=
  rfl

theorem run_failed {call : Call floats} {error : DomainError} (failed : call.stage = .failed error)
    (answers : List (DateTime × Option String)) (stores : Stores types floats) :
    call.run uuids answers stores = (.failed error, stores) := by
  obtain ⟨command, executionId, jobId, stage⟩ := call
  subst failed
  induction answers with
  | nil => rfl
  | cons answer answers ih => exact (run_cons uuids _ answer answers stores).trans ih

theorem succeeds_iff_can_go {call : Call floats} (finished : call.stage.remaining = 0)
    (stores : Stores types floats) : call.stage.isSucceeded = true ↔ call.CanGo stores := by
  obtain ⟨command, executionId, jobId, stage⟩ := call
  cases stage with
  | succeeded => exact iff_of_true rfl trivial
  | failed => exact iff_of_false Bool.false_ne_true id
  | finding | numbering | saving | linking | announcing | creating => cases finished

/-- A call that takes all of its steps succeeds exactly if none has a fault and it can go. -/
theorem run_succeeds_iff (answers : List (DateTime × Option String)) (call : Call floats)
    (stores : Stores types floats) (all : answers.length = call.stage.remaining) :
    (call.run uuids answers stores).1.isSucceeded = true ↔
      (∀ answer ∈ answers, answer.2 = none) ∧ call.CanGo stores := by
  induction answers generalizing call stores with
  | nil =>
      rw [and_iff_right (fun _ member => absurd member List.not_mem_nil)]
      exact succeeds_iff_can_go all.symm stores
  | cons answer answers ih =>
      rw [run_cons, List.forall_mem_cons]
      have unfinished : call.stage.remaining ≠ 0 := by
        rw [← all, List.length_cons]
        exact Nat.succ_ne_zero _
      rcases call.goes_or_fails uuids stores answer.1 answer.2 unfinished with goes | fails
      · obtain ⟨unfailing, fewer, same⟩ := goes
        have rest : answers.length = _ := Nat.succ.inj (all.trans fewer.symm)
        rw [ih _ _ rest, same, and_iff_right unfailing]
      · obtain ⟨⟨error, failed⟩, cannot⟩ := fails
        rw [run_failed uuids failed]
        exact iff_of_false Bool.false_ne_true (fun both => cannot ⟨both.1.1, both.2⟩)

end Call

namespace TemplateStores

theorem trigger_run_succeeds_iff (uuids : UuidText) (stores : TemplateStores types floats)
    (command : TriggerRunCommand) (executionId : Uuid) (jobId : JobId) (answers : Answers) :
    (Call.run uuids ⟨command, executionId, jobId, .finding⟩ (List.ofFn answers)
        ⟨stores.records.templates, stores.executions, stores.published⟩).1.isSucceeded = true ↔
      stores.GoesThrough command answers := by
  have viewed : ∀ id, stores.records.templates.find id =
      (stores.records.find id).map TemplateRecord.toJobTemplate :=
    Table.find_view stores.records _ _
  have succeeds := Call.run_succeeds_iff uuids (List.ofFn answers)
    ⟨command, executionId, jobId, .finding⟩
    ⟨stores.records.templates, stores.executions, stores.published⟩ List.length_ofFn
  rw [succeeds, List.forall_mem_ofFn_iff]
  constructor
  · rintro ⟨unfailing, ⟨_, found, active⟩, numbered⟩
    rw [viewed] at found
    obtain ⟨template, stored, rfl⟩ := Option.map_eq_some_iff.mp found
    exact ⟨⟨template, stored, active⟩, unfailing, numbered⟩
  · rintro ⟨⟨template, stored, active⟩, unfailing, numbered⟩
    refine ⟨unfailing, ⟨template.toJobTemplate, ?_, active⟩, numbered⟩
    rw [viewed, stored, Option.map_some]

/-! ## What each command does to the read model -/

theorem foldl_with_label (labels : List (String × String)) (template : TemplateRecord floats) :
    ∃ map, labels.foldl TemplateRecord.withLabel template = { template with labels := map } := by
  induction labels generalizing template with
  | nil => exact ⟨template.labels, rfl⟩
  | cons label labels ih => exact ih (template.withLabel label)

theorem updated_id {fromValue : SpecReader floats} {now : DateTime}
    {command : UpdateTemplateCommand} {old template : TemplateRecord floats}
    (changed : updated fromValue now command old = .ok template) : template.id = old.id := by
  obtain ⟨templateId, description, spec, labels, updatedBy⟩ := command
  cases spec with
  | none =>
      cases changed
      rfl
  | some value =>
      unfold updated at changed
      dsimp only at changed
      split at changed
      · cases changed
      · cases changed
        rfl

theorem updated_ok_iff {fromValue : SpecReader floats} {now : DateTime}
    {command : UpdateTemplateCommand} {old : TemplateRecord floats} :
    (∃ template, updated fromValue now command old = .ok template) ↔
      command.IsReadable fromValue := by
  obtain ⟨templateId, description, spec, labels, updatedBy⟩ := command
  cases spec with
  | none => exact iff_of_true ⟨_, rfl⟩ nofun
  | some value =>
      unfold updated
      dsimp only
      constructor
      · rintro ⟨template, changed⟩ _ ⟨⟩
        cases readable : fromValue value with
        | error problem =>
            rw [readable] at changed
            cases changed
        | ok spec => exact ⟨spec, rfl⟩
      · intro readable
        obtain ⟨spec, isRead⟩ := readable value rfl
        rw [isRead]
        exact ⟨_, rfl⟩

section Handlers

variable (uuids : UuidText) {rates : Rates floats} (fromValue : SpecReader floats)
  {stores : TemplateStores types floats} (synced : stores.Synced rates) (now : DateTime)
  (faults : Faults)

include synced

/-- A stored template is changed unseen if publication fails. -/
theorem synced_change_iff {id : JobTemplateId} {old template : TemplateRecord floats}
    (found : stores.records.find id = some old) (sameId : template.id = old.id)
    (event : DomainEvent (types.withSpecs floats)) :
    (stores.commit faults (stores.records.save faults.write template) event
        (TemplateReadModel.update rates · template)).2.Synced rates ↔
      (faults.write = none → faults.publish ≠ none →
        old.shown rates = template.shown rates) := by
  have isId := Table.find_some_key found
  rw [← isId, ← sameId] at found
  rw [synced_save_iff synced (update_eq_upsert synced found), found, Option.map_some,
    Option.some_inj]

theorem synced_status_iff {id : JobTemplateId} {old template : TemplateRecord floats}
    {status : JobTemplateStatus} (loaded : stores.load uuids faults id = .ok old)
    (isChanged : template = { old with status := status, updatedAt := now })
    (event : DomainEvent (types.withSpecs floats)) :
    (stores.commit faults (stores.records.save faults.write template) event
        (TemplateReadModel.update rates · template)).2.Synced rates ↔
      (faults.FailsToPublish → ∀ template, stores.records.find id = some template →
        template.status = status ∧ template.updatedAt = now) := by
  obtain ⟨read, found⟩ := load_ok_iff.mp loaded
  have sameId : template.id = old.id := by rw [isChanged]
  rw [synced_change_iff synced faults found sameId, isChanged, shown_with_status_iff]
  constructor
  · intro seen fails template isStored
    cases found.symm.trans isStored
    exact seen fails.write fails.publish
  · intro meets write publish
    exact meets ⟨read, write, publish⟩ old found

theorem create_synced_iff (command : CreateTemplateCommand) (id : JobTemplateId) :
    (stores.createTemplate uuids rates fromValue now faults command id).2.Synced rates ↔
      stores.Meets fromValue (.create command id now faults) := by
  unfold createTemplate TemplateRecords.findByName TemplateRecords.answered
  cases read : faults.read with
  | some problem =>
      refine iff_of_true synced fun fails => ?_
      cases read.symm.trans fails.read
  | none =>
      cases named : stores.records.findWhere fun template => template.name = command.name with
      | some other =>
          refine iff_of_true synced fun _ _ => ?_
          rw [named]
          exact nofun
      | none =>
          cases readable : fromValue command.spec with
          | error problem =>
              refine iff_of_true synced ?_
              rintro _ ⟨spec, isRead⟩
              cases readable.symm.trans isRead
          | ok spec =>
              dsimp only
              rw [synced_save_iff synced rfl]
              -- the template under this id, if there is one, has another name
              obtain ⟨map, isCreated⟩ := foldl_with_label command.labels.rows
                (((TemplateRecord.new id command.name spec now).withDescription
                  (command.description.getD "")).withCreatedBy command.createdBy)
              have name : (created now command id spec).name = command.name := by
                unfold created
                rw [isCreated]
                rfl
              have unseen : (stores.records.find (created now command id spec).id).map
                    (TemplateRecord.shown rates) ≠
                  some ((created now command id spec).shown rates) := by
                intro same
                obtain ⟨other, found, shows⟩ := Option.map_eq_some_iff.mp same
                have different := List.find?_eq_none.mp named other (List.mem_of_find?_eq_some found)
                have sameName := congrArg (fun shown => shown.1.name) shows
                exact different (decide_eq_true (sameName.trans name))
              constructor
              · intro seen fails _
                exact absurd (seen fails.write fails.publish) unseen
              · intro unfailing write publish
                exact absurd named (unfailing ⟨read, write, publish⟩ ⟨spec, readable⟩)

theorem update_synced_iff (command : UpdateTemplateCommand) :
    (stores.updateTemplate uuids rates fromValue now faults command).2.Synced rates ↔
      stores.Meets fromValue (.update command now faults) := by
  unfold updateTemplate
  cases loaded : stores.load uuids faults command.templateId with
  | error error =>
      refine iff_of_true synced fun fails _ template found => ?_
      cases loaded.symm.trans (load_ok_iff.mpr ⟨fails.read, found⟩)
  | ok old =>
      obtain ⟨read, found⟩ := load_ok_iff.mp loaded
      dsimp only
      cases change : updated fromValue now command old with
      | error error =>
          refine iff_of_true synced fun _ readable => ?_
          obtain ⟨template, changed⟩ := updated_ok_iff.mpr readable
          cases change.symm.trans changed
      | ok template =>
          dsimp only
          rw [synced_change_iff synced faults found (updated_id change), shown_updated_iff rates change]
          constructor
          · intro seen fails _ stored isStored
            cases found.symm.trans isStored
            exact seen fails.write fails.publish
          · intro meets write publish
            exact meets ⟨read, write, publish⟩ (updated_ok_iff.mp ⟨template, change⟩) old found

theorem delete_synced_iff (command : DeleteTemplateCommand)
    (scheduledJobs : Except DomainError Nat) :
    (stores.deleteTemplate uuids now faults scheduledJobs command).2.Synced rates ↔
      stores.Meets fromValue (.delete command scheduledJobs now faults) := by
  unfold deleteTemplate
  cases loaded : stores.load uuids faults command.templateId with
  | error error =>
      refine iff_of_true synced fun fails _ => Option.eq_none_iff_forall_ne_some.mpr ?_
      intro template found
      cases loaded.symm.trans (load_ok_iff.mpr ⟨fails.read, found⟩)
  | ok template =>
      obtain ⟨read, -⟩ := load_ok_iff.mp loaded
      have deletes : (stores.commit faults (stores.records.remove faults.write command.templateId)
            (templateDisabled uuids template now command.deletedBy)
            (·.delete command.templateId)).2.Synced rates ↔
          (faults.FailsToPublish → stores.records.find command.templateId = none) := by
        rw [synced_remove_iff synced]
        exact ⟨fun absent fails => absent fails.write fails.publish,
          fun absent write publish => absent ⟨read, write, publish⟩⟩
      obtain ⟨templateId, force, deletedBy⟩ := command
      cases force with
      | true =>
          exact deletes.trans ⟨fun absent fails _ => absent fails,
            fun absent fails => absent fails (.inl rfl)⟩
      | false =>
          match scheduledJobs with
          | .ok 0 =>
              exact deletes.trans ⟨fun absent fails _ => absent fails,
                fun absent fails => absent fails (.inr rfl)⟩
          | .error error =>
              refine iff_of_true synced ?_
              rintro _ (⟨⟨⟩⟩ | ⟨⟨⟩⟩)
          | .ok (number + 1) =>
              refine iff_of_true synced ?_
              rintro _ (⟨⟨⟩⟩ | ⟨⟨⟩⟩)

theorem disable_synced_iff (command : DisableTemplateCommand) :
    (stores.disableTemplate uuids rates now faults command).2.Synced rates ↔
      stores.Meets fromValue (.disable command now faults) := by
  unfold disableTemplate
  cases loaded : stores.load uuids faults command.templateId with
  | error error =>
      refine iff_of_true synced fun fails template found => ?_
      cases loaded.symm.trans (load_ok_iff.mpr ⟨fails.read, found⟩)
  | ok old => exact synced_status_iff uuids synced now faults loaded rfl _

theorem enable_synced_iff (command : EnableTemplateCommand) :
    (stores.enableTemplate uuids rates now faults command).2.Synced rates ↔
      stores.Meets fromValue (.enable command now faults) := by
  unfold enableTemplate
  cases loaded : stores.load uuids faults command.templateId with
  | error error =>
      refine iff_of_true synced fun fails template found => ?_
      cases loaded.symm.trans (load_ok_iff.mpr ⟨fails.read, found⟩)
  | ok old => exact synced_status_iff uuids synced now faults loaded rfl _

theorem trigger_run_synced_iff (command : TriggerRunCommand) (executionId : Uuid) (jobId : JobId)
    (answers : Answers) :
    (stores.triggerRun uuids command executionId jobId answers).2.Synced rates ↔
      stores.Meets fromValue (.triggerRun command executionId jobId answers) := by
  have succeeds := trigger_run_succeeds_iff uuids stores command executionId jobId answers
  change _ ↔ ¬stores.GoesThrough command answers
  rw [← succeeds]
  unfold triggerRun
  dsimp only
  split_ifs with succeeded
  · refine iff_of_false ?_ (fun fails => fails succeeded)
    intro counted
    obtain ⟨⟨template, stored, -⟩, -, -⟩ := succeeds.mp succeeded
    have present : stores.readModel.find command.templateId ≠ none := by
      rw [ne_eq, (mirrors_of_synced synced).find_none_iff, stored]
      exact nofun
    obtain ⟨summary, found⟩ := Option.ne_none_iff_exists'.mp present
    have unchanged := (mirrors_of_synced synced).update_copies_iff command.templateId
      (fun summary => { summary with runCount := summary.runCount + 1 }) fun _ => rfl
    exact seen_counted_ne summary (unchanged.mp counted summary found)
  · exact iff_of_true synced succeeded

/-- After a command the read model is in step exactly if the command meets its condition. -/
theorem synced_step_iff (move : TemplateMove) :
    (stores.step uuids rates fromValue move).Synced rates ↔ stores.Meets fromValue move := by
  cases move with
  | create command id now faults =>
      exact create_synced_iff uuids fromValue synced now faults command id
  | update command now faults => exact update_synced_iff uuids fromValue synced now faults command
  | delete command scheduledJobs now faults =>
      exact delete_synced_iff uuids fromValue synced now faults command scheduledJobs
  | disable command now faults => exact disable_synced_iff uuids fromValue synced now faults command
  | enable command now faults => exact enable_synced_iff uuids fromValue synced now faults command
  | triggerRun command executionId jobId answers =>
      exact trigger_run_synced_iff uuids fromValue synced command executionId jobId answers

end Handlers

theorem synced_start (rates : Rates floats) (types : FieldTypes) (records : TemplateRecords floats)
    (executions : JobExecutions floats) : (start rates types records executions).Synced rates := by
  have viewed : Mirrors (TemplateRecord.shown rates) TemplateSummary.seen
      (start rates types records executions).readModel records :=
    Mirrors.of_view records (TemplateSummary.from rates) (fun _ => rfl) fun _ => rfl
  exact viewed

/-- The read model shows what is stored after each of any commands exactly if no publication that
fails leaves something written, and no run goes through. -/
theorem read_model_synced_iff (uuids : UuidText) (rates : Rates floats)
    (fromValue : SpecReader floats) (types : FieldTypes) (records : TemplateRecords floats)
    (executions : JobExecutions floats) (moves : List TemplateMove) :
    Always (step uuids rates fromValue) (Synced rates) (start rates types records executions)
        moves ↔
      EachMove (step uuids rates fromValue) (Meets fromValue)
        (start rates types records executions) moves :=
  always_iff_each_move _ _ _ (fun _ move synced => synced_step_iff uuids fromValue synced move)
    moves _ (synced_start rates types records executions)

/-! ## Two ways out of step -/

def wholeRates : Rates wholeFloats where
  zero := (0 : Int)
  hundred := (100 : Int)
  ofU64 value := Int.ofNat value.toNat
  div := Int.tdiv
  mul := Int.mul

/-- Every value is read as one specification. -/
def echoReader : SpecReader wholeFloats :=
  fun _ => .ok (.withCommand wholeFloats (.shell "echo" ["hello"]))

def greet : CreateTemplateCommand where
  name := "greet"
  description := none
  spec := .object []
  labels := ⟨[], List.nodup_nil⟩
  createdBy := "alice"

def greetRun : TriggerRunCommand where
  templateId := ⟨1⟩
  jobName := none
  triggeredByUser := "alice"
  parameters := ⟨[], List.nodup_nil⟩
  triggeredBy := .manual

/-- A template is created whose event is not published. -/
def unpublished : List TemplateMove := [.create greet ⟨1⟩ 0 ⟨none, none, some "closed"⟩]

/-- A template is created and run. -/
def createdAndRun : List TemplateMove :=
  [.create greet ⟨1⟩ 0 ⟨none, none, none⟩, .triggerRun greetRun 2 ⟨3⟩ fun _ => (0, none)]

theorem read_model_falls_behind :
    ¬Always (step zerosText wholeRates echoReader) (Synced wholeRates)
        (start wholeRates textTypes ⟨[], List.nodup_nil⟩ ⟨[], List.nodup_nil⟩) unpublished ∧
      ¬Always (step zerosText wholeRates echoReader) (Synced wholeRates)
        (start wholeRates textTypes ⟨[], List.nodup_nil⟩ ⟨[], List.nodup_nil⟩) createdAndRun := by
  constructor
  · intro always
    have synced := always_final _ _ _ always ⟨1⟩
    exact absurd (congrArg Option.isSome synced) (by decide)
  · intro always
    have synced := always_final _ _ _ always ⟨1⟩
    have runs := congrArg (Option.map fun seen => seen.1.runCount) synced
    exact absurd runs (by decide)

end TemplateStores

end HodeiJobs.Templates
