import HodeiJobs.Library.Clients
import HodeiJobs.Execution.Undo

/-!
# Exclusive assignment

Any number of `AssignWorkerHandler` runs for different jobs on one registry,
interleaved call by call, with workers released in between. A run reads the
worker it selects, saves its job, and only then makes the worker busy, without
looking at it again.
-/

namespace HodeiJobs.Execution

open HodeiJobs.Library HodeiJobs.Library.Program HodeiJobs.Shared
open HodeiJobs.Sagas (DateTime)

/-! ## What a run has in hand -/

inductive Phase where
  | selecting
  | holding (workerId : WorkerId)
  | taken (workerId : WorkerId)
  deriving DecidableEq

/-- The worker that the reply to this call makes the run select. -/
def selected : (op : Op) → Op.Reply op → Option WorkerId
  | .findWorker .assignFindWorker workerId, Except.ok (some worker) =>
      if worker.state = .ready ∨ worker.state = .busy then some workerId else none
  | .findWorkers .assignFindWorkers _, Except.ok workers => workers.head?.map Worker.id
  | _, _ => none

/-- The worker that this call hands to the job of the run. -/
def handedOver : (op : Op) → Op.Reply op → Option WorkerId
  | .updateWorkerState .assignUpdateWorker workerId .busy, Except.ok () => some workerId
  | _, _ => none

/-- The order of the calls of one run: a worker is made busy only when it was
selected before. -/
def assignProtocol : Protocol Op Op.Reply Phase where
  answers _ _ := True
  allows
    | .selecting, .findWorker .assignFindWorker _ => True
    | .selecting, .findWorkers .assignFindWorkers _ => True
    | .holding _, .findJob _ _ => True
    | .holding _, .updateJob _ _ => True
    | .holding held, .updateWorkerState .assignUpdateWorker workerId state =>
        workerId = held ∧ state = .busy
    | .taken _, .findWorker .assignFinalWorker _ => True
    | _, _ => False
  remember phase op reply :=
    match handedOver op reply, selected op reply with
    | some workerId, _ => .taken workerId
    | none, some workerId => .holding workerId
    | none, none => phase

/-- A run that reports success reports the worker it made busy. -/
def assignEnds (phase : Phase) (outcome : Except AssignWorkerError WorkerAssignmentResult) : Prop :=
  ∀ result, outcome = .ok result → result.success = true →
    ∃ workerId, result.workerId = some workerId ∧ phase = .taken workerId

section Obeys

variable {command : AssignWorkerCommand}

theorem returns_select_worker :
    Returns assignProtocol
      (fun phase result => ∀ workerId, result = some workerId → phase = .holding workerId)
      (selectWorker command) .selecting := by
  obtain ⟨jobId, preAssigned⟩ := command
  unfold selectWorker
  cases preAssigned with
  | some preAssignedId =>
      refine returns_lookup (returns_request trivial ?_)
      rintro reply - worker rfl
      by_cases refused : worker.state ≠ .ready ∧ worker.state ≠ .busy
      · rw [if_pos refused]
        exact returns_throw _ _ _
      · rw [if_neg refused]
        apply returns_pure
        intro workerId same
        cases same
        have usable : worker.state = .ready ∨ worker.state = .busy := by tauto
        simp only [assignProtocol, handedOver, selected, if_pos usable]
  | none =>
      refine returns_seq (returns_call_or (returns_request trivial ?_))
      rintro reply - available rfl
      apply returns_pure
      intro workerId first
      simp only [assignProtocol, handedOver, selected, first]

theorem obeys_assign_worker_handler :
    Program.Obeys assignProtocol assignEnds (assignWorkerHandler command).run .selecting := by
  have returns : Returns assignProtocol
      (fun phase result => result.success = true →
        ∃ workerId, result.workerId = some workerId ∧ phase = .taken workerId)
      (assignWorkerHandler command) .selecting := by
    refine returns_bind returns_select_worker ?_
    intro phase selection held
    cases selection with
    | none =>
        apply returns_pure
        intro absurdity
        cases absurdity
    | some workerId =>
        obtain rfl := held workerId rfl
        refine returns_lookup (returns_request trivial ?_)
        rintro reply - job rfl
        cases job.setState .assigned with
        | error error => exact returns_throw _ _ _
        | ok assigned =>
            refine returns_seq (returns_call_or (returns_request trivial ?_))
            rintro reply - saved rfl
            refine returns_seq (returns_call_or (returns_request ⟨rfl, rfl⟩ ?_))
            rintro reply - busy rfl
            refine returns_lookup (returns_request trivial ?_)
            rintro reply - worker rfl
            apply returns_pure
            intro _
            exact ⟨workerId, rfl, rfl⟩
  exact returns

end Obeys

/-! ## Runs on one registry -/

structure AssignRun where
  jobId : JobId
  client : Client Op Op.Reply Phase (Except AssignWorkerError WorkerAssignmentResult)

namespace AssignRun

def start (command : AssignWorkerCommand) : AssignRun :=
  ⟨command.jobId, .selecting, (assignWorkerHandler command).run⟩

/-- The run has selected the worker and has not made it busy yet. -/
def WaitsFor (run : AssignRun) (workerId : WorkerId) : Prop :=
  run.client.memory = .holding workerId ∧ run.client.nextCall.isSome

instance (run : AssignRun) (workerId : WorkerId) : Decidable (run.WaitsFor workerId) :=
  inferInstanceAs (Decidable (_ ∧ _))

def Succeeded (run : AssignRun) (workerId : WorkerId) : Prop :=
  ∃ result, run.client.program = .done (.ok result) ∧ result.success = true ∧
    result.workerId = some workerId

end AssignRun

inductive Event where
  | handed (jobId : JobId) (workerId : WorkerId)
  | released (workerId : WorkerId)
  deriving DecidableEq

/-- The job that has the worker, by a log with the newest event first. -/
def holder : List Event → WorkerId → Option JobId
  | [], _ => none
  | .handed jobId other :: earlier, workerId =>
      if other = workerId then some jobId else holder earlier workerId
  | .released other :: earlier, workerId =>
      if other = workerId then none else holder earlier workerId

structure Assignments where
  runs : List AssignRun
  tables : Tables
  log : List Event

inductive AssignMove where
  /-- Run number `run` makes its next call. -/
  | call (run : Nat) (env : Env)
  /-- `update_state` to ready, as `ReleaseWorkerHandler` calls it. -/
  | release (now : DateTime) (workerId : WorkerId)
  | releaseFromJob (now : DateTime) (workerId : WorkerId)

namespace Assignments

def start (commands : List AssignWorkerCommand) (tables : Tables) : Assignments :=
  ⟨commands.map AssignRun.start, tables, []⟩

/-- The job that a worker is busy with: the one it was handed to, else the one
that its row names. -/
def busyWith (system : Assignments) (workerId : WorkerId) : Option JobId :=
  match system.tables.workers.find workerId with
  | some worker =>
      if worker.state = .busy then (holder system.log workerId).or worker.currentJobId else none
  | none => none

def record (log : List Event) (jobId : JobId) : Option WorkerId → List Event
  | some workerId => .handed jobId workerId :: log
  | none => log

def callRun (system : Assignments) (number : Nat) (run : AssignRun) (env : Env) : Assignments :=
  let moved := run.client.advance assignProtocol (handle env) system.tables
  let handed := run.client.nextCall.bind fun op => handedOver op (handle env op system.tables).1
  { runs := system.runs.set number ⟨run.jobId, moved.1⟩
    tables := moved.2
    log := record system.log run.jobId handed }

def step (system : Assignments) : AssignMove → Assignments
  | .call number env =>
      match system.runs[number]? with
      | some run => system.callRun number run env
      | none => system
  | .release now workerId =>
      { system with
        tables := system.tables.updateWorkerState now workerId .ready
        log := .released workerId :: system.log }
  | .releaseFromJob now workerId =>
      { system with
        tables := system.tables.releaseFromJob now workerId
        log := .released workerId :: system.log }

/-! ## Exclusiveness -/

/-- Both jobs were handed the worker, and it was released in between. -/
def ReleasedBetween (log : List Event) (first second : JobId) (workerId : WorkerId) : Prop :=
  ∃ newer middle older,
    log = newer ++ .handed second workerId :: (middle ++ .handed first workerId :: older) ∧
      .released workerId ∈ middle

/-- No two runs succeed with one worker unless it was released in between. -/
def Exclusive (system : Assignments) : Prop :=
  ∀ first ∈ system.runs, ∀ second ∈ system.runs, first.jobId ≠ second.jobId →
    ∀ workerId, first.Succeeded workerId → second.Succeeded workerId →
      ReleasedBetween system.log first.jobId second.jobId workerId ∨
        ReleasedBetween system.log second.jobId first.jobId workerId

/-- A worker that is busy with one job is not handed to another by this move. -/
def HandsOverFree (system : Assignments) : AssignMove → Prop
  | .call number env =>
      ∀ run, system.runs[number]? = some run → ∀ op, run.client.nextCall = some op →
        ∀ workerId, handedOver op (handle env op system.tables).1 = some workerId →
          ∀ jobId, system.busyWith workerId = some jobId → jobId = run.jobId
  | _ => True

/-- The run may select the worker: it is not busy with another job, and no other
run has selected it without having made it busy yet. -/
def FreeFor (system : Assignments) (jobId : JobId) (workerId : WorkerId) : Prop :=
  (∀ other ∈ system.busyWith workerId, other = jobId) ∧
    ∀ other ∈ system.runs, other.jobId ≠ jobId → ¬other.WaitsFor workerId

instance (system : Assignments) (jobId : JobId) (workerId : WorkerId) :
    Decidable (system.FreeFor jobId workerId) :=
  inferInstanceAs (Decidable (_ ∧ _))

/-- The worker that run `run` selects with its next call. -/
def selects (system : Assignments) (run : AssignRun) (env : Env) : Option WorkerId :=
  run.client.nextCall.bind fun op => selected op (handle env op system.tables).1

def SelectsFree (system : Assignments) : AssignMove → Prop
  | .call number env =>
      ∀ run ∈ system.runs[number]?, ∀ workerId ∈ system.selects run env,
        system.FreeFor run.jobId workerId
  | _ => True

instance (system : Assignments) : (move : AssignMove) → Decidable (system.SelectsFree move)
  | .call number env =>
      inferInstanceAs (Decidable (∀ run ∈ system.runs[number]?,
        ∀ workerId ∈ system.selects run env, system.FreeFor run.jobId workerId))
  | .release _ _ => .isTrue trivial
  | .releaseFromJob _ _ => .isTrue trivial

/-! ## What a call can do -/

/-- A reply that hands nothing over can at most make a selecting run select. -/
theorem remember_selecting (op : Op) (reply : Op.Reply op)
    (notHanded : handedOver op reply = none) :
    assignProtocol.remember .selecting op reply = .selecting ∨
      ∃ workerId, Phase.selecting = .selecting ∧ selected op reply = some workerId ∧
        assignProtocol.remember .selecting op reply = .holding workerId := by
  cases selection : selected op reply with
  | none =>
      left
      simp only [assignProtocol, notHanded, selection]
  | some workerId =>
      right
      exact ⟨workerId, rfl, rfl, by simp only [assignProtocol, notHanded, selection]⟩

/-- A call of a run leaves the workers alone, or makes busy the worker that the
run holds. -/
theorem call_cases (env : Env) {phase : Phase} {op : Op} (tables : Tables)
    (allowed : assignProtocol.allows phase op) :
    (handedOver op (handle env op tables).1 = none ∧
        (handle env op tables).2.workers = tables.workers ∧
        (assignProtocol.remember phase op (handle env op tables).1 = phase ∨
          ∃ workerId, phase = .selecting ∧
            selected op (handle env op tables).1 = some workerId ∧
            assignProtocol.remember phase op (handle env op tables).1 = .holding workerId)) ∨
      ∃ workerId, phase = .holding workerId ∧
        handedOver op (handle env op tables).1 = some workerId ∧
        assignProtocol.remember phase op (handle env op tables).1 = .taken workerId ∧
        (handle env op tables).2 = tables.updateWorkerState env.now workerId .busy := by
  simp only [assignProtocol] at allowed
  split at allowed
  case h_1 wanted =>
      exact .inl ⟨rfl, answer_workers env _ _ rfl, remember_selecting _ _ rfl⟩
  case h_2 filter =>
      exact .inl ⟨rfl, answer_workers env _ _ rfl, remember_selecting _ _ rfl⟩
  case h_3 held site jobId => exact .inl ⟨rfl, answer_workers env _ _ rfl, .inl rfl⟩
  case h_4 held site job => exact .inl ⟨rfl, answer_workers env _ _ rfl, .inl rfl⟩
  case h_5 held workerId state =>
      obtain ⟨rfl, rfl⟩ := allowed
      cases fault : env.fault .assignUpdateWorker with
      | none =>
          right
          refine ⟨workerId, rfl, ?_⟩
          simp only [handle, Env.answer, fault, assignProtocol, handedOver, and_self]
      | some error =>
          left
          simp only [handle, Env.answer, fault, assignProtocol, handedOver, selected, true_and,
            true_or]
  case h_6 held wanted => exact .inl ⟨rfl, answer_workers env _ _ rfl, .inl rfl⟩
  case h_7 => exact allowed.elim

/-- Only a registered worker is selected. -/
theorem find_of_selected {env : Env} {op : Op} {tables : Tables} {workerId : WorkerId}
    (chosen : selected op (handle env op tables).1 = some workerId) :
    ∃ worker, tables.workers.find workerId = some worker := by
  generalize answered : (handle env op tables).1 = reply at chosen
  unfold selected at chosen
  split at chosen
  case h_1 wanted worker =>
      split_ifs at chosen
      cases chosen
      exact ⟨worker, (answer_ok answered).symm⟩
  case h_2 filter workers =>
      obtain ⟨worker, first, rfl⟩ := Option.map_eq_some_iff.mp chosen
      have read := answer_ok answered
      refine ⟨worker, Table.find_of_mem ?_⟩
      have member : worker ∈ tables.findWorkers filter := by
        rw [← read]
        exact List.mem_of_mem_head? first
      exact Tables.mem_of_find_workers member
  case h_3 => cases chosen

/-! ## The log -/

/-- A worker is handed over only while no job has it. -/
def Alternates : List Event → Prop
  | [] => True
  | .handed _ workerId :: earlier => holder earlier workerId = none ∧ Alternates earlier
  | .released _ :: earlier => Alternates earlier

theorem handed_of_holder {log : List Event} {workerId : WorkerId} {jobId : JobId}
    (held : holder log workerId = some jobId) : .handed jobId workerId ∈ log := by
  induction log with
  | nil => cases held
  | cons event earlier ih =>
      cases event with
      | handed other given =>
          unfold holder at held
          split_ifs at held with same
          · cases held
            rw [same]
            exact List.mem_cons_self
          · exact List.mem_cons_of_mem _ (ih held)
      | released given =>
          unfold holder at held
          split_ifs at held
          exact List.mem_cons_of_mem _ (ih held)

/-- A worker that no job has, and that once was handed over, was released since. -/
theorem released_of_holder_none {newer older : List Event} {jobId : JobId} {workerId : WorkerId}
    (free : holder (newer ++ .handed jobId workerId :: older) workerId = none) :
    .released workerId ∈ newer := by
  induction newer with
  | nil =>
      rw [List.nil_append, holder, if_pos rfl] at free
      cases free
  | cons event newer ih =>
      rw [List.cons_append] at free
      cases event with
      | handed other given =>
          unfold holder at free
          split_ifs at free
          exact List.mem_cons_of_mem _ (ih free)
      | released given =>
          unfold holder at free
          split_ifs at free with same
          · rw [same]
            exact List.mem_cons_self
          · exact List.mem_cons_of_mem _ (ih free)

theorem alternates_of_append {newer older : List Event} (alternates : Alternates (newer ++ older)) :
    Alternates older := by
  induction newer with
  | nil => exact alternates
  | cons event newer ih =>
      cases event with
      | handed jobId workerId => exact ih alternates.2
      | released workerId => exact ih alternates

theorem released_between {log : List Event} {first second : JobId} {workerId : WorkerId}
    (alternates : Alternates log) (newer middle older : List Event)
    (split : log =
      newer ++ .handed second workerId :: (middle ++ .handed first workerId :: older)) :
    ReleasedBetween log first second workerId := by
  refine ⟨newer, middle, older, split, ?_⟩
  rw [split] at alternates
  exact released_of_holder_none (alternates_of_append alternates).1

/-- Of two jobs that were handed a worker one came first. -/
theorem released_between_of_mem {log : List Event} {first second : JobId} {workerId : WorkerId}
    (alternates : Alternates log) (different : first ≠ second)
    (firstHanded : .handed first workerId ∈ log) (secondHanded : .handed second workerId ∈ log) :
    ReleasedBetween log first second workerId ∨ ReleasedBetween log second first workerId := by
  obtain ⟨newer, older, split⟩ := List.append_of_mem firstHanded
  rw [split] at secondHanded
  rcases List.mem_append.mp secondHanded with later | earlier
  · obtain ⟨newest, middle, splitNewer⟩ := List.append_of_mem later
    left
    apply released_between alternates newest middle older
    rw [split, splitNewer, List.append_assoc]
    rfl
  · rcases List.mem_cons.mp earlier with same | earlier
    · cases same
      exact absurd rfl different
    · obtain ⟨middle, oldest, splitOlder⟩ := List.append_of_mem earlier
      right
      apply released_between alternates newer middle oldest
      rw [split, splitOlder]

/-! ## The invariant -/

structure Consistent (system : Assignments) : Prop where
  obeys : ∀ run ∈ system.runs, run.client.Obeys assignProtocol assignEnds
  different : (system.runs.map AssignRun.jobId).Nodup
  /-- No two runs wait for one worker. -/
  apart : ∀ first ∈ system.runs, ∀ second ∈ system.runs, first.jobId ≠ second.jobId →
    ∀ workerId, first.WaitsFor workerId → ¬second.WaitsFor workerId
  /-- The worker that a run waits for is registered, and not busy with another job. -/
  free : ∀ run ∈ system.runs, ∀ workerId, run.WaitsFor workerId →
    (∃ worker, system.tables.workers.find workerId = some worker) ∧
      ∀ jobId, system.busyWith workerId = some jobId → jobId = run.jobId
  handed : ∀ run ∈ system.runs, ∀ workerId,
    run.client.memory = .taken workerId ↔ .handed run.jobId workerId ∈ system.log
  /-- A worker that a job has is busy. -/
  busy : ∀ workerId jobId, holder system.log workerId = some jobId →
    ∀ worker, system.tables.workers.find workerId = some worker → worker.state = .busy
  alternates : Alternates system.log

theorem consistent_start {commands : List AssignWorkerCommand} (tables : Tables)
    (different : (commands.map AssignWorkerCommand.jobId).Nodup) :
    Consistent (start commands tables) := by
  have fresh : ∀ run ∈ (start commands tables).runs, run.client.memory = .selecting := by
    intro run member
    obtain ⟨command, -, rfl⟩ := List.mem_map.mp member
    rfl
  have waits : ∀ run ∈ (start commands tables).runs, ∀ workerId, ¬run.WaitsFor workerId := by
    intro run member workerId waiting
    have held := waiting.1
    rw [fresh run member] at held
    cases held
  constructor
  · intro run member
    obtain ⟨command, -, rfl⟩ := List.mem_map.mp member
    exact obeys_assign_worker_handler
  · unfold start
    rw [List.map_map]
    exact different
  · intro first member second _ _ workerId waiting
    exact absurd waiting (waits first member workerId)
  · intro run member workerId waiting
    exact absurd waiting (waits run member workerId)
  · intro run member workerId
    rw [fresh run member]
    apply iff_of_false
    · intro absurdity
      cases absurdity
    · intro absurdity
      cases absurdity
  · intro workerId jobId held
    cases held
  · trivial

theorem exclusive_of_consistent {system : Assignments} (consistent : Consistent system) :
    Exclusive system := by
  have handed : ∀ run ∈ system.runs, ∀ workerId, run.Succeeded workerId →
      .handed run.jobId workerId ∈ system.log := by
    intro run member workerId ⟨result, finished, succeeded, reported⟩
    have ends := consistent.obeys run member
    unfold Client.Obeys at ends
    rw [finished] at ends
    obtain ⟨taken, same, phase⟩ := ends result rfl succeeded
    rw [reported] at same
    cases same
    exact (consistent.handed run member workerId).mp phase
  intro first firstMember second secondMember different workerId firstDone secondDone
  exact released_between_of_mem consistent.alternates different
    (handed first firstMember workerId firstDone) (handed second secondMember workerId secondDone)

/-! ## Every move keeps the invariant -/

theorem busy_with_congr {system after : Assignments} {workerId : WorkerId}
    (sameWorker : after.tables.workers.find workerId = system.tables.workers.find workerId)
    (sameHolder : holder after.log workerId = holder system.log workerId) :
    after.busyWith workerId = system.busyWith workerId := by
  unfold busyWith
  rw [sameWorker, sameHolder]

section Step

variable {system after : Assignments} {number : Nat} {run : AssignRun}

theorem run_cases (consistent : Consistent system) (found : system.runs[number]? = some run)
    {moved : AssignRun} (runs : after.runs = system.runs.set number moved) (other : AssignRun)
    (held : other ∈ after.runs) :
    other = moved ∨ other ∈ system.runs ∧ other.jobId ≠ run.jobId := by
  rw [runs] at held
  exact mem_set_of_nodup consistent.different found held

theorem obeys_after (consistent : Consistent system) (found : system.runs[number]? = some run)
    {moved : AssignRun} (runs : after.runs = system.runs.set number moved)
    (obeys : moved.client.Obeys assignProtocol assignEnds) :
    ∀ other ∈ after.runs, other.client.Obeys assignProtocol assignEnds := by
  intro other held
  rcases run_cases consistent found runs other held with rfl | ⟨otherMember, -⟩
  · exact obeys
  · exact consistent.obeys other otherMember

theorem different_after (consistent : Consistent system)
    (found : system.runs[number]? = some run) {moved : AssignRun}
    (runs : after.runs = system.runs.set number moved) (sameJob : moved.jobId = run.jobId) :
    (after.runs.map AssignRun.jobId).Nodup := by
  rw [runs, map_set_same AssignRun.jobId found sameJob]
  exact consistent.different

/-- Runs stay apart if the one that moved is apart from every other. -/
theorem apart_after (consistent : Consistent system) (found : system.runs[number]? = some run)
    {moved : AssignRun} (runs : after.runs = system.runs.set number moved)
    (apart : ∀ other ∈ system.runs, other.jobId ≠ run.jobId → ∀ workerId,
      moved.WaitsFor workerId → ¬other.WaitsFor workerId) :
    ∀ first ∈ after.runs, ∀ second ∈ after.runs, first.jobId ≠ second.jobId →
      ∀ workerId, first.WaitsFor workerId → ¬second.WaitsFor workerId := by
  have split := run_cases consistent found runs
  intro first firstHeld second secondHeld different workerId firstWaits secondWaits
  rcases split first firstHeld with rfl | ⟨firstMember, firstOther⟩
  · rcases split second secondHeld with rfl | ⟨secondMember, secondOther⟩
    · exact different rfl
    · exact apart second secondMember secondOther workerId firstWaits secondWaits
  · rcases split second secondHeld with rfl | ⟨secondMember, -⟩
    · exact apart first firstMember firstOther workerId secondWaits firstWaits
    · exact consistent.apart first firstMember second secondMember different workerId firstWaits
        secondWaits

/-- A call that leaves the workers alone. The run goes on as it was, or has just
selected a free worker. -/
theorem consistent_quiet (consistent : Consistent system)
    (found : system.runs[number]? = some run) (moved : AssignRun)
    (sameJob : moved.jobId = run.jobId)
    (obeys : moved.client.Obeys assignProtocol assignEnds)
    (sameTaken : ∀ workerId,
      moved.client.memory = .taken workerId ↔ run.client.memory = .taken workerId)
    (waits : ∀ workerId, moved.WaitsFor workerId → run.WaitsFor workerId ∨
      (∃ worker, system.tables.workers.find workerId = some worker) ∧
        system.FreeFor run.jobId workerId)
    (runs : after.runs = system.runs.set number moved)
    (workers : after.tables.workers = system.tables.workers) (log : after.log = system.log) :
    Consistent after := by
  have member := List.mem_of_getElem? found
  have split := run_cases consistent found runs
  have sameBusy : ∀ workerId, after.busyWith workerId = system.busyWith workerId := by
    intro workerId
    exact busy_with_congr (by rw [workers]) (by rw [log])
  have apart : ∀ other ∈ system.runs, other.jobId ≠ run.jobId → ∀ workerId,
      moved.WaitsFor workerId → ¬other.WaitsFor workerId := by
    intro other otherMember different workerId waiting
    rcases waits workerId waiting with before | ⟨-, -, alone⟩
    · exact consistent.apart run member other otherMember (Ne.symm different) workerId before
    · exact alone other otherMember different
  constructor
  · exact obeys_after consistent found runs obeys
  · exact different_after consistent found runs sameJob
  · exact apart_after consistent found runs apart
  · intro other held workerId waiting
    rw [workers, sameBusy]
    rcases split other held with rfl | ⟨otherMember, -⟩
    · rw [sameJob]
      rcases waits workerId waiting with before | ⟨known, free, -⟩
      · exact consistent.free run member workerId before
      · exact ⟨known, free⟩
    · exact consistent.free other otherMember workerId waiting
  · intro other held workerId
    rw [log]
    rcases split other held with rfl | ⟨otherMember, -⟩
    · rw [sameJob, sameTaken]
      exact consistent.handed run member workerId
    · exact consistent.handed other otherMember workerId
  · intro workerId jobId held worker row
    rw [log] at held
    rw [workers] at row
    exact consistent.busy workerId jobId held worker row
  · rw [log]
    exact consistent.alternates

/-- The worker that a run waits for is in nobody's hands. -/
theorem holder_of_waits (consistent : Consistent system) (member : run ∈ system.runs)
    {workerId : WorkerId} (waiting : run.WaitsFor workerId) :
    holder system.log workerId = none := by
  cases held : holder system.log workerId with
  | none => rfl
  | some jobId =>
      obtain ⟨⟨worker, row⟩, free⟩ := consistent.free run member workerId waiting
      have busy : system.busyWith workerId = some jobId := by
        unfold busyWith
        rw [row]
        simp only
        rw [if_pos (consistent.busy workerId jobId held worker row), held, Option.some_or]
      have own := free jobId busy
      subst own
      have taken := (consistent.handed run member workerId).mpr (handed_of_holder held)
      rw [waiting.1] at taken
      cases taken

/-- The call that makes the selected worker busy. -/
theorem consistent_handed (consistent : Consistent system)
    (found : system.runs[number]? = some run) (moved : AssignRun)
    (sameJob : moved.jobId = run.jobId)
    (obeys : moved.client.Obeys assignProtocol assignEnds) (workerId : WorkerId)
    (waiting : run.WaitsFor workerId) (taken : moved.client.memory = .taken workerId)
    (now : DateTime) (runs : after.runs = system.runs.set number moved)
    (tables : after.tables = system.tables.updateWorkerState now workerId .busy)
    (log : after.log = .handed run.jobId workerId :: system.log) : Consistent after := by
  have member := List.mem_of_getElem? found
  have split := run_cases consistent found runs
  have movedWaits : ∀ wanted, ¬moved.WaitsFor wanted := by
    intro wanted held
    have phase := held.1
    rw [taken] at phase
    cases phase
  have row : ∀ wanted, wanted ≠ workerId →
      after.tables.workers.find wanted = system.tables.workers.find wanted := by
    intro wanted different
    rw [tables, Tables.find_worker_update_state, if_neg different]
  have holders : ∀ wanted, wanted ≠ workerId →
      holder after.log wanted = holder system.log wanted := by
    intro wanted different
    rw [log, holder, if_neg (Ne.symm different)]
  constructor
  · exact obeys_after consistent found runs obeys
  · exact different_after consistent found runs sameJob
  · apply apart_after consistent found runs
    intro other _ _ wanted waits
    exact absurd waits (movedWaits wanted)
  · intro other held wanted otherWaits
    rcases split other held with rfl | ⟨otherMember, otherJob⟩
    · exact absurd otherWaits (movedWaits wanted)
    · have different : wanted ≠ workerId := by
        rintro rfl
        exact consistent.apart run member other otherMember (Ne.symm otherJob) wanted waiting
          otherWaits
      rw [busy_with_congr (row wanted different) (holders wanted different), row wanted different]
      exact consistent.free other otherMember wanted otherWaits
  · intro other held wanted
    rw [log]
    rcases split other held with rfl | ⟨otherMember, otherJob⟩
    · rw [taken, sameJob]
      constructor
      · intro same
        cases same
        exact List.mem_cons_self
      · intro handed
        rcases List.mem_cons.mp handed with same | earlier
        · cases same
          rfl
        · have before := (consistent.handed run member wanted).mpr earlier
          rw [waiting.1] at before
          cases before
    · rw [consistent.handed other otherMember wanted]
      constructor
      · exact List.mem_cons_of_mem _
      · intro handed
        rcases List.mem_cons.mp handed with same | earlier
        · exact absurd (Event.handed.inj same).1 otherJob
        · exact earlier
  · intro wanted jobId held worker found
    by_cases own : wanted = workerId
    · rw [tables, Tables.find_worker_update_state, if_pos own] at found
      obtain ⟨old, -, rfl⟩ := Option.map_eq_some_iff.mp found
      rfl
    · rw [holders wanted own] at held
      rw [row wanted own] at found
      exact consistent.busy wanted jobId held worker found
  · rw [log]
    exact ⟨holder_of_waits consistent member waiting, consistent.alternates⟩

/-- A release by any statement that leaves the worker in a state other than busy. -/
theorem consistent_released (consistent : Consistent system) (workerId : WorkerId)
    (runs : after.runs = system.runs) (log : after.log = .released workerId :: system.log)
    (others : ∀ wanted, wanted ≠ workerId →
      after.tables.workers.find wanted = system.tables.workers.find wanted)
    (kept : ∀ worker, system.tables.workers.find workerId = some worker →
      ∃ released, after.tables.workers.find workerId = some released)
    (idle : ∀ worker, after.tables.workers.find workerId = some worker → worker.state ≠ .busy) :
    Consistent after := by
  have holders : ∀ wanted, wanted ≠ workerId →
      holder after.log wanted = holder system.log wanted := by
    intro wanted different
    rw [log, holder, if_neg (Ne.symm different)]
  constructor
  · rw [runs]
    exact consistent.obeys
  · rw [runs]
    exact consistent.different
  · rw [runs]
    exact consistent.apart
  · intro run member wanted waiting
    rw [runs] at member
    obtain ⟨⟨worker, row⟩, free⟩ := consistent.free run member wanted waiting
    by_cases own : wanted = workerId
    · subst own
      obtain ⟨released, found⟩ := kept worker row
      refine ⟨⟨released, found⟩, ?_⟩
      intro jobId busy
      unfold busyWith at busy
      rw [found] at busy
      simp only at busy
      rw [if_neg (idle released found)] at busy
      cases busy
    · rw [busy_with_congr (others wanted own) (holders wanted own), others wanted own]
      exact ⟨⟨worker, row⟩, free⟩
  · intro run member wanted
    rw [runs] at member
    rw [log, consistent.handed run member wanted]
    constructor
    · exact List.mem_cons_of_mem _
    · intro handed
      rcases List.mem_cons.mp handed with same | earlier
      · cases same
      · exact earlier
  · intro wanted jobId held worker found
    by_cases own : wanted = workerId
    · rw [log, holder, if_pos own.symm] at held
      cases held
    · rw [holders wanted own] at held
      rw [others wanted own] at found
      exact consistent.busy wanted jobId held worker found
  · rw [log]
    exact consistent.alternates

theorem consistent_call_run (consistent : Consistent system) (env : Env)
    (found : system.runs[number]? = some run)
    (free : ∀ workerId ∈ system.selects run env, system.FreeFor run.jobId workerId) :
    Consistent (system.callRun number run env) := by
  have member := List.mem_of_getElem? found
  let moved : AssignRun :=
    ⟨run.jobId, (run.client.advance assignProtocol (handle env) system.tables).1⟩
  have obeys : moved.client.Obeys assignProtocol assignEnds :=
    Client.obeys_advance (handle env) system.tables (consistent.obeys run member)
      fun _ _ => trivial
  have log : ∀ op, run.client.nextCall = some op → (system.callRun number run env).log =
      record system.log run.jobId (handedOver op (handle env op system.tables).1) := by
    intro op next
    simp only [callRun, next, Option.bind_some]
  cases next : run.client.nextCall with
  | none =>
      have same := Client.advance_finished assignProtocol (handle env) system.tables next
      have unmoved : moved = run := by simp only [moved, same]
      refine consistent_quiet consistent found moved rfl obeys ?_ ?_ rfl ?_ ?_
      · intro workerId
        rw [unmoved]
      · intro workerId waiting
        rw [unmoved] at waiting
        exact .inl waiting
      · simp only [callRun, same]
      · simp only [callRun, next, Option.bind_none, record]
  | some op =>
      have allowed := Client.allowed_of_obeys (consistent.obeys run member) next
      have memory := Client.advance_memory assignProtocol (handle env) system.tables next
      have world := Client.advance_world assignProtocol (handle env) system.tables next
      rcases call_cases env system.tables allowed with
        ⟨notHanded, workers, phases⟩ | ⟨workerId, phase, handed, taken, tables⟩
      · refine consistent_quiet consistent found moved rfl obeys ?_ ?_ rfl ?_ ?_
        · intro workerId
          rw [memory]
          rcases phases with kept | ⟨chosen, selecting, -, held⟩
          · rw [kept]
          · rw [held, selecting]
            exact iff_of_false Phase.noConfusion Phase.noConfusion
        · intro workerId waiting
          have held := waiting.1
          rw [memory] at held
          rcases phases with kept | ⟨chosen, selecting, selects, holds⟩
          · left
            rw [kept] at held
            exact ⟨held, by rw [next]; rfl⟩
          · right
            rw [holds] at held
            cases held
            refine ⟨find_of_selected selects, free workerId ?_⟩
            unfold Assignments.selects
            rw [next]
            exact selects
        · rw [← workers, ← world]
          rfl
        · rw [log op next, notHanded]
          rfl
      · refine consistent_handed consistent found moved rfl obeys workerId ?_ ?_ env.now rfl ?_ ?_
        · exact ⟨phase, by rw [next]; rfl⟩
        · exact memory.trans taken
        · exact world.trans tables
        · rw [log op next, handed]
          rfl

end Step

theorem consistent_step {system : Assignments} (move : AssignMove)
    (consistent : Consistent system) (free : system.SelectsFree move) :
    Consistent (system.step move) := by
  cases move with
  | call number env =>
      simp only [step]
      cases found : system.runs[number]? with
      | none => exact consistent
      | some run => exact consistent_call_run consistent env found (free run found)
  | release now workerId =>
      refine consistent_released consistent workerId (Eq.refl system.runs) (Eq.refl _) ?_ ?_ ?_
      · intro wanted different
        exact (Tables.find_worker_update_state _ _ _ _ _).trans (if_neg different)
      · intro worker row
        refine ⟨{ worker with state := .ready, updatedAt := now }, ?_⟩
        exact (Tables.find_worker_update_state _ _ _ _ _).trans (by rw [if_pos rfl, row]; rfl)
      · intro worker row
        have found := (Tables.find_worker_update_state _ _ _ _ _).symm.trans row
        rw [if_pos rfl] at found
        obtain ⟨old, -, rfl⟩ := Option.map_eq_some_iff.mp found
        exact WorkerState.noConfusion
  | releaseFromJob now workerId =>
      refine consistent_released consistent workerId (Eq.refl system.runs) (Eq.refl _) ?_ ?_ ?_
      · intro wanted different
        exact (Tables.find_worker_release_from_job _ _ _ _).trans (if_neg different)
      · intro worker row
        refine ⟨{ worker with currentJobId := none, state := .terminated, updatedAt := now }, ?_⟩
        exact (Tables.find_worker_release_from_job _ _ _ _).trans (by rw [if_pos rfl, row]; rfl)
      · intro worker row
        have found := (Tables.find_worker_release_from_job _ _ _ _).symm.trans row
        rw [if_pos rfl] at found
        obtain ⟨old, -, rfl⟩ := Option.map_eq_some_iff.mp found
        exact WorkerState.noConfusion

theorem hands_over_free_of_consistent {system : Assignments} (move : AssignMove)
    (consistent : Consistent system) : system.HandsOverFree move := by
  cases move with
  | release now workerId => trivial
  | releaseFromJob now workerId => trivial
  | call number env =>
      intro run found op next workerId handed jobId busy
      have member := List.mem_of_getElem? found
      have allowed := Client.allowed_of_obeys (consistent.obeys run member) next
      rcases call_cases env system.tables allowed with
        ⟨notHanded, -, -⟩ | ⟨given, phase, handing, -, -⟩
      · rw [notHanded] at handed
        cases handed
      · rw [handing] at handed
        cases handed
        have waiting : run.WaitsFor workerId := ⟨phase, by rw [next]; rfl⟩
        exact (consistent.free run member workerId waiting).2 jobId busy

/-- In every interleaving of runs for different jobs in which each run selects a
worker that is free for it, no worker is given to two jobs at once. -/
theorem assignments_exclusive (commands : List AssignWorkerCommand) (tables : Tables)
    (moves : List AssignMove) (different : (commands.map AssignWorkerCommand.jobId).Nodup)
    (free : EachMove step SelectsFree (start commands tables) moves) :
    Always step Exclusive (start commands tables) moves ∧
      EachMove step HandsOverFree (start commands tables) moves := by
  obtain ⟨always, hands⟩ := always_within step Consistent
    (fun _ move consistent free => consistent_step move consistent free)
    (fun _ move consistent _ => hands_over_free_of_consistent move consistent)
    moves (start commands tables) (consistent_start tables different) free
  exact ⟨always_imp step (fun _ => exclusive_of_consistent) moves _ always, hands⟩

/-! ## Two jobs and one worker -/

def otherJob : Job := { sampleJob .pending with id := ⟨5⟩ }

def sharedTables : Tables where
  jobs := ⟨[sampleJob .pending, otherJob], by decide⟩
  jobQueue := [⟨1⟩, ⟨5⟩]
  workers := ⟨[sampleWorker none], List.nodup_singleton _⟩

def sharedCommands : List AssignWorkerCommand := [⟨⟨1⟩, some ⟨2⟩⟩, ⟨⟨5⟩, some ⟨2⟩⟩]

def wholeRun (number : Nat) : List AssignMove := List.replicate 5 (.call number quietEnv)

def succeededRun (jobId : JobId) : AssignRun :=
  ⟨jobId, .taken ⟨2⟩, .done (.ok ⟨true, some ⟨2⟩, some .busy, none⟩)⟩

/-- A worker that was released in between is handed to both jobs. -/
theorem released_worker_is_exclusive :
    ((wholeRun 0 ++ .release 7 ⟨2⟩ :: wholeRun 1).foldl step
        (start sharedCommands sharedTables)).runs = [succeededRun ⟨1⟩, succeededRun ⟨5⟩] ∧
      Always step Exclusive (start sharedCommands sharedTables)
        (wholeRun 0 ++ .release 7 ⟨2⟩ :: wholeRun 1) ∧
      EachMove step HandsOverFree (start sharedCommands sharedTables)
        (wholeRun 0 ++ .release 7 ⟨2⟩ :: wholeRun 1) :=
  ⟨rfl, assignments_exclusive sharedCommands sharedTables
    (wholeRun 0 ++ .release 7 ⟨2⟩ :: wholeRun 1) (by decide) (by decide)⟩

/-- The worker of a finished run is given to the next job that asks for it. -/
theorem busy_worker_is_handed_again :
    ¬∀ (commands : List AssignWorkerCommand) (tables : Tables) (moves : List AssignMove),
      (commands.map AssignWorkerCommand.jobId).Nodup →
        Always step Exclusive (start commands tables) moves ∧
          EachMove step HandsOverFree (start commands tables) moves := by
  intro claim
  obtain ⟨always, -⟩ := claim sharedCommands sharedTables (wholeRun 0 ++ wholeRun 1) (by decide)
  have exclusive := always_final step _ _ always
  have runs : ((wholeRun 0 ++ wholeRun 1).foldl step (start sharedCommands sharedTables)).runs =
      [succeededRun ⟨1⟩, succeededRun ⟨5⟩] := rfl
  have log : ((wholeRun 0 ++ wholeRun 1).foldl step (start sharedCommands sharedTables)).log =
      [.handed ⟨5⟩ ⟨2⟩, .handed ⟨1⟩ ⟨2⟩] := rfl
  unfold Exclusive ReleasedBetween at exclusive
  rw [runs, log] at exclusive
  have succeeded : ∀ jobId, (succeededRun jobId).Succeeded ⟨2⟩ := fun _ => ⟨_, rfl, rfl, rfl⟩
  rcases exclusive (succeededRun ⟨1⟩) (by simp) (succeededRun ⟨5⟩) (by simp) (by decide) ⟨2⟩
    (succeeded _) (succeeded _) with ⟨newer, middle, older, split, released⟩ |
      ⟨newer, middle, older, split, released⟩
  all_goals
    have recorded : Event.released ⟨2⟩ ∈ [Event.handed ⟨5⟩ ⟨2⟩, Event.handed ⟨1⟩ ⟨2⟩] := by
      rw [split]
      simp [released]
    revert recorded
    decide

end Assignments

end HodeiJobs.Execution
