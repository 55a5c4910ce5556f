import HodeiJobs.WorkerAgent.Results

/-!
# The registry of running jobs

`running_jobs` against the tasks that really run. The loop registers a handle
after the task was spawned, the task removes the entry of its job id when the job
has returned, and a cancellation removes and aborts what it finds. The registry
decides whether the agent is busy, and the idle timer starts again only when a
result is forwarded. Whatever the registry says, an idle worker that terminates
itself when its timer runs out never gets beyond the tick.
-/

namespace HodeiJobs.WorkerAgent

open HodeiJobs.Library

namespace Agent

/-! ## The law and the condition -/

/-- The task was spawned for the job, and has neither finished nor been aborted. -/
def Runs (agent : Agent) (handle : Nat) (jobId : String) : Prop :=
  agent.tasks[handle]? = some ⟨jobId, .running⟩

/-- Outside the handling of `RunJob` the registry names exactly the running jobs. -/
def RegistryExact (agent : Agent) : Prop :=
  (∀ jobId handle, agent.loop ≠ .registering jobId handle) →
    ∀ jobId, (agent.runningJobs.find jobId).isSome = true ↔ ∃ handle, agent.Runs handle jobId

/-- Auto-termination does not fire while a job runs. -/
def FiresIdle (agent : Agent) (move : AgentMove) : Prop :=
  agent.loop ≠ .terminating → (agent.step move).loop = .terminating →
    ∀ handle jobId, ¬agent.Runs handle jobId

/-- A cancellation aborts the task that runs for the job. -/
def CancelReaches (agent : Agent) (move : AgentMove) : Prop :=
  ∀ jobId, move = .cancel jobId → agent.loop = .waiting → ∀ handle, agent.Runs handle jobId →
    (agent.step move).tasks[handle]? = some ⟨jobId, .aborted⟩

/-- No job runs, and the result of every finished one has been handed over. -/
def AllHandedOver (agent : Agent) : Prop :=
  (∀ task ∈ agent.tasks, ¬task.Live) ∧
    ∀ handle jobId result, agent.tasks[handle]? = some ⟨jobId, .queued result⟩ →
      (handle, result) ∈ agent.delivered

/-- If auto-termination is enabled, some later events terminate the agent. -/
def MayTerminate (agent : Agent) : Prop :=
  agent.autoTerminate.enabled = true →
    ∃ later : List AgentMove, (later.foldl step agent).loop = .terminated

def IdleWhenDone (agent : Agent) : Prop :=
  agent.AllHandedOver → agent.autoTerminate.idleSince ≠ none ∧ agent.runningJobs.rows = []

/-- A worker without work can be terminated by a later tick. -/
def TerminableWhenDone (agent : Agent) : Prop := agent.AllHandedOver → agent.MayTerminate

/-- A job that still runs, or a result that is still to be forwarded. -/
def Outstanding (agent : Agent) : Prop :=
  (∃ task ∈ agent.tasks, task.Live) ∨ agent.resultChannel ≠ []

instance (agent : Agent) : Decidable agent.Outstanding := inferInstanceAs (Decidable (_ ∨ _))

/-- A job id is not started again while it runs; a task does not return before its
handle is registered; a cancellation that aborts a task, and the delivery of pending
results, leave another job outstanding or find the idle timer running. -/
def RegistersInTurn (agent : Agent) : AgentMove → Prop
  | .runJob jobId =>
      agent.loop = .waiting → ∀ task ∈ agent.tasks, task.jobId = jobId → task.phase ≠ .running
  | .taskReturns handle _ =>
      ∀ task ∈ agent.tasks[handle]?, agent.loop ≠ .registering task.jobId handle
  | .cancel jobId =>
      agent.loop = .waiting → ∀ entry ∈ agent.runningJobs.find jobId,
        agent.autoTerminate.idleSince ≠ none ∨
          (∃ task ∈ agent.tasks.eraseIdx entry.handle, task.Live) ∨ agent.resultChannel ≠ []
  | .reconnect _ =>
      agent.loop = .disconnected → agent.pendingResults ≠ [] →
        agent.autoTerminate.idleSince ≠ none ∨ agent.Outstanding
  | _ => True

instance (agent : Agent) : ∀ move, Decidable (agent.RegistersInTurn move)
  | .runJob _ | .taskReturns _ _ | .cancel _ | .reconnect _ => by
      unfold RegistersInTurn
      infer_instance
  | .registerHandle | .forwardResult _ _ | .tick _ | .terminate | .heartbeat _ | .streamEnds
  | .taskQueues _ =>
      .isTrue trivial

/-! ## The registry and the tasks -/

/-- The entries are the running tasks, save the one whose handle is not registered yet,
and no job runs twice. -/
structure Registered (agent : Agent) : Prop where
  entry : ∀ jobId entry, agent.runningJobs.find jobId = some entry ↔
    entry.jobId = jobId ∧ agent.Runs entry.handle jobId ∧
      agent.loop ≠ .registering jobId entry.handle
  single : ∀ jobId first second, agent.Runs first jobId → agent.Runs second jobId → first = second
  spawned : ∀ jobId handle, agent.loop = .registering jobId handle → agent.Runs handle jobId

section Registered

variable {agent after : Agent}

/-- An event that changes neither the registry nor which tasks run. -/
theorem registered_congr (registered : Registered agent)
    (jobs : after.runningJobs = agent.runningJobs)
    (runs : ∀ handle jobId, after.Runs handle jobId ↔ agent.Runs handle jobId)
    (loop : ∀ jobId handle, after.loop = .registering jobId handle ↔
      agent.loop = .registering jobId handle) : Registered after := by
  constructor
  · intro jobId entry
    rw [jobs, registered.entry, runs, Ne, Ne, loop]
  · intro jobId first second firstRuns secondRuns
    exact registered.single jobId first second ((runs _ _).mp firstRuns) ((runs _ _).mp secondRuns)
  · intro jobId handle place
    exact (runs _ _).mpr (registered.spawned jobId handle ((loop _ _).mp place))

/-- A task stops running, and the entry of its job is removed. -/
theorem registered_removed (registered : Registered agent) {handle : Nat} {jobId : String}
    (running : agent.Runs handle jobId)
    (idle : ∀ name other, agent.loop = .registering name other → other ≠ handle)
    (jobs : after.runningJobs = agent.runningJobs.delete jobId) (loop : after.loop = agent.loop)
    (runs : ∀ other name, after.Runs other name ↔ agent.Runs other name ∧ other ≠ handle) :
    Registered after := by
  have owner : ∀ name, agent.Runs handle name → name = jobId := by
    intro name named
    unfold Runs at named running
    rw [running] at named
    cases named
    rfl
  constructor
  · intro name entry
    rw [jobs, Table.find_delete, runs, loop]
    split_ifs with own
    · subst own
      apply iff_of_false
      · intro absurdity
        cases absurdity
      · rintro ⟨-, ⟨others, different⟩, -⟩
        exact different (registered.single name entry.handle handle others running)
    · rw [registered.entry]
      constructor
      · rintro ⟨named, others, place⟩
        refine ⟨named, ⟨others, ?_⟩, place⟩
        rintro same
        rw [same] at others
        exact own (owner name others)
      · rintro ⟨named, ⟨others, -⟩, place⟩
        exact ⟨named, others, place⟩
  · intro name first second firstRuns secondRuns
    exact registered.single name first second ((runs _ _).mp firstRuns).1
      ((runs _ _).mp secondRuns).1
  · intro name other place
    rw [loop] at place
    exact (runs _ _).mpr ⟨registered.spawned name other place, idle name other place⟩

theorem runs_spawn {handle : Nat} {jobId name : String} :
    (agent.spawnJob jobId).Runs handle name ↔
      agent.Runs handle name ∨ handle = agent.tasks.length ∧ name = jobId := by
  unfold Runs spawnJob
  rw [List.getElem?_append]
  split_ifs with old
  · constructor
    · exact .inl
    · rintro (runs | ⟨rfl, -⟩)
      · exact runs
      · exact absurd old (Nat.lt_irrefl _)
  · have missing : agent.tasks[handle]? = none := List.getElem?_eq_none (Nat.le_of_not_lt old)
    rw [missing, List.getElem?_singleton]
    constructor
    · intro found
      split_ifs at found with last
      cases found
      exact .inr ⟨by omega, rfl⟩
    · rintro (absurdity | ⟨rfl, rfl⟩)
      · cases absurdity
      · rw [if_pos (Nat.sub_self _)]

theorem registered_spawn (registered : Registered agent) {jobId : String}
    (place : agent.loop = .waiting) (fresh : ∀ handle, ¬agent.Runs handle jobId) :
    Registered (agent.spawnJob jobId) := by
  have older : ∀ handle name, agent.Runs handle name → handle ≠ agent.tasks.length := by
    intro handle name runs
    obtain ⟨bound, -⟩ := List.getElem?_eq_some_iff.mp runs
    exact Nat.ne_of_lt bound
  constructor
  · intro name entry
    rw [runs_spawn]
    refine (registered.entry name entry).trans ?_
    constructor
    · rintro ⟨named, runs, -⟩
      refine ⟨named, .inl runs, ?_⟩
      intro same
      injection same with _ same
      exact older entry.handle name runs same.symm
    · rintro ⟨named, runs | ⟨last, rfl⟩, notLast⟩
      · exact ⟨named, runs, by rw [place]; exact LoopState.noConfusion⟩
      · exact absurd (by rw [last]; rfl) notLast
  · intro name first second firstRuns secondRuns
    rcases runs_spawn.mp firstRuns with firstOld | ⟨firstLast, rfl⟩
    · rcases runs_spawn.mp secondRuns with secondOld | ⟨-, rfl⟩
      · exact registered.single name first second firstOld secondOld
      · exact absurd firstOld (fresh first)
    · rcases runs_spawn.mp secondRuns with secondOld | ⟨secondLast, -⟩
      · exact absurd secondOld (fresh second)
      · rw [firstLast, secondLast]
  · intro name handle same
    injection same with sameName sameHandle
    exact runs_spawn.mpr (.inr ⟨sameHandle.symm, sameName.symm⟩)

theorem registered_register (registered : Registered agent) {jobId : String} {handle : Nat}
    (place : agent.loop = .registering jobId handle) :
    Registered { agent with
      loop := .waiting
      runningJobs := agent.runningJobs.upsert ⟨jobId, handle⟩ } := by
  have running := registered.spawned jobId handle place
  refine ⟨?_, registered.single, ?_⟩
  · intro name entry
    by_cases own : name = jobId
    · subst own
      have found := Table.find_upsert_self agent.runningJobs ⟨name, handle⟩
      refine (Eq.congr_left found).trans ?_
      constructor
      · rintro ⟨rfl⟩
        exact ⟨rfl, running, LoopState.noConfusion⟩
      · rintro ⟨named, runs, -⟩
        have same := registered.single name handle entry.handle running runs
        rw [same, ← named]
    · have found := Table.find_upsert_other agent.runningJobs ⟨jobId, handle⟩ (Ne.symm own)
      refine (Eq.congr_left found).trans ?_
      rw [registered.entry]
      constructor
      · rintro ⟨named, runs, -⟩
        exact ⟨named, runs, LoopState.noConfusion⟩
      · rintro ⟨named, runs, -⟩
        refine ⟨named, runs, ?_⟩
        rw [place]
        rintro ⟨rfl, -⟩
        exact own rfl
  · intro name other same
    cases same

/-- A task that is replaced by one that does not run. -/
theorem runs_of_replaced (task : Task) {handle : Nat} {tasks : List Task}
    (stopped : task.phase ≠ .running) (replaced : tasks[handle]? = some task)
    (others : ∀ other, other ≠ handle → tasks[other]? = agent.tasks[other]?)
    (same : after.tasks = tasks) (other : Nat) (name : String) :
    after.Runs other name ↔ agent.Runs other name ∧ other ≠ handle := by
  unfold Runs
  rw [same]
  by_cases own : other = handle
  · subst own
    rw [replaced]
    apply iff_of_false
    · rintro ⟨rfl⟩
      exact stopped rfl
    · rintro ⟨-, different⟩
      exact different rfl
  · rw [others other own]
    exact (and_iff_left own).symm

theorem registered_effect {move : AgentMove} (effect : Effect agent move after)
    (registered : Registered agent) (inTurn : agent.RegistersInTurn move) : Registered after := by
  have elsewhere : ∀ {other : LoopState}, agent.loop = other →
      (∀ name handle, other ≠ .registering name handle) → ∀ {last : LoopState},
        (∀ name handle, last ≠ .registering name handle) → ∀ name handle,
          last = .registering name handle ↔ agent.loop = .registering name handle := by
    rintro other rfl notBefore last notAfter name handle
    exact iff_of_false (notAfter name handle) (notBefore name handle)
  cases effect with
  | nothing => exact registered
  | reconnects sent place =>
      exact registered_congr registered rfl (fun _ _ => Iff.rfl)
        (elsewhere place (fun _ _ => LoopState.noConfusion) fun _ _ => LoopState.noConfusion)
  | spawns jobId place =>
      apply registered_spawn registered place
      intro handle runs
      exact inTurn place _ (List.mem_of_getElem? runs) rfl rfl
  | registers jobId handle place => exact registered_register registered place
  | cancels jobId entry place found =>
      obtain ⟨named, running, -⟩ := (registered.entry jobId entry).mp found
      apply registered_removed registered running
      · intro name other registering
        rw [place] at registering
        cases registering
      · rfl
      · rfl
      · refine runs_of_replaced ⟨jobId, .aborted⟩ TaskPhase.noConfusion ?_ ?_ rfl
        · rw [getElem_modify_abort_self, running]
          rfl
        · intro other different
          exact getElem_modify_abort_other (Ne.symm different)
  | delivers now result rest place first =>
      exact registered_congr registered rfl (fun _ _ => Iff.rfl) fun _ _ => Iff.rfl
  | postpones now result rest place first =>
      exact registered_congr registered rfl (fun _ _ => Iff.rfl)
        (elsewhere place (fun _ _ => LoopState.noConfusion) fun _ _ => LoopState.noConfusion)
  | fires _ place | terminates place | disconnects _ place =>
      exact registered_congr registered rfl (fun _ _ => Iff.rfl)
        (elsewhere place (fun _ _ => LoopState.noConfusion) fun _ _ => LoopState.noConfusion)
  | finishes handle outcome jobId running =>
      obtain ⟨bound, -⟩ := List.getElem?_eq_some_iff.mp running
      apply registered_removed registered running
      · rintro name other registering rfl
        have spawned := registered.spawned name other registering
        unfold Runs at spawned
        rw [running] at spawned
        cases spawned
        exact inTurn _ running registering
      · rfl
      · rfl
      · refine runs_of_replaced ⟨jobId, .finishing (reportedResult jobId outcome)⟩
          TaskPhase.noConfusion ?_ ?_ rfl
        · rw [List.getElem?_set_self bound]
        · intro other different
          rw [List.getElem?_set_ne (Ne.symm different)]
  | queues handle jobId result found =>
      refine registered_congr registered rfl ?_ fun _ _ => Iff.rfl
      intro other name
      obtain ⟨bound, -⟩ := List.getElem?_eq_some_iff.mp found
      unfold Runs
      by_cases own : handle = other
      · subst own
        rw [List.getElem?_set_self bound, found]
        exact iff_of_false (by rintro ⟨⟩) (by rintro ⟨⟩)
      · rw [List.getElem?_set_ne own]

end Registered

/-! ## The idle timer -/

/-- While the idle timer is not set, something is still to set it. -/
def TimerOwed (agent : Agent) : Prop :=
  agent.autoTerminate.idleSince = none → agent.Outstanding ∨ agent.pendingResults ≠ []

section TimerOwed

variable {agent after : Agent}

theorem timer_owed_of_live {handle : Nat} {task : Task} (found : agent.tasks[handle]? = some task)
    (live : task.Live) : agent.TimerOwed :=
  fun _ => .inl (.inl ⟨task, List.mem_of_getElem? found, live⟩)

theorem timer_owed_effect {move : AgentMove} (effect : Effect agent move after)
    (owed : agent.TimerOwed) (inTurn : agent.RegistersInTurn move) : after.TimerOwed := by
  cases effect with
  | nothing => exact owed
  | reconnects sent place =>
      intro notIdle
      refine .inl ?_
      by_cases pending : agent.pendingResults = []
      · exact (owed notIdle).resolve_right fun some => some pending
      · exact (inTurn place pending).resolve_left fun idle => idle notIdle
  | spawns jobId place =>
      apply timer_owed_of_live
      · exact List.getElem?_concat_length
      · exact trivial
  | registers jobId handle place => exact owed
  | cancels jobId entry place found =>
      intro notIdle
      rcases inTurn place entry found with idle | ⟨task, member, live⟩ | channel
      · exact absurd notIdle idle
      · refine .inl (.inl ⟨task, ?_, live⟩)
        obtain ⟨other, different, same⟩ := List.mem_eraseIdx_iff_getElem?.mp member
        apply List.mem_of_getElem?
        exact (getElem_modify_abort_other (Ne.symm different)).trans same
      · exact .inl (.inr channel)
  | delivers now result rest place first =>
      intro notIdle
      cases notIdle
  | postpones now result rest place first =>
      intro notIdle
      exact .inr (List.append_ne_nil_of_right_ne_nil _ (List.cons_ne_nil _ _))
  | fires | terminates | disconnects => exact owed
  | finishes handle outcome jobId running =>
      obtain ⟨bound, -⟩ := List.getElem?_eq_some_iff.mp running
      exact timer_owed_of_live (List.getElem?_set_self bound) trivial
  | queues handle jobId result found =>
      intro notIdle
      exact .inl (.inr (List.append_ne_nil_of_right_ne_nil _ (List.cons_ne_nil _ _)))

end TimerOwed

/-! ## Whole runs -/

structure Tracked (agent : Agent) : Prop where
  registered : Registered agent
  accounted : Accounted agent
  owed : agent.TimerOwed

theorem tracked_start (cleanupTimeoutMs : Nat) (now : Instant) :
    Tracked (start cleanupTimeoutMs now) := by
  have idle : ∀ handle jobId, ¬(start cleanupTimeoutMs now).Runs handle jobId := by
    intro handle jobId runs
    cases runs
  refine ⟨⟨?_, ?_, ?_⟩, accounted_start cleanupTimeoutMs now, ?_⟩
  · intro jobId entry
    apply iff_of_false
    · intro found
      cases found
    · rintro ⟨-, runs, -⟩
      exact idle _ _ runs
  · intro jobId first second runs
    exact absurd runs (idle first jobId)
  · intro jobId handle place
    cases place
  · intro notIdle
    cases notIdle

section Tracked

variable {agent : Agent}

theorem tracked_step {move : AgentMove} (tracked : Tracked agent)
    (inTurn : agent.RegistersInTurn move) : Tracked (agent.step move) where
  registered := registered_effect (effect_of_step agent move) tracked.registered inTurn
  accounted := accounted_effect (effect_of_step agent move) tracked.accounted
  owed := timer_owed_effect (effect_of_step agent move) tracked.owed inTurn

theorem find_of_runs (registered : Registered agent) {handle : Nat} {jobId : String}
    (runs : agent.Runs handle jobId) (settled : agent.loop ≠ .registering jobId handle) :
    agent.runningJobs.find jobId = some ⟨jobId, handle⟩ :=
  (registered.entry jobId ⟨jobId, handle⟩).mpr ⟨rfl, runs, settled⟩

theorem registry_exact (registered : Registered agent) : agent.RegistryExact := by
  intro settled jobId
  constructor
  · intro found
    obtain ⟨entry, same⟩ := Option.isSome_iff_exists.mp found
    exact ⟨entry.handle, ((registered.entry jobId entry).mp same).2.1⟩
  · rintro ⟨handle, runs⟩
    rw [find_of_runs registered runs (settled jobId handle)]
    rfl

theorem fires_idle (registered : Registered agent) (move : AgentMove) :
    agent.FiresIdle move := by
  intro running fired handle jobId runs
  obtain ⟨place, notBusy, -⟩ := fires_waiting running fired
  have found := find_of_runs registered runs (by rw [place]; exact LoopState.noConfusion)
  rw [(Table.rows_eq_nil_iff agent.runningJobs).mp notBusy jobId] at found
  cases found

theorem cancel_reaches (registered : Registered agent) (move : AgentMove) :
    agent.CancelReaches move := by
  rintro jobId rfl place handle runs
  have found := find_of_runs registered runs (by rw [place]; exact LoopState.noConfusion)
  have cancelled : agent.step (.cancel jobId) = agent.cancelJob jobId := by
    unfold step
    rw [place]
  rw [cancelled]
  unfold cancelJob
  rw [found]
  refine (getElem_modify_abort_self agent.tasks handle).trans ?_
  unfold Runs at runs
  rw [runs]
  rfl

/-- What is handed over waits neither in the channel nor among the pending results. -/
theorem nothing_outstanding (accounted : Accounted agent) (done : agent.AllHandedOver) :
    ¬agent.Outstanding ∧ agent.pendingResults = [] := by
  have once := accounted.once
  unfold results at once
  obtain ⟨-, -, apart⟩ := List.nodup_append.mp once
  have handedOver : ∀ result ∈ agent.resultChannel ++ agent.pendingResults, False := by
    intro result member
    obtain ⟨jobId, queued⟩ := accounted.queued result (List.mem_append_left _ member)
    exact apart result member result (done.2 result.1 jobId result.2 queued) rfl
  constructor
  · rintro (⟨task, member, live⟩ | channel)
    · exact done.1 task member live
    · obtain ⟨result, member⟩ := List.exists_mem_of_ne_nil _ channel
      exact handedOver result (List.mem_append_left _ member)
  · apply List.eq_nil_iff_forall_not_mem.mpr
    intro result member
    exact handedOver result (List.mem_append_right _ member)

theorem idle_when_done (tracked : Tracked agent) : agent.IdleWhenDone := by
  intro done
  obtain ⟨nothing, noPending⟩ := nothing_outstanding tracked.accounted done
  have idle : agent.autoTerminate.idleSince ≠ none := by
    intro notIdle
    rcases tracked.owed notIdle with outstanding | pending
    · exact nothing outstanding
    · exact pending noPending
  have empty : agent.runningJobs.rows = [] := by
    apply (Table.rows_eq_nil_iff agent.runningJobs).mpr
    intro jobId
    cases found : agent.runningJobs.find jobId with
    | none => rfl
    | some entry =>
        obtain ⟨-, runs, -⟩ := (tracked.registered.entry jobId entry).mp found
        exact absurd trivial (done.1 _ (List.mem_of_getElem? runs))
  exact ⟨idle, empty⟩

end Tracked

theorem enabled_step (agent : Agent) (move : AgentMove) :
    (agent.step move).autoTerminate.enabled = agent.autoTerminate.enabled := by
  have effect := effect_of_step agent move
  generalize agent.step move = after at effect ⊢
  cases effect <;> rfl

/-- The new worker is without work already, so it is to be terminable. -/
theorem always_terminable_iff (cleanupTimeoutMs : Nat) (now : Instant) (moves : List AgentMove) :
    Always step TerminableWhenDone (start cleanupTimeoutMs now) moves ↔ cleanupTimeoutMs = 0 := by
  constructor
  · intro always
    by_contra enabled
    have enables : (start cleanupTimeoutMs now).autoTerminate.enabled = true :=
      decide_eq_true (Nat.pos_of_ne_zero enabled)
    obtain ⟨later, ended⟩ := always_head step always ⟨nofun, nofun⟩ enables
    exact never_terminates later _ (locked_in_body_start cleanupTimeoutMs now) ended
  · rintro rfl
    have stays : ∀ (agent : Agent) (move : AgentMove), agent.autoTerminate.enabled = false → True →
        (agent.step move).autoTerminate.enabled = false := by
      intro agent move disabled _
      rw [enabled_step, disabled]
    obtain ⟨always, -⟩ := always_within step (fun agent => agent.autoTerminate.enabled = false)
      stays (fun _ _ _ => id) moves (start 0 now) rfl
      (each_move_of_forall step (fun _ _ => trivial) moves _)
    apply always_imp step _ moves _ always
    intro agent disabled _ enabled
    rw [disabled] at enabled
    cases enabled

/-- In every run in which no job id is started twice at once, no task returns before its
handle is registered, and neither a cancellation nor a late delivery settles the last
outstanding job, the registry names the running jobs. So auto-termination never fires while
a job runs, a cancellation reaches its task, and a worker without work is idle. But in no
run can a later tick terminate it, unless it is not to be terminated. -/
theorem registry_follows_the_tasks (cleanupTimeoutMs : Nat) (now : Instant)
    (moves : List AgentMove) :
    (EachMove step RegistersInTurn (start cleanupTimeoutMs now) moves →
      Always step RegistryExact (start cleanupTimeoutMs now) moves ∧
      EachMove step FiresIdle (start cleanupTimeoutMs now) moves ∧
      EachMove step CancelReaches (start cleanupTimeoutMs now) moves ∧
      Always step IdleWhenDone (start cleanupTimeoutMs now) moves) ∧
    (Always step TerminableWhenDone (start cleanupTimeoutMs now) moves ↔
      cleanupTimeoutMs = 0) := by
  refine ⟨?_, always_terminable_iff cleanupTimeoutMs now moves⟩
  intro inTurn
  have keeps : ∀ agent move, Tracked agent → agent.RegistersInTurn move →
      Tracked (agent.step move) := fun _ _ => tracked_step
  have initial := tracked_start cleanupTimeoutMs now
  obtain ⟨always, ends⟩ := always_within step Tracked keeps
    (fun _ move tracked _ => fires_idle tracked.registered move) moves _ initial inTurn
  obtain ⟨-, reaches⟩ := always_within step Tracked keeps
    (fun _ move tracked _ => cancel_reaches tracked.registered move) moves _ initial inTurn
  refine ⟨?_, ends, reaches, ?_⟩
  · exact always_imp step (fun _ tracked => registry_exact tracked.registered) moves _ always
  · exact always_imp step (fun _ tracked => idle_when_done tracked) moves _ always

/-! ## Runs that break the law -/

/-- One job is cancelled while another one runs, and then the worker is idle again. -/
def cancelling : List AgentMove :=
  [.reconnect fun _ => true, .runJob "a", .registerHandle] ++ oneJob "b" 1 ++
    [.cancel "a", .forwardResult true 1, .tick 5000001, .terminate]

theorem cancelling_follows_the_tasks :
    Always step RegistryExact (start 5 0) cancelling ∧
      EachMove step FiresIdle (start 5 0) cancelling ∧
      EachMove step CancelReaches (start 5 0) cancelling ∧
      Always step IdleWhenDone (start 5 0) cancelling :=
  (registry_follows_the_tasks 5 0 cancelling).1 (by decide)

/-- The loop waits for itself in the tick that is to terminate the worker, whatever
happens afterwards. -/
theorem idle_worker_hangs :
    ([.reconnect fun _ => true, .tick 5000000].foldl step (start 5 0)).loop = .terminating ∧
      ¬Always step TerminableWhenDone (start 5 0) [.reconnect fun _ => true, .tick 5000000] := by
  refine ⟨by decide, ?_⟩
  intro always
  obtain ⟨later, ended⟩ := always_head step always ⟨nofun, nofun⟩ rfl
  exact never_terminates later (start 5 0) (locked_in_body_start 5 0) ended

/-- The first of two tasks for one job removes the entry of the second. -/
theorem repeated_job_is_forgotten :
    ¬Always step RegistryExact (start 5 0) [.reconnect fun _ => true, .runJob "a",
      .registerHandle, .runJob "a", .registerHandle, .taskReturns 0 (.ok 0)] := by
  intro always
  have registry := always_final step _ _ always (fun _ _ => LoopState.noConfusion) "a"
  have forgotten := registry.mpr ⟨1, rfl⟩
  revert forgotten
  decide

end Agent

end HodeiJobs.WorkerAgent
