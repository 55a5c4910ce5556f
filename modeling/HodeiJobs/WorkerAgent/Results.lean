import HodeiJobs.WorkerAgent.MainLoop
import Mathlib.Data.List.Perm.Subperm

/-!
# The delivery of results

Every result that a job task has queued is in the result channel, among the
pending results, or handed over, as long as no send fails while the pending
results are delivered: they are drained whatever becomes of them. The loop never
leaves a result behind by auto-termination, because it never ends that way.
-/

namespace HodeiJobs.WorkerAgent

open HodeiJobs.Library

namespace Agent

/-! ## The law and the condition -/

/-- Every queued result is somewhere. -/
def ResultsKept (agent : Agent) : Prop :=
  ∀ handle jobId result, agent.tasks[handle]? = some ⟨jobId, .queued result⟩ →
    (handle, result) ∈ agent.resultChannel ∨ (handle, result) ∈ agent.pendingResults ∨
      (handle, result) ∈ agent.delivered

/-- No result that is held before the event is gone after it. -/
def DiscardsNothing (agent : Agent) (move : AgentMove) : Prop :=
  ∀ result, result ∈ agent.resultChannel ∨ result ∈ agent.pendingResults →
    result ∈ (agent.step move).resultChannel ∨ result ∈ (agent.step move).pendingResults ∨
      result ∈ (agent.step move).delivered

/-- When the event is the auto-termination, the result of every finished job has been
handed over. -/
def TerminatesDelivered (agent : Agent) (move : AgentMove) : Prop :=
  agent.loop ≠ .terminated → (agent.step move).loop = .terminated →
    ∀ handle jobId result,
      agent.tasks[handle]? = some ⟨jobId, .finishing result⟩ ∨
        agent.tasks[handle]? = some ⟨jobId, .queued result⟩ →
      (handle, result) ∈ agent.delivered

/-- After a reconnection every pending result is sent. -/
def DeliversPending (agent : Agent) : AgentMove → Prop
  | .reconnect sent =>
      agent.loop = .disconnected → ∀ index < agent.pendingResults.length, sent index = true
  | _ => True

theorem getElem_modify_abort_self (tasks : List Task) (handle : Nat) :
    (tasks.modify handle Task.abort)[handle]? = tasks[handle]?.map Task.abort := by
  simp only [List.getElem?_modify, if_true, Option.map_eq_map]

theorem getElem_modify_abort_other {tasks : List Task} {handle other : Nat}
    (different : handle ≠ other) :
    (tasks.modify handle Task.abort)[other]? = tasks[other]? := by
  simp only [List.getElem?_modify, if_neg different, Option.map_eq_map, Option.map_id']

/-! ## Where the results are -/

def results (agent : Agent) : List TaskResult :=
  agent.resultChannel ++ agent.pendingResults ++ agent.delivered

/-- Every result stems from a task that has queued it, and is held once. -/
structure Accounted (agent : Agent) : Prop where
  queued : ∀ result ∈ agent.results,
    ∃ jobId, agent.tasks[result.1]? = some ⟨jobId, .queued result.2⟩
  once : agent.results.Nodup

section Accounted

variable {agent after : Agent}

/-- Results are only moved or dropped, and no queued task changes. -/
theorem accounted_of_subperm (accounted : Accounted agent)
    (fewer : after.results.Subperm agent.results)
    (kept : ∀ (handle : Nat) (jobId : String) (result : PendingJobResult),
      agent.tasks[handle]? = some ⟨jobId, .queued result⟩ →
        after.tasks[handle]? = some ⟨jobId, .queued result⟩) : Accounted after := by
  constructor
  · intro result member
    obtain ⟨jobId, found⟩ := accounted.queued result (fewer.subset member)
    exact ⟨jobId, kept _ _ _ found⟩
  · obtain ⟨list, same, part⟩ := fewer
    exact same.nodup_iff.mp (accounted.once.sublist part)

theorem sent_results_sublist (sent : Nat → Bool) (results : List TaskResult) (index : Nat) :
    (sentResults sent index results).Sublist results := by
  induction results generalizing index with
  | nil => exact List.Sublist.refl _
  | cons result rest ih =>
      unfold sentResults
      split_ifs
      · exact (ih (index + 1)).cons_cons result
      · exact (ih (index + 1)).cons result

theorem accounted_queue (accounted : Accounted agent) {handle : Nat} {jobId : String}
    {result : PendingJobResult} (found : agent.tasks[handle]? = some ⟨jobId, .finishing result⟩) :
    Accounted { agent with
      tasks := agent.tasks.set handle ⟨jobId, .queued result⟩
      resultChannel := agent.resultChannel ++ [(handle, result)] } := by
  obtain ⟨bound, -⟩ := List.getElem?_eq_some_iff.mp found
  have fresh : ∀ other ∈ agent.results, other.1 ≠ handle := by
    rintro other member rfl
    obtain ⟨name, queued⟩ := accounted.queued other member
    rw [found] at queued
    cases queued
  have moved : (agent.resultChannel ++ [(handle, result)] ++ agent.pendingResults ++
      agent.delivered).Perm ((handle, result) :: agent.results) := by
    unfold results
    simp only [List.append_assoc, List.singleton_append]
    exact List.perm_middle
  constructor
  · intro other member
    rcases List.mem_cons.mp (moved.subset member) with rfl | older
    · exact ⟨jobId, List.getElem?_set_self bound⟩
    · obtain ⟨name, queued⟩ := accounted.queued other older
      exact ⟨name, by rw [List.getElem?_set_ne (Ne.symm (fresh other older)), queued]⟩
  · refine moved.nodup_iff.mpr (List.nodup_cons.mpr ⟨?_, accounted.once⟩)
    intro member
    exact fresh _ member rfl

theorem accounted_effect {move : AgentMove} (effect : Effect agent move after)
    (accounted : Accounted agent) : Accounted after := by
  cases effect with
  | nothing => exact accounted
  | reconnects sent place =>
      refine accounted_of_subperm accounted ?_ fun _ _ _ => id
      unfold results drainPending
      rw [List.append_nil, List.append_assoc]
      refine List.Subperm.append (List.Subperm.refl _) ?_
      refine List.perm_append_comm.subperm.trans ?_
      exact ((sent_results_sublist sent agent.pendingResults 0).append_right _).subperm
  | spawns jobId place =>
      refine accounted_of_subperm accounted (List.Subperm.refl _) ?_
      intro handle name result queued
      obtain ⟨bound, -⟩ := List.getElem?_eq_some_iff.mp queued
      exact (List.getElem?_append_left bound).trans queued
  | registers =>
      exact accounted_of_subperm accounted (List.Subperm.refl _) fun _ _ _ => id
  | cancels jobId entry place found =>
      refine accounted_of_subperm accounted (List.Subperm.refl _) ?_
      intro handle name result queued
      by_cases own : entry.handle = handle
      · subst own
        exact (getElem_modify_abort_self _ _).trans (by rw [queued]; rfl)
      · exact (getElem_modify_abort_other own).trans queued
  | delivers now result rest place first =>
      refine accounted_of_subperm accounted ?_ fun _ _ _ => id
      unfold results
      rw [first, List.cons_append, List.cons_append, ← List.append_assoc]
      exact (List.perm_append_singleton _ _).subperm
  | postpones now result rest place first =>
      refine accounted_of_subperm accounted ?_ fun _ _ _ => id
      unfold results
      rw [first, List.cons_append, List.cons_append, ← List.append_assoc, List.append_assoc _ [_]]
      exact List.perm_middle.subperm
  | fires | terminates | disconnects =>
      exact accounted_of_subperm accounted (List.Subperm.refl _) fun _ _ _ => id
  | finishes handle outcome jobId running =>
      refine accounted_of_subperm accounted (List.Subperm.refl _) ?_
      intro other name result queued
      have different : handle ≠ other := by
        rintro rfl
        rw [running] at queued
        cases queued
      exact (List.getElem?_set_ne different).trans queued
  | queues handle jobId result found => exact accounted_queue accounted found

end Accounted

/-! ## The pending results on a new connection -/

/-- A connection on which every send succeeds takes over every pending result. -/
theorem sent_results_all {sent : Nat → Bool} (results : List TaskResult) (index : Nat)
    (all : ∀ offset < results.length, sent (index + offset) = true) :
    sentResults sent index results = results := by
  induction results generalizing index with
  | nil => rfl
  | cons result rest ih =>
      unfold sentResults
      have first : sent index = true := all 0 (Nat.zero_lt_succ _)
      rw [if_pos first, ih (index + 1)]
      intro offset bound
      rw [Nat.add_assoc, Nat.add_comm 1 offset]
      exact all (offset + 1) (Nat.succ_lt_succ bound)

/-- If all of them are taken over, every send succeeded. -/
theorem sent_of_sent_results {sent : Nat → Bool} {results : List TaskResult} {index : Nat}
    (once : results.Nodup) (taken : ∀ result ∈ results, result ∈ sentResults sent index results) :
    ∀ offset < results.length, sent (index + offset) = true := by
  induction results generalizing index with
  | nil => exact fun offset bound => absurd bound (Nat.not_lt_zero offset)
  | cons result rest ih =>
      obtain ⟨fresh, once⟩ := List.nodup_cons.mp once
      have first : sent index = true := by
        by_contra refused
        have member := taken result List.mem_cons_self
        unfold sentResults at member
        rw [if_neg refused] at member
        exact fresh ((sent_results_sublist sent rest (index + 1)).subset member)
      have later : ∀ other ∈ rest, other ∈ sentResults sent (index + 1) rest := by
        intro other member
        have kept := taken other (List.mem_cons_of_mem _ member)
        unfold sentResults at kept
        rw [if_pos first] at kept
        rcases List.mem_cons.mp kept with rfl | kept
        · exact absurd member fresh
        · exact kept
      intro offset bound
      cases offset with
      | zero => exact first
      | succ offset =>
          rw [Nat.add_comm offset 1, ← Nat.add_assoc]
          exact ih once later offset (Nat.lt_of_succ_lt_succ bound)

theorem queued_of_abort {task : Task} {jobId : String} {result : PendingJobResult}
    (queued : task.abort = ⟨jobId, .queued result⟩) : task = ⟨jobId, .queued result⟩ := by
  obtain ⟨name, phase⟩ := task
  cases phase <;> cases queued
  rfl

section Step

variable {agent : Agent}

theorem kept_of_set (kept : agent.ResultsKept) {handle : Nat} {jobId : String} {phase : TaskPhase}
    (unfinished : ∀ result, phase ≠ .queued result) {other : Nat} {name : String}
    {result : PendingJobResult}
    (found : (agent.tasks.set handle ⟨jobId, phase⟩)[other]? = some ⟨name, .queued result⟩) :
    (other, result) ∈ agent.resultChannel ∨ (other, result) ∈ agent.pendingResults ∨
      (other, result) ∈ agent.delivered := by
  rw [List.getElem?_set] at found
  split_ifs at found with same bound
  · have phases := congrArg Task.phase (Option.some.inj found)
    exact absurd phases (unfinished result)
  · exact kept other name result found

/-- Every queued result stays somewhere. -/
theorem kept_effect {move : AgentMove} {after : Agent} (effect : Effect agent move after)
    (kept : agent.ResultsKept) (sends : agent.DeliversPending move) : after.ResultsKept := by
  cases effect with
  | nothing | registers | fires | terminates | disconnects => exact kept
  | reconnects sent place =>
      have all : sentResults sent 0 agent.pendingResults = agent.pendingResults := by
        apply sent_results_all
        intro offset bound
        rw [Nat.zero_add]
        exact sends place offset bound
      intro handle jobId result found
      rcases kept handle jobId result found with channel | pending | delivered
      · exact .inl channel
      · refine .inr (.inr (List.mem_append_right _ ?_))
        rw [all]
        exact pending
      · exact .inr (.inr (List.mem_append_left _ delivered))
  | spawns jobId place =>
      intro handle name result found
      simp only [spawnJob, List.getElem?_append] at found
      split_ifs at found
      · exact kept handle name result found
      · rw [List.getElem?_singleton] at found
        split_ifs at found
        cases found
  | cancels jobId entry place found =>
      intro handle name result queued
      simp only [List.getElem?_modify] at queued
      obtain ⟨task, before, aborted⟩ := Option.map_eq_some_iff.mp queued
      split_ifs at aborted
      · exact kept handle name result (before.trans (by rw [queued_of_abort aborted]))
      · exact kept handle name result (before.trans (congrArg some aborted))
  | delivers now result rest place first =>
      intro handle name reported queued
      rcases kept handle name reported queued with channel | pending | delivered
      · rw [first, List.mem_cons] at channel
        rcases channel with same | later
        · refine .inr (.inr (List.mem_append_right _ ?_))
          rw [same]
          exact List.mem_cons_self
        · exact .inl later
      · exact .inr (.inl pending)
      · exact .inr (.inr (List.mem_append_left _ delivered))
  | postpones now result rest place first =>
      intro handle name reported queued
      rcases kept handle name reported queued with channel | pending | delivered
      · rw [first, List.mem_cons] at channel
        rcases channel with same | later
        · refine .inr (.inl (List.mem_append_right _ ?_))
          rw [same]
          exact List.mem_cons_self
        · exact .inl later
      · exact .inr (.inl (List.mem_append_left _ pending))
      · exact .inr (.inr delivered)
  | finishes handle outcome jobId found =>
      intro other name result queued
      exact kept_of_set kept (fun _ => TaskPhase.noConfusion) queued
  | queues handle jobId result found =>
      intro other name reported queued
      rw [List.getElem?_set] at queued
      split_ifs at queued with same bound
      · cases queued
        rw [← same]
        exact .inl (List.mem_append_right _ List.mem_cons_self)
      · rcases kept other name reported queued with channel | pending | delivered
        · exact .inl (List.mem_append_left _ channel)
        · exact .inr (.inl pending)
        · exact .inr (.inr delivered)

theorem discards_nothing {move : AgentMove} (sends : agent.DeliversPending move) :
    agent.DiscardsNothing move := by
  intro held before
  have effect := effect_of_step agent move
  generalize agent.step move = after at effect ⊢
  cases effect with
  | nothing | spawns | registers | cancels | fires | terminates | disconnects | finishes =>
      exact before.imp id .inl
  | reconnects sent place =>
      rcases before with channel | pending
      · exact .inl channel
      · refine .inr (.inr (List.mem_append_right _ ?_))
        rw [sent_results_all]
        · exact pending
        · intro offset bound
          rw [Nat.zero_add]
          exact sends place offset bound
  | delivers now result rest place first =>
      rcases before with channel | pending
      · rw [first, List.mem_cons] at channel
        rcases channel with rfl | later
        · exact .inr (.inr (List.mem_append_right _ List.mem_cons_self))
        · exact .inl later
      · exact .inr (.inl pending)
  | postpones now result rest place first =>
      rcases before with channel | pending
      · rw [first, List.mem_cons] at channel
        rcases channel with rfl | later
        · exact .inr (.inl (List.mem_append_right _ List.mem_cons_self))
        · exact .inl later
      · exact .inr (.inl (List.mem_append_left _ pending))
  | queues handle jobId result found =>
      rcases before with channel | pending
      · exact .inl (List.mem_append_left _ channel)
      · exact .inr (.inl pending)

/-- An event that discards nothing is no reconnection on which a send fails. -/
theorem delivers_pending_of_discards_nothing {move : AgentMove} (accounted : Accounted agent)
    (keeps : agent.DiscardsNothing move) : agent.DeliversPending move := by
  cases move with
  | reconnect sent =>
      intro place
      have drained : agent.step (.reconnect sent) = agent.drainPending sent := by
        unfold step
        rw [place]
      have once := accounted.once
      unfold results at once
      obtain ⟨held, -, apart⟩ := List.nodup_append.mp once
      obtain ⟨-, pendingOnce, disjoint⟩ := List.nodup_append.mp held
      have taken : ∀ result ∈ agent.pendingResults,
          result ∈ sentResults sent 0 agent.pendingResults := by
        intro result member
        have after := keeps result (.inr member)
        rw [drained] at after
        rcases after with channel | pending | delivered
        · exact absurd rfl (disjoint result channel result member)
        · cases pending
        · rcases List.mem_append.mp delivered with before | now
          · exact absurd rfl (apart result (List.mem_append_right _ member) result before)
          · exact now
      intro index bound
      have sends := sent_of_sent_results pendingOnce taken index bound
      rwa [Nat.zero_add] at sends
  | runJob | registerHandle | cancel | forwardResult | tick | terminate | heartbeat | streamEnds
  | taskReturns | taskQueues => trivial

end Step

theorem accounted_start (cleanupTimeoutMs : Nat) (now : Instant) :
    Accounted (start cleanupTimeoutMs now) := by
  refine ⟨?_, List.nodup_nil⟩
  intro result member
  cases member

/-- A run of the loop keeps every result, and leaves none behind, exactly if the pending
results get through after each reconnection. -/
theorem results_are_handed_over (cleanupTimeoutMs : Nat) (now : Instant)
    (moves : List AgentMove) :
    (Always step ResultsKept (start cleanupTimeoutMs now) moves ∧
      EachMove step (fun agent move => agent.DiscardsNothing move ∧ agent.TerminatesDelivered move)
        (start cleanupTimeoutMs now) moves) ↔
      EachMove step DeliversPending (start cleanupTimeoutMs now) moves := by
  apply always_and_each_move_iff step (fun agent => Accounted agent ∧ agent.LockedInBody)
    ResultsKept
  · intro agent move invariant
    exact ⟨accounted_effect (effect_of_step agent move) invariant.1,
      locked_in_body_step agent move invariant.2⟩
  · intro agent move invariant kept
    constructor
    · intro sends
      refine ⟨kept_effect (effect_of_step agent move) kept sends, discards_nothing sends, ?_⟩
      intro _ ended
      exact absurd ended (locked_in_body_step agent move invariant.2).1
    · intro keeps
      exact delivers_pending_of_discards_nothing invariant.1 keeps.2.1
  · exact ⟨accounted_start cleanupTimeoutMs now, locked_in_body_start cleanupTimeoutMs now⟩
  · intro handle jobId result found
    cases found

/-! ## A lost connection -/

/-- One job, up to its result in the channel. -/
def oneJob (jobId : String) (handle : Nat) : List AgentMove :=
  [.runJob jobId, .registerHandle, .taskReturns handle (.ok 0), .taskQueues handle]

/-- A send that fails right after a reconnection loses the result. -/
theorem pending_result_is_lost :
    ¬Always step ResultsKept (start 5 0) (.reconnect (fun _ => true) :: oneJob "a" 0 ++
      [.forwardResult false 1, .reconnect fun _ => false]) := by
  intro always
  have kept := always_final step _ _ always 0 "a" ⟨"a", 0, true, ""⟩ rfl
  revert kept
  decide

end Agent

end HodeiJobs.WorkerAgent
