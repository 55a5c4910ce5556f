import Mathlib.Data.Fintype.Basic
import Mathlib.Data.List.Nodup
import Mathlib.Data.Set.Basic

/-!
# Fair read-write locks

A lock is the queue of its requests in the order of their arrival: the readers at its front hold
it, or the one writer there, and all others wait. A deadlock between two locks is a pair of tasks
that each hold the lock that the other one waits for.
-/

namespace HodeiJobs.Library

inductive LockMode where
  | read
  | write
  deriving DecidableEq

structure LockRequest where
  task : Nat
  mode : LockMode
  deriving DecidableEq

abbrev LockQueue := List LockRequest

namespace LockQueue

def tasks (queue : LockQueue) : List Nat := queue.map LockRequest.task

/-- A request that comes after these is granted. -/
def Admits (queue : LockQueue) (mode : LockMode) : Prop :=
  queue = [] ∨ mode = .read ∧ ∀ request ∈ queue, request.mode = .read

instance (queue : LockQueue) (mode : LockMode) : Decidable (queue.Admits mode) :=
  inferInstanceAs (Decidable (_ ∨ _))

def Holds (queue : LockQueue) (task : Nat) : Prop :=
  ∃ index : Fin queue.length,
    (queue.get index).task = task ∧ Admits (queue.take index) (queue.get index).mode

instance (queue : LockQueue) (task : Nat) : Decidable (queue.Holds task) :=
  inferInstanceAs (Decidable (∃ _ : Fin _, _))

def Waits (queue : LockQueue) (task : Nat) : Prop := task ∈ queue.tasks ∧ ¬queue.Holds task

instance (queue : LockQueue) (task : Nat) : Decidable (queue.Waits task) :=
  inferInstanceAs (Decidable (_ ∧ _))

/-- The request of the one task came before that of the other. -/
def Before (queue : LockQueue) (task other : Nat) : Prop := [task, other].Sublist queue.tasks

def acquire (queue : LockQueue) (request : LockRequest) : LockQueue := queue ++ [request]

def release (queue : LockQueue) (task : Nat) : LockQueue :=
  queue.filter fun request => decide (request.task ≠ task)

variable {queue : LockQueue} {task other : Nat} {request : LockRequest}

theorem holds_iff : queue.Holds task ↔
    ∃ earlier request later, queue = earlier ++ request :: later ∧ request.task = task ∧
      Admits earlier request.mode := by
  constructor
  · rintro ⟨index, isTask, admits⟩
    refine ⟨queue.take index, queue.get index, queue.drop (index + 1), ?_, isTask, admits⟩
    rw [List.get_eq_getElem, ← List.drop_eq_getElem_cons index.isLt, List.take_append_drop]
  · rintro ⟨earlier, request, later, rfl, isTask, admits⟩
    exact ⟨⟨earlier.length, by simp⟩, by simpa using isTask, by simpa using admits⟩

theorem mem_tasks_of_holds (holds : queue.Holds task) : task ∈ queue.tasks := by
  obtain ⟨earlier, request, later, rfl, rfl, _⟩ := holds_iff.mp holds
  simp [tasks]

theorem holds_or_waits (isIn : task ∈ queue.tasks) : queue.Holds task ∨ queue.Waits task := by
  by_cases holds : queue.Holds task
  · exact Or.inl holds
  · exact Or.inr ⟨isIn, holds⟩

theorem not_admits_read_iff (isIn : task ∈ queue.tasks) :
    ¬queue.Admits .read ↔ ∃ request ∈ queue, request.mode = .write := by
  have notEmpty : queue ≠ [] := by
    rintro rfl
    exact absurd isIn List.not_mem_nil
  unfold Admits
  rw [or_iff_right notEmpty, and_iff_right rfl]
  push Not
  refine exists_congr fun request => and_congr_right fun _ => ?_
  cases request.mode <;> simp

/-! ## A new request -/

theorem mem_tasks_acquire :
    task ∈ (queue.acquire request).tasks ↔ task ∈ queue.tasks ∨ task = request.task := by
  simp [acquire, tasks]

theorem holds_acquire_of_holds (holds : queue.Holds task) : (queue.acquire request).Holds task := by
  obtain ⟨earlier, other, later, rfl, isTask, admits⟩ := holds_iff.mp holds
  exact holds_iff.mpr ⟨earlier, other, later ++ [request], by simp [acquire], isTask, admits⟩

theorem holds_acquire_other (different : task ≠ request.task) :
    (queue.acquire request).Holds task ↔ queue.Holds task := by
  refine ⟨?_, holds_acquire_of_holds⟩
  intro holds
  obtain ⟨earlier, other, later, split, isTask, admits⟩ := holds_iff.mp holds
  rcases List.eq_nil_or_concat later with rfl | ⟨between, last, rfl⟩
  · have same := List.append_inj_right' split rfl
    cases same
    exact absurd isTask.symm different
  · rw [List.concat_eq_append, ← List.cons_append, ← List.append_assoc] at split
    have sameQueue := List.append_inj_left' split rfl
    exact holds_iff.mpr ⟨earlier, other, between, sameQueue, isTask, admits⟩

theorem holds_acquire_self (isNew : request.task ∉ queue.tasks) :
    (queue.acquire request).Holds request.task ↔ queue.Admits request.mode := by
  constructor
  · intro holds
    obtain ⟨earlier, other, later, split, isTask, admits⟩ := holds_iff.mp holds
    rcases List.eq_nil_or_concat later with rfl | ⟨between, last, rfl⟩
    · have sameEarlier := List.append_inj_left' split rfl
      have same := List.append_inj_right' split rfl
      cases same
      rwa [sameEarlier]
    · rw [List.concat_eq_append, ← List.cons_append, ← List.append_assoc] at split
      have sameQueue := List.append_inj_left' split rfl
      refine absurd ?_ isNew
      rw [sameQueue, ← isTask]
      simp [tasks]
  · intro admits
    exact holds_iff.mpr ⟨queue, request, [], rfl, rfl, admits⟩

theorem waits_acquire_other (different : task ≠ request.task) :
    (queue.acquire request).Waits task ↔ queue.Waits task := by
  unfold Waits
  rw [holds_acquire_other different, mem_tasks_acquire, or_iff_left different]

theorem waits_acquire_self (isNew : request.task ∉ queue.tasks) :
    (queue.acquire request).Waits request.task ↔ ¬queue.Admits request.mode := by
  unfold Waits
  rw [holds_acquire_self isNew]
  exact and_iff_right (mem_tasks_acquire.mpr (Or.inr rfl))

theorem nodup_acquire (distinct : queue.tasks.Nodup) (isNew : request.task ∉ queue.tasks) :
    (queue.acquire request).tasks.Nodup := by
  rw [acquire, tasks, List.map_append]
  exact distinct.append (List.nodup_singleton _) (by simpa using isNew)

/-! ## A release -/

theorem mem_tasks_release :
    task ∈ (queue.release other).tasks ↔ task ∈ queue.tasks ∧ task ≠ other := by
  unfold release tasks
  rw [List.mem_map, List.mem_map]
  constructor
  · rintro ⟨request, kept, rfl⟩
    obtain ⟨isIn, different⟩ := List.mem_filter.mp kept
    exact ⟨⟨request, isIn, rfl⟩, of_decide_eq_true different⟩
  · rintro ⟨⟨request, isIn, rfl⟩, different⟩
    exact ⟨request, List.mem_filter.mpr ⟨isIn, decide_eq_true different⟩, rfl⟩

theorem admits_filter {mode : LockMode} (keeps : LockRequest → Bool) (admits : queue.Admits mode) :
    Admits (queue.filter keeps) mode := by
  rcases admits with rfl | ⟨isRead, readers⟩
  · exact Or.inl rfl
  · exact Or.inr ⟨isRead, fun request kept => readers request (List.mem_filter.mp kept).1⟩

theorem holds_release (holds : queue.Holds task) (different : task ≠ other) :
    (queue.release other).Holds task := by
  obtain ⟨earlier, request, later, rfl, rfl, admits⟩ := holds_iff.mp holds
  refine holds_iff.mpr ⟨release earlier other, request, release later other, ?_, rfl,
    admits_filter _ admits⟩
  unfold release
  rw [List.filter_append, List.filter_cons_of_pos (by simpa using different)]

theorem waits_of_waits_release (waits : (queue.release other).Waits task) :
    queue.Waits task := by
  obtain ⟨isIn, different⟩ := mem_tasks_release.mp waits.1
  exact ⟨isIn, fun holds => waits.2 (holds_release holds different)⟩

theorem nodup_release (distinct : queue.tasks.Nodup) : (queue.release other).tasks.Nodup :=
  distinct.sublist (List.filter_sublist.map _)

/-! ## The order in a queue -/

theorem mem_of_pair_sublist {Value : Type} {first second : Value} {earlier later : List Value}
    (distinct : (earlier ++ second :: later).Nodup)
    (pair : [first, second].Sublist (earlier ++ second :: later)) : first ∈ earlier := by
  obtain ⟨front, back, split, inEarlier, inLater⟩ := List.sublist_append_iff.mp pair
  cases front with
  | cons head rest =>
      have same : head = first := (List.cons.inj split).1.symm
      exact same ▸ inEarlier.subset List.mem_cons_self
  | nil =>
      have isBack : back = [first, second] := split.symm
      subst isBack
      have once : second ∉ later := (List.nodup_cons.mp (List.nodup_append.mp distinct).2.1).1
      refine absurd ?_ once
      cases inLater with
      | cons _ inRest => exact inRest.subset (by simp)
      | cons_cons _ inRest => exact inRest.subset (by simp)

/-- The first of some tasks in a queue. -/
theorem first_of_tasks (distinct : queue.tasks.Nodup) {calls : Set Nat} (isCall : task ∈ calls)
    (isIn : task ∈ queue.tasks) :
    ∃ first ∈ calls, first ∈ queue.tasks ∧ ∀ other ∈ calls, ¬queue.Before other first := by
  classical
  cases found : queue.tasks.find? fun task => decide (task ∈ calls) with
  | none =>
      have none := List.find?_eq_none.mp found task isIn
      exact absurd (decide_eq_true isCall) none
  | some first =>
      obtain ⟨isFirst, earlier, later, split, others⟩ := List.find?_eq_some_iff_append.mp found
      refine ⟨first, of_decide_eq_true isFirst, by rw [split]; simp, ?_⟩
      intro other isCall before
      unfold Before at before
      rw [split] at distinct before
      have isEarlier := mem_of_pair_sublist distinct before
      simpa [isCall] using others other isEarlier

end LockQueue

/-! ## Deadlocks -/

section Deadlock

variable {Lock : Type} (queues : Lock → LockQueue)

/-- Each of the tasks waits for a lock that another one holds or is queued for before it. -/
def IsDeadlock (calls : Set Nat) : Prop :=
  calls.Nonempty ∧ ∀ task ∈ calls, ∃ lock, (queues lock).Waits task ∧
    ∃ other ∈ calls, (queues lock).Holds other ∨ (queues lock).Before other task

def Deadlocked : Prop := ∃ calls, IsDeadlock queues calls

/-- What every state of the queues has: a task has one request for a lock, and waits once. -/
structure Orderly : Prop where
  distinct : ∀ lock, (queues lock).tasks.Nodup
  once : ∀ task lock other, (queues lock).Waits task → (queues other).Waits task → lock = other

variable {queues}

/-- In a deadlock each task waits for one that holds the lock. -/
theorem holder_of_deadlock (orderly : Orderly queues) {calls : Set Nat}
    (deadlock : IsDeadlock queues calls) {task : Nat} (isCall : task ∈ calls) :
    ∃ lock, (queues lock).Waits task ∧ ∃ other ∈ calls, (queues lock).Holds other := by
  obtain ⟨lock, waits, _⟩ := deadlock.2 task isCall
  refine ⟨lock, waits, ?_⟩
  obtain ⟨first, isFirst, isIn, none⟩ :=
    LockQueue.first_of_tasks (orderly.distinct lock) isCall waits.1
  rcases LockQueue.holds_or_waits isIn with holds | firstWaits
  · exact ⟨first, isFirst, holds⟩
  · obtain ⟨other, otherWaits, holder, isHolder, holds | before⟩ := deadlock.2 first isFirst
    · cases orderly.once first lock other firstWaits otherWaits
      exact ⟨holder, isHolder, holds⟩
    · cases orderly.once first lock other firstWaits otherWaits
      exact absurd before (none holder isHolder)

/-- Two tasks that each hold the lock that the other one waits for. -/
def Crossed (queues : Lock → LockQueue) (lock other : Lock) : Prop :=
  ∃ first second, (queues lock).Holds first ∧ (queues other).Waits first ∧
    (queues other).Holds second ∧ (queues lock).Waits second

theorem crossed_comm {lock other : Lock} :
    Crossed queues lock other ↔ Crossed queues other lock := by
  constructor
  · rintro ⟨first, second, holds, waits, holdsOther, waitsOther⟩
    exact ⟨second, first, holdsOther, waitsOther, holds, waits⟩
  · rintro ⟨first, second, holds, waits, holdsOther, waitsOther⟩
    exact ⟨second, first, holdsOther, waitsOther, holds, waits⟩

/-- With two locks a deadlock is a pair that is crossed. -/
theorem deadlocked_iff_crossed (orderly : Orderly queues) {lock other : Lock}
    (different : lock ≠ other) (two : ∀ any : Lock, any = lock ∨ any = other) :
    Deadlocked queues ↔ Crossed queues lock other := by
  constructor
  · rintro ⟨calls, deadlock⟩
    -- someone of the tasks waits for the one lock, and its holder for the other one
    have crossed : ∀ any next, (∀ lock : Lock, lock = any ∨ lock = next) →
        (∃ task ∈ calls, (queues any).Waits task) → Crossed queues any next := by
      rintro any next two ⟨task, isCall, waits⟩
      obtain ⟨held, waitsHeld, first, isFirst, holds⟩ := holder_of_deadlock orderly deadlock isCall
      cases orderly.once task any held waits waitsHeld
      obtain ⟨second, firstWaits, holder, isHolder, holderHolds⟩ :=
        holder_of_deadlock orderly deadlock isFirst
      rcases two second with rfl | rfl
      · exact absurd holds firstWaits.2
      · obtain ⟨third, holderWaits, _⟩ := holder_of_deadlock orderly deadlock isHolder
        rcases two third with rfl | rfl
        · exact ⟨first, holder, holds, firstWaits, holderHolds, holderWaits⟩
        · exact absurd holderHolds holderWaits.2
    obtain ⟨task, isCall⟩ := deadlock.1
    obtain ⟨any, waits, _⟩ := deadlock.2 task isCall
    rcases two any with rfl | rfl
    · exact crossed any other two ⟨task, isCall, waits⟩
    · exact crossed_comm.mp (crossed any lock (fun next => (two next).symm) ⟨task, isCall, waits⟩)
  · rintro ⟨first, second, holds, waits, holdsOther, waitsOther⟩
    refine ⟨{first, second}, ⟨first, Set.mem_insert _ _⟩, ?_⟩
    rintro task (rfl | rfl)
    · exact ⟨other, waits, second, by simp, Or.inl holdsOther⟩
    · exact ⟨lock, waitsOther, first, by simp, Or.inl holds⟩

end Deadlock

end HodeiJobs.Library
