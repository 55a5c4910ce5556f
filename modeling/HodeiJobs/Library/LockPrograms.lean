import HodeiJobs.Library.Protocol
import HodeiJobs.Library.Runs
import HodeiJobs.Library.RwLock

/-!
# Programs that lock

Tasks are programs whose calls acquire locks, release them, or use a world that they share. A task
that waits makes no step. A step of a task leads to a deadlock when the lock that it asks for
closes a pair.
-/

namespace HodeiJobs.Library

inductive LockOp (Lock Op : Type) where
  | acquire (lock : Lock) (mode : LockMode)
  | release (lock : Lock)
  | use (op : Op)

def LockReply {Op : Type} (Lock : Type) (Reply : Op → Type) : LockOp Lock Op → Type
  | .acquire _ _ | .release _ => Unit
  | .use op => Reply op

abbrev LockProgram (Lock : Type) {Op : Type} (Reply : Op → Type) (Result : Type) : Type :=
  Program (LockOp Lock Op) (LockReply Lock Reply) Result

namespace LockProgram

variable {Lock Op : Type} {Reply : Op → Type} {Result World : Type}

def acquire (lock : Lock) (mode : LockMode) : LockProgram Lock Reply Unit :=
  .call (.acquire lock mode) fun _ => .done ()

def release (lock : Lock) : LockProgram Lock Reply Unit := .call (.release lock) fun _ => .done ()

def use (op : Op) : LockProgram Lock Reply (Reply op) := .call (.use op) .done

/-- The guard of the lock lives as long as the body runs. -/
def locked (lock : Lock) (mode : LockMode) (body : LockProgram Lock Reply Result) :
    LockProgram Lock Reply Result := do
  acquire lock mode
  let result ← body
  release lock
  pure result

/-- A program that runs alone gets every lock at once. -/
def handleAlone (handle : (op : Op) → World → Reply op × World) :
    (op : LockOp Lock Op) → World → LockReply Lock Reply op × World
  | .acquire _ _, world => ((), world)
  | .release _, world => ((), world)
  | .use op, world => handle op world

def alone (handle : (op : Op) → World → Reply op × World)
    (program : LockProgram Lock Reply Result) (world : World) : Result × World :=
  Program.run (handleAlone handle) program world

variable (handle : (op : Op) → World → Reply op × World) (world : World)

@[simp] theorem alone_pure (result : Result) :
    alone handle (pure result : LockProgram Lock Reply Result) world = (result, world) := rfl

@[simp] theorem alone_bind {Other : Type} (program : LockProgram Lock Reply Result)
    (next : Result → LockProgram Lock Reply Other) :
    alone handle (program >>= next) world =
      alone handle (next (alone handle program world).1) (alone handle program world).2 :=
  Program.run_bind (handleAlone handle) program next world

@[simp] theorem alone_use (op : Op) :
    alone handle (use op : LockProgram Lock Reply (Reply op)) world = handle op world := rfl

@[simp] theorem alone_locked (lock : Lock) (mode : LockMode)
    (body : LockProgram Lock Reply Result) :
    alone handle (locked lock mode body) world = alone handle body world := by
  unfold locked
  rw [alone_bind, alone_bind]
  rfl

theorem alone_ite (condition : Prop) [Decidable condition]
    (first second : LockProgram Lock Reply Result) :
    alone handle (if condition then first else second) world =
      if condition then alone handle first world else alone handle second world :=
  apply_ite (alone handle · world) condition first second

theorem alone_for_m {Entry : Type} (program : Entry → LockProgram Lock Reply Unit)
    (entries : List Entry) :
    alone handle (entries.forM program) world =
      ((), entries.foldl (fun world entry => (alone handle (program entry) world).2) world) := by
  induction entries generalizing world with
  | nil => rfl
  | cons entry rest ih => exact (alone_bind handle world (program entry) _).trans (ih _)

/-- A loop whose replies do not depend on the world. -/
theorem alone_map_m {Entry : Type} {program : Entry → LockProgram Lock Reply Result}
    {reply : Entry → Result} (invariant : World → Prop)
    (replies : ∀ entry world, invariant world → (alone handle (program entry) world).1 = reply entry
      ∧ invariant (alone handle (program entry) world).2)
    (entries : List Entry) (start : invariant world) :
    (alone handle (entries.mapM program) world).1 = entries.map reply ∧
      invariant (alone handle (entries.mapM program) world).2 := by
  induction entries generalizing world with
  | nil => exact ⟨rfl, start⟩
  | cons entry rest ih =>
      obtain ⟨first, next⟩ := replies entry world start
      obtain ⟨later, last⟩ := ih _ next
      rw [List.mapM_cons, alone_bind, alone_bind, alone_pure, first, later]
      exact ⟨rfl, last⟩

end LockProgram

/-- What nests in what: each lock that is acquired while others are held. -/
def nesting {Lock Op : Type} [DecidableEq Lock] (Reply : Op → Type)
    (nests : Lock → Lock → LockMode → Prop) :
    Protocol (LockOp Lock Op) (LockReply Lock Reply) (List Lock) where
  answers _ _ := True
  allows held op :=
    match op with
    | .acquire lock mode => lock ∉ held ∧ ∀ outer ∈ held, nests outer lock mode
    | .release _ | .use _ => True
  remember held op _ :=
    match op with
    | .acquire lock _ => lock :: held
    | .release lock => held.filter fun other => decide (other ≠ lock)
    | .use _ => held

/-! ## Programs that release what they acquire -/

section Keeps

variable {Lock Op : Type} [DecidableEq Lock] {Reply : Op → Type} {Result Other Entry : Type}

/-- The program acquires locks only as `nests` allows, and holds the same locks at its end. -/
def Keeps (nests : Lock → Lock → LockMode → Prop) (held : List Lock)
    (program : LockProgram Lock Reply Result) : Prop :=
  Program.Obeys (nesting Reply nests) (fun last _ => last = held) program held

variable {nests : Lock → Lock → LockMode → Prop} {held : List Lock}

theorem keeps_pure (result : Result) :
    Keeps nests held (pure result : LockProgram Lock Reply Result) := rfl

theorem keeps_use (op : Op) :
    Keeps nests held (LockProgram.use op : LockProgram Lock Reply (Reply op)) :=
  ⟨trivial, fun _ _ => rfl⟩

theorem keeps_bind {program : LockProgram Lock Reply Result}
    {next : Result → LockProgram Lock Reply Other} (first : Keeps nests held program)
    (later : ∀ result, Keeps nests held (next result)) : Keeps nests held (program >>= next) := by
  unfold Keeps
  rw [Program.obeys_bind]
  apply Program.obeys_imp _ _ program held first
  rintro last result rfl
  exact later result

theorem keeps_locked {lock : Lock} {mode : LockMode} {body : LockProgram Lock Reply Result}
    (isNew : lock ∉ held) (inner : ∀ outer ∈ held, nests outer lock mode)
    (keeps : Keeps nests (lock :: held) body) :
    Keeps nests held (LockProgram.locked lock mode body) := by
  refine ⟨⟨isNew, inner⟩, fun _ _ => ?_⟩
  have rest : Program.Obeys (nesting Reply nests) (fun last _ => last = held)
      (body >>= fun result => LockProgram.release lock >>= fun _ => pure result)
      (lock :: held) := by
    rw [Program.obeys_bind]
    apply Program.obeys_imp _ _ body _ keeps
    rintro last result rfl
    refine ⟨trivial, fun _ _ => ?_⟩
    have others : ∀ other ∈ held, decide (other ≠ lock) = true :=
      fun other isIn => decide_eq_true fun same => isNew (same ▸ isIn)
    show (lock :: held).filter (fun other => decide (other ≠ lock)) = held
    rw [List.filter_cons_of_neg (by simp), List.filter_eq_self.mpr others]
  exact rest

theorem keeps_map_m {program : Entry → LockProgram Lock Reply Result}
    (each : ∀ entry, Keeps nests held (program entry)) (entries : List Entry) :
    Keeps nests held (entries.mapM program) := by
  induction entries with
  | nil => exact keeps_pure []
  | cons entry rest ih =>
      rw [List.mapM_cons]
      exact keeps_bind (each entry) fun _ => keeps_bind ih fun _ => keeps_pure _

theorem keeps_for_m {program : Entry → LockProgram Lock Reply Unit}
    (each : ∀ entry, Keeps nests held (program entry)) (entries : List Entry) :
    Keeps nests held (entries.forM program) := by
  induction entries with
  | nil => exact keeps_pure ()
  | cons entry rest ih => exact keeps_bind (each entry) fun _ => ih

end Keeps

structure LockTask (Call Lock : Type) {Op : Type} (Reply : Op → Type) where
  call : Call
  program : LockProgram Lock Reply Unit

structure LockState (Call Lock : Type) {Op : Type} (Reply : Op → Type) (World : Type) where
  queues : Lock → LockQueue
  tasks : List (LockTask Call Lock Reply)
  world : World

inductive LockMove (Call : Type) where
  | start (call : Call)
  | step (task : Nat)

namespace LockState

variable {Call Lock Op World : Type} {Reply : Op → Type}

def Blocked (state : LockState Call Lock Reply World) (task : Nat) : Prop :=
  ∃ lock, (state.queues lock).Waits task

theorem found_of_set {tasks : List (LockTask Call Lock Reply)}
    {next found : LockTask Call Lock Reply} {task other : Nat}
    (isFound : (tasks.set task next)[other]? = some found) :
    other = task ∧ found = next ∨ other ≠ task ∧ tasks[other]? = some found := by
  by_cases same : other = task
  · subst same
    rw [List.getElem?_set_self'] at isFound
    cases known : tasks[other]? with
    | none => simp [known] at isFound
    | some former =>
        rw [known] at isFound
        cases isFound
        exact Or.inl ⟨rfl, rfl⟩
  · rw [List.getElem?_set_ne (Ne.symm same)] at isFound
    exact Or.inr ⟨same, isFound⟩

variable [DecidableEq Lock]

/-- A task has asked for a lock, and goes on as `next` when it gets it. -/
def acquired (state : LockState Call Lock Reply World) (lock : Lock) (mode : LockMode)
    (task : Nat) (next : LockTask Call Lock Reply) : LockState Call Lock Reply World :=
  { state with
    queues := Function.update state.queues lock ((state.queues lock).acquire ⟨task, mode⟩)
    tasks := state.tasks.set task next }

def released (state : LockState Call Lock Reply World) (lock : Lock) (task : Nat)
    (next : LockTask Call Lock Reply) : LockState Call Lock Reply World :=
  { state with
    queues := Function.update state.queues lock ((state.queues lock).release task)
    tasks := state.tasks.set task next }

/-- One call of the program of a task. -/
def advance (handle : (op : Op) → World → Reply op × World)
    (state : LockState Call Lock Reply World) (task : Nat)
    (running : LockTask Call Lock Reply) : LockState Call Lock Reply World :=
  match running.program with
  | .done _ => state
  | .call (.acquire lock mode) next =>
      state.acquired lock mode task { running with program := next () }
  | .call (.release lock) next => state.released lock task { running with program := next () }
  | .call (.use op) next =>
      { state with
        tasks := state.tasks.set task { running with program := next (handle op state.world).1 }
        world := (handle op state.world).2 }

instance [Fintype Lock] (state : LockState Call Lock Reply World) (task : Nat) :
    Decidable (state.Blocked task) :=
  inferInstanceAs (Decidable (∃ _, _))

def step [Fintype Lock] (handle : (op : Op) → World → Reply op × World)
    (program : Call → LockProgram Lock Reply Unit) (state : LockState Call Lock Reply World) :
    LockMove Call → LockState Call Lock Reply World
  | .start call => { state with tasks := state.tasks ++ [⟨call, program call⟩] }
  | .step task =>
      match state.tasks[task]? with
      | none => state
      | some running => if state.Blocked task then state else state.advance handle task running

/-! ## What holds in every state -/

/-- The rest of a program that releases all that it holds. -/
def Disciplined (nests : Lock → Lock → LockMode → Prop) (held : List Lock)
    (program : LockProgram Lock Reply Unit) : Prop :=
  Program.Obeys (nesting Reply nests) (fun last _ => last = []) program held

variable (nests : Call → Lock → Lock → LockMode → Prop)

structure Sound (state : LockState Call Lock Reply World) : Prop where
  orderly : Orderly state.queues
  known : ∀ lock, ∀ task ∈ (state.queues lock).tasks, task < state.tasks.length
  held : ∀ task running, state.tasks[task]? = some running → ∃ held,
    Disciplined (nests running.call) held running.program ∧
      ∀ lock, lock ∈ held ↔ task ∈ (state.queues lock).tasks
  nested : ∀ task running lock outer, state.tasks[task]? = some running →
    (state.queues lock).Waits task → (state.queues outer).Holds task →
      ∃ mode, nests running.call outer lock mode ∧ ⟨task, mode⟩ ∈ state.queues lock

variable {nests} {state : LockState Call Lock Reply World} {task other : Nat}
  {running next : LockTask Call Lock Reply} {lock any : Lock} {mode : LockMode}

theorem queues_acquired_self : (state.acquired lock mode task next).queues lock =
    (state.queues lock).acquire ⟨task, mode⟩ := Function.update_self ..

theorem queues_acquired_other (different : any ≠ lock) :
    (state.acquired lock mode task next).queues any = state.queues any :=
  Function.update_of_ne different ..

theorem queues_released_self : (state.released lock task next).queues lock =
    (state.queues lock).release task := Function.update_self ..

theorem queues_released_other (different : any ≠ lock) :
    (state.released lock task next).queues any = state.queues any :=
  Function.update_of_ne different ..

theorem mem_tasks_acquired : other ∈ ((state.acquired lock mode task next).queues any).tasks ↔
    other ∈ (state.queues any).tasks ∨ any = lock ∧ other = task := by
  by_cases same : any = lock
  · subst same
    rw [queues_acquired_self, LockQueue.mem_tasks_acquire]
    simp
  · rw [queues_acquired_other same]
    simp [same]

theorem waits_acquired_other (different : other ≠ task) :
    ((state.acquired lock mode task next).queues any).Waits other ↔
      (state.queues any).Waits other := by
  by_cases same : any = lock
  · subst same
    rw [queues_acquired_self, LockQueue.waits_acquire_other different]
  · rw [queues_acquired_other same]

theorem holds_acquired_other (different : other ≠ task) :
    ((state.acquired lock mode task next).queues any).Holds other ↔
      (state.queues any).Holds other := by
  by_cases same : any = lock
  · subst same
    rw [queues_acquired_self, LockQueue.holds_acquire_other different]
  · rw [queues_acquired_other same]

theorem holds_acquired_of_holds (holds : (state.queues any).Holds other) :
    ((state.acquired lock mode task next).queues any).Holds other := by
  by_cases same : any = lock
  · subst same
    rw [queues_acquired_self]
    exact LockQueue.holds_acquire_of_holds holds
  · rwa [queues_acquired_other same]

/-- A task that has not waited waits at most for the lock that it has asked for. -/
theorem waits_acquired_self (free : ¬state.Blocked task)
    (isNew : task ∉ (state.queues lock).tasks) :
    ((state.acquired lock mode task next).queues any).Waits task ↔
      any = lock ∧ ¬(state.queues lock).Admits mode := by
  by_cases same : any = lock
  · subst same
    have asks : ((state.queues any).acquire ⟨task, mode⟩).Waits task ↔
        ¬(state.queues any).Admits mode := LockQueue.waits_acquire_self isNew
    rw [queues_acquired_self, asks, and_iff_right rfl]
  · rw [queues_acquired_other same]
    exact iff_of_false (fun waits => free ⟨any, waits⟩) fun both => same both.1

theorem mem_tasks_released : other ∈ ((state.released lock task next).queues any).tasks ↔
    other ∈ (state.queues any).tasks ∧ ¬(any = lock ∧ other = task) := by
  by_cases same : any = lock
  · subst same
    rw [queues_released_self, LockQueue.mem_tasks_release]
    simp
  · rw [queues_released_other same]
    simp [same]

theorem waits_of_waits_released
    (waits : ((state.released lock task next).queues any).Waits other) :
    (state.queues any).Waits other := by
  by_cases same : any = lock
  · subst same
    rw [queues_released_self] at waits
    exact LockQueue.waits_of_waits_release waits
  · rwa [queues_released_other same] at waits

/-- Of a task that still waits no lock has been granted by the release. -/
theorem holds_of_holds_released (orderly : Orderly state.queues)
    (waits : ((state.released lock task next).queues any).Waits other) {held : Lock}
    (holds : ((state.released lock task next).queues held).Holds other) :
    (state.queues held).Holds other := by
  have waited := waits_of_waits_released waits
  have isIn := (mem_tasks_released.mp (LockQueue.mem_tasks_of_holds holds)).1
  rcases LockQueue.holds_or_waits isIn with had | waitedHeld
  · exact had
  · cases orderly.once other any held waited waitedHeld
    exact absurd holds waits.2

/-! ## Steps keep the order -/

theorem orderly_acquired (orderly : Orderly state.queues) (free : ¬state.Blocked task)
    (isNew : task ∉ (state.queues lock).tasks) :
    Orderly (state.acquired lock mode task next).queues := by
  constructor
  · intro any
    by_cases same : any = lock
    · subst same
      rw [queues_acquired_self]
      exact LockQueue.nodup_acquire (orderly.distinct any) isNew
    · rw [queues_acquired_other same]
      exact orderly.distinct any
  · intro other first second waits waitsToo
    by_cases isTask : other = task
    · subst isTask
      rw [waits_acquired_self free isNew] at waits waitsToo
      exact waits.1.trans waitsToo.1.symm
    · rw [waits_acquired_other isTask] at waits waitsToo
      exact orderly.once other first second waits waitsToo

theorem orderly_released (orderly : Orderly state.queues) :
    Orderly (state.released lock task next).queues := by
  constructor
  · intro any
    by_cases same : any = lock
    · subst same
      rw [queues_released_self]
      exact LockQueue.nodup_release (orderly.distinct any)
    · rw [queues_released_other same]
      exact orderly.distinct any
  · intro other first second waits waitsToo
    exact orderly.once other first second (waits_of_waits_released waits)
      (waits_of_waits_released waitsToo)

theorem mem_queue_acquired {request : LockRequest} (isIn : request ∈ state.queues any) :
    request ∈ (state.acquired lock mode task next).queues any := by
  by_cases same : any = lock
  · subst same
    rw [queues_acquired_self]
    exact List.mem_append_left _ isIn
  · rwa [queues_acquired_other same]

theorem mem_queue_released {request : LockRequest} (isIn : request ∈ state.queues any)
    (remains : request.task ∈ ((state.released lock task next).queues any).tasks) :
    request ∈ (state.released lock task next).queues any := by
  obtain ⟨_, others⟩ := mem_tasks_released.mp remains
  by_cases same : any = lock
  · subst same
    rw [queues_released_self]
    have different : request.task ≠ task := fun isTask => others ⟨rfl, isTask⟩
    exact List.mem_filter.mpr ⟨isIn, decide_eq_true different⟩
  · rwa [queues_released_other same]

theorem sound_acquired (sound : Sound nests state) (found : state.tasks[task]? = some running)
    (free : ¬state.Blocked task) {rest : Unit → LockProgram Lock Reply Unit}
    (asks : running.program = .call (.acquire lock mode) rest) :
    Sound nests (state.acquired lock mode task { running with program := rest () }) := by
  obtain ⟨held, disciplined, heldIff⟩ := sound.held task running found
  rw [asks] at disciplined
  obtain ⟨⟨notHeld, nestsAll⟩, later⟩ := disciplined
  have isNew : task ∉ (state.queues lock).tasks := (heldIff lock).not.mp notHeld
  have inRange : task < state.tasks.length := (List.getElem?_eq_some_iff.mp found).1
  constructor
  · exact orderly_acquired sound.orderly free isNew
  · intro any other isIn
    rw [mem_tasks_acquired] at isIn
    simp only [acquired, List.length_set]
    exact isIn.elim (sound.known any other) fun both => both.2 ▸ inRange
  · intro other current isCurrent
    rcases found_of_set isCurrent with ⟨rfl, rfl⟩ | ⟨different, before⟩
    · refine ⟨lock :: held, later () trivial, ?_⟩
      intro any
      rw [mem_tasks_acquired, List.mem_cons, heldIff any]
      simp [or_comm]
    · obtain ⟨othersHeld, othersDisciplined, othersIff⟩ := sound.held other current before
      refine ⟨othersHeld, othersDisciplined, ?_⟩
      intro any
      rw [mem_tasks_acquired, othersIff any]
      simp [different]
  · intro other current any outer isCurrent waits holds
    rcases found_of_set isCurrent with ⟨rfl, rfl⟩ | ⟨different, before⟩
    · obtain ⟨rfl, _⟩ := (waits_acquired_self free isNew).mp waits
      by_cases same : outer = any
      · subst same
        exact absurd holds waits.2
      · have isHeld : outer ∈ held := by
          rw [queues_acquired_other same] at holds
          exact (heldIff outer).mpr (LockQueue.mem_tasks_of_holds holds)
        refine ⟨mode, nestsAll outer isHeld, ?_⟩
        rw [queues_acquired_self]
        exact List.mem_append_right _ (List.mem_singleton_self _)
    · rw [waits_acquired_other different] at waits
      rw [holds_acquired_other different] at holds
      obtain ⟨itsMode, itsNests, isIn⟩ :=
        sound.nested other current any outer before waits holds
      exact ⟨itsMode, itsNests, mem_queue_acquired isIn⟩

theorem sound_released (sound : Sound nests state) (found : state.tasks[task]? = some running)
    {rest : Unit → LockProgram Lock Reply Unit}
    (frees : running.program = .call (.release lock) rest) :
    Sound nests (state.released lock task { running with program := rest () }) := by
  obtain ⟨held, disciplined, heldIff⟩ := sound.held task running found
  rw [frees] at disciplined
  obtain ⟨_, later⟩ := disciplined
  constructor
  · exact orderly_released sound.orderly
  · intro any other isIn
    simp only [released, List.length_set]
    exact sound.known any other (mem_tasks_released.mp isIn).1
  · intro other current isCurrent
    rcases found_of_set isCurrent with ⟨rfl, rfl⟩ | ⟨different, before⟩
    · refine ⟨_, later () trivial, ?_⟩
      intro any
      rw [mem_tasks_released, ← heldIff any]
      simp [nesting]
    · obtain ⟨othersHeld, othersDisciplined, othersIff⟩ := sound.held other current before
      refine ⟨othersHeld, othersDisciplined, ?_⟩
      intro any
      rw [mem_tasks_released, othersIff any]
      simp [different]
  · intro other current any outer isCurrent waits holds
    have waited := waits_of_waits_released waits
    have held := holds_of_holds_released sound.orderly waits holds
    rcases found_of_set isCurrent with ⟨rfl, rfl⟩ | ⟨different, before⟩
    · obtain ⟨itsMode, itsNests, isIn⟩ := sound.nested other running any outer found waited held
      exact ⟨itsMode, itsNests, mem_queue_released isIn waits.1⟩
    · obtain ⟨itsMode, itsNests, isIn⟩ := sound.nested other current any outer before waited held
      exact ⟨itsMode, itsNests, mem_queue_released isIn waits.1⟩

theorem sound_used (sound : Sound nests state) (found : state.tasks[task]? = some running)
    {op : Op} {rest : Reply op → LockProgram Lock Reply Unit}
    (uses : running.program = .call (.use op) rest) (reply : Reply op) (world : World) :
    Sound nests { state with
      tasks := state.tasks.set task { running with program := rest reply }
      world := world } := by
  obtain ⟨held, disciplined, heldIff⟩ := sound.held task running found
  rw [uses] at disciplined
  refine ⟨sound.orderly, ?_, ?_, ?_⟩
  · intro any other isIn
    simpa using sound.known any other isIn
  · intro other current isCurrent
    rcases found_of_set isCurrent with ⟨rfl, rfl⟩ | ⟨different, before⟩
    · exact ⟨held, disciplined.2 reply trivial, heldIff⟩
    · exact sound.held other current before
  · intro other current any outer isCurrent waits holds
    rcases found_of_set isCurrent with ⟨rfl, rfl⟩ | ⟨different, before⟩
    · exact sound.nested other running any outer found waits holds
    · exact sound.nested other current any outer before waits holds

theorem sound_started (sound : Sound nests state) (call : Call)
    {program : LockProgram Lock Reply Unit} (disciplined : Disciplined (nests call) [] program) :
    Sound nests { state with tasks := state.tasks ++ [⟨call, program⟩] } := by
  refine ⟨sound.orderly, ?_, ?_, ?_⟩
  · intro any other isIn
    rw [List.length_append]
    exact Nat.lt_add_right _ (sound.known any other isIn)
  · intro other current isCurrent
    rcases Nat.lt_or_ge other state.tasks.length with old | new
    · rw [List.getElem?_append_left old] at isCurrent
      exact sound.held other current isCurrent
    · rw [List.getElem?_append_right new] at isCurrent
      have same := List.mem_singleton.mp (List.mem_of_getElem? isCurrent)
      subst same
      refine ⟨[], disciplined, fun any => iff_of_false List.not_mem_nil ?_⟩
      exact fun isIn => absurd (sound.known any other isIn) (Nat.not_lt.mpr new)
  · intro other current any outer isCurrent waits holds
    have inRange := sound.known any other waits.1
    rw [List.getElem?_append_left inRange] at isCurrent
    exact sound.nested other current any outer isCurrent waits holds

/-! ## The step that closes a pair -/

/-- Were the task, which holds the one lock, to ask for the other, it would wait for a task that
waits for it. -/
def Closes (state : LockState Call Lock Reply World) (task : Nat) (held asked : Lock)
    (mode : LockMode) : Prop :=
  (state.queues held).Holds task ∧ ¬(state.queues asked).Admits mode ∧
    ∃ second, (state.queues asked).Holds second ∧ (state.queues held).Waits second

/-- A pair of which the one that has asked is a part. -/
theorem closes_of_crossed_first {held asked : Lock} (different : held ≠ asked)
    (free : ¬state.Blocked task) (isNew : task ∉ (state.queues lock).tasks) {second : Nat}
    (holds : ((state.acquired lock mode task next).queues held).Holds task)
    (waits : ((state.acquired lock mode task next).queues asked).Waits task)
    (holdsOther : ((state.acquired lock mode task next).queues asked).Holds second)
    (waitsOther : ((state.acquired lock mode task next).queues held).Waits second) :
    lock = asked ∧ state.Closes task held asked mode := by
  obtain ⟨rfl, refused⟩ := (waits_acquired_self free isNew).mp waits
  have notTask : second ≠ task := fun same => waits.2 (same ▸ holdsOther)
  rw [queues_acquired_other different] at holds
  rw [holds_acquired_other notTask] at holdsOther
  rw [waits_acquired_other notTask] at waitsOther
  exact ⟨rfl, holds, refused, second, holdsOther, waitsOther⟩

theorem crossed_of_closes {held : Lock} (free : ¬state.Blocked task)
    (isNew : task ∉ (state.queues lock).tasks) (closes : state.Closes task held lock mode) :
    Crossed (state.acquired lock mode task next).queues held lock := by
  obtain ⟨holds, refused, second, holdsOther, waitsOther⟩ := closes
  have notTask : second ≠ task :=
    fun same => isNew (same ▸ LockQueue.mem_tasks_of_holds holdsOther)
  refine ⟨task, second, holds_acquired_of_holds holds, ?_, holds_acquired_of_holds holdsOther, ?_⟩
  · exact (waits_acquired_self free isNew).mpr ⟨rfl, refused⟩
  · exact (waits_acquired_other notTask).mpr waitsOther

theorem crossed_acquired_iff {first second : Lock} (different : first ≠ second)
    (apart : ¬Crossed state.queues first second) (free : ¬state.Blocked task)
    (isNew : task ∉ (state.queues lock).tasks) :
    Crossed (state.acquired lock mode task next).queues first second ↔
      lock = second ∧ state.Closes task first second mode ∨
        lock = first ∧ state.Closes task second first mode := by
  constructor
  · rintro ⟨one, two, holds, waits, holdsOther, waitsOther⟩
    by_cases isOne : one = task
    · subst isOne
      exact Or.inl (closes_of_crossed_first different free isNew holds waits holdsOther waitsOther)
    · by_cases isTwo : two = task
      · subst isTwo
        exact Or.inr
          (closes_of_crossed_first different.symm free isNew holdsOther waitsOther holds waits)
      · rw [holds_acquired_other isOne] at holds
        rw [waits_acquired_other isOne] at waits
        rw [holds_acquired_other isTwo] at holdsOther
        rw [waits_acquired_other isTwo] at waitsOther
        exact absurd ⟨one, two, holds, waits, holdsOther, waitsOther⟩ apart
  · rintro (⟨rfl, closes⟩ | ⟨rfl, closes⟩)
    · exact crossed_of_closes free isNew closes
    · exact crossed_comm.mp (crossed_of_closes free isNew closes)

theorem not_crossed_released (orderly : Orderly state.queues) {first second : Lock}
    (apart : ¬Crossed state.queues first second) :
    ¬Crossed (state.released lock task next).queues first second := by
  rintro ⟨one, two, holds, waits, holdsOther, waitsOther⟩
  refine apart ⟨one, two, ?_, waits_of_waits_released waits, ?_,
    waits_of_waits_released waitsOther⟩
  · exact holds_of_holds_released orderly waits holds
  · exact holds_of_holds_released orderly waitsOther holdsOther

/-- The task makes a call that asks for the lock. -/
def Asks (state : LockState Call Lock Reply World) (task : Nat) (lock : Lock)
    (mode : LockMode) : Prop :=
  ¬state.Blocked task ∧ ∃ running rest, state.tasks[task]? = some running ∧
    running.program = .call (.acquire lock mode) rest

/-- A task that asks for a lock nests it in those that it holds. -/
theorem nests_of_asks (sound : Sound nests state) (found : state.tasks[task]? = some running)
    (asks : state.Asks task lock mode) {outer : Lock} (holds : (state.queues outer).Holds task) :
    nests running.call outer lock mode := by
  obtain ⟨_, current, rest, isFound, asked⟩ := asks
  cases found.symm.trans isFound
  obtain ⟨held, disciplined, heldIff⟩ := sound.held task running found
  rw [asked] at disciplined
  exact disciplined.1.2 outer ((heldIff outer).mpr (LockQueue.mem_tasks_of_holds holds))

theorem found_of_holds (sound : Sound nests state) (holds : (state.queues any).Holds task) :
    ∃ running, state.tasks[task]? = some running :=
  ⟨_, List.getElem?_eq_getElem (sound.known any task (LockQueue.mem_tasks_of_holds holds))⟩

/-! ## Runs -/

theorem sound_initial (world : World) : Sound nests
    (⟨fun _ => [], [], world⟩ : LockState Call Lock Reply World) := by
  refine ⟨⟨fun _ => List.nodup_nil, ?_⟩, ?_, ?_, ?_⟩
  · intro task lock other waits
    exact absurd waits.1 List.not_mem_nil
  · intro lock task isIn
    exact absurd isIn List.not_mem_nil
  · intro task running found
    cases found
  · intro task running lock outer found
    cases found

section Runs

variable [Fintype Lock] {handle : (op : Op) → World → Reply op × World}
  {program : Call → LockProgram Lock Reply Unit}

theorem step_of_free (found : state.tasks[task]? = some running) (free : ¬state.Blocked task) :
    state.step handle program (.step task) = state.advance handle task running := by
  simp only [step, found, if_neg free]

variable (state handle program) in
/-- All that a step of a task can be. -/
theorem step_cases (task : Nat) :
    (state.step handle program (.step task) = state ∧ ∀ lock mode, ¬state.Asks task lock mode) ∨
    ∃ running, state.tasks[task]? = some running ∧ ¬state.Blocked task ∧
      ((∃ lock mode rest, running.program = .call (.acquire lock mode) rest ∧
        state.step handle program (.step task) =
          state.acquired lock mode task { running with program := rest () }) ∨
      (∀ lock mode, ¬state.Asks task lock mode) ∧
        ((∃ lock rest, running.program = .call (.release lock) rest ∧
          state.step handle program (.step task) =
            state.released lock task { running with program := rest () }) ∨
        ∃ op rest, running.program = .call (.use op) rest ∧
          state.step handle program (.step task) =
            { state with
              tasks := state.tasks.set task
                { running with program := rest (handle op state.world).1 }
              world := (handle op state.world).2 })) := by
  cases found : state.tasks[task]? with
  | none =>
      refine Or.inl ⟨by simp only [step, found], ?_⟩
      rintro lock mode ⟨_, running, _, isFound, _⟩
      cases found.symm.trans isFound
  | some running =>
      by_cases blocked : state.Blocked task
      · refine Or.inl ⟨by simp only [step, found, if_pos blocked], ?_⟩
        exact fun lock mode asks => asks.1 blocked
      have asksOnly : ∀ lock mode, state.Asks task lock mode →
          ∃ rest, running.program = .call (.acquire lock mode) rest := by
        rintro lock mode ⟨_, current, rest, isFound, asks⟩
        cases found.symm.trans isFound
        exact ⟨rest, asks⟩
      rw [step_of_free found blocked]
      unfold advance
      cases runs : running.program with
      | done result =>
          refine Or.inl ⟨rfl, ?_⟩
          intro lock mode asks
          obtain ⟨rest, other⟩ := asksOnly lock mode asks
          cases runs.symm.trans other
      | call op rest =>
          refine Or.inr ⟨running, rfl, blocked, ?_⟩
          cases op with
          | acquire lock mode => exact Or.inl ⟨lock, mode, rest, runs, rfl⟩
          | release lock =>
              refine Or.inr ⟨?_, Or.inl ⟨lock, rest, runs, rfl⟩⟩
              intro other mode asks
              obtain ⟨rest, asked⟩ := asksOnly other mode asks
              cases runs.symm.trans asked
          | use op =>
              refine Or.inr ⟨?_, Or.inr ⟨op, rest, runs, rfl⟩⟩
              intro other mode asks
              obtain ⟨rest, asked⟩ := asksOnly other mode asks
              cases runs.symm.trans asked

theorem sound_step (disciplined : ∀ call, Keeps (nests call) [] (program call))
    (sound : Sound nests state) (move : LockMove Call) :
    Sound nests (state.step handle program move) := by
  cases move with
  | start call => exact sound_started sound call (disciplined call)
  | step task =>
      obtain ⟨same, _⟩ | ⟨running, found, free, acquires | ⟨_, releases | uses⟩⟩ :=
        step_cases state handle program task
      · rwa [same]
      · obtain ⟨lock, mode, rest, asks, next⟩ := acquires
        rw [next]
        exact sound_acquired sound found free asks
      · obtain ⟨lock, rest, frees, next⟩ := releases
        rw [next]
        exact sound_released sound found frees
      · obtain ⟨op, rest, uses, next⟩ := uses
        rw [next]
        exact sound_used sound found uses _ _

/-- The task asks for a lock that closes a pair. -/
def Crosses (state : LockState Call Lock Reply World) (first second : Lock)
    (move : LockMove Call) : Prop :=
  ∃ task mode, move = .step task ∧
    (state.Asks task second mode ∧ state.Closes task first second mode ∨
      state.Asks task first mode ∧ state.Closes task second first mode)

/-- From a state without a pair a step leads to one exactly if it closes the pair. -/
theorem crossed_step_iff (sound : Sound nests state) {first second : Lock}
    (different : first ≠ second) (apart : ¬Crossed state.queues first second)
    (move : LockMove Call) :
    Crossed (state.step handle program move).queues first second ↔
      state.Crosses first second move := by
  have silent : ∀ task, (∀ lock mode, ¬state.Asks task lock mode) →
      ¬state.Crosses first second (.step task) := by
    rintro task none ⟨_, mode, ⟨⟩, asks | asks⟩
    · exact none _ mode asks.1
    · exact none _ mode asks.1
  cases move with
  | start call => exact iff_of_false apart (by rintro ⟨_, _, ⟨⟩, _⟩)
  | step task =>
      obtain ⟨same, none⟩ | ⟨running, found, free, acquires | ⟨none, releases | uses⟩⟩ :=
        step_cases state handle program task
      · rw [same]
        exact iff_of_false apart (silent task none)
      · obtain ⟨lock, mode, rest, asks, next⟩ := acquires
        obtain ⟨held, disciplined, heldIff⟩ := sound.held task running found
        rw [asks] at disciplined
        have isNew : task ∉ (state.queues lock).tasks :=
          (heldIff lock).not.mp disciplined.1.1
        rw [next, crossed_acquired_iff different apart free isNew]
        have itAsks : state.Asks task lock mode := ⟨free, running, rest, found, asks⟩
        have onlyThis : ∀ other otherMode, state.Asks task other otherMode →
            lock = other ∧ mode = otherMode := by
          rintro other otherMode ⟨_, current, later, isFound, asked⟩
          cases found.symm.trans isFound
          cases asks.symm.trans asked
          exact ⟨rfl, rfl⟩
        constructor
        · rintro (⟨rfl, closes⟩ | ⟨rfl, closes⟩)
          · exact ⟨task, mode, rfl, Or.inl ⟨itAsks, closes⟩⟩
          · exact ⟨task, mode, rfl, Or.inr ⟨itAsks, closes⟩⟩
        · rintro ⟨_, otherMode, ⟨⟩, ⟨asked, closes⟩ | ⟨asked, closes⟩⟩
          · obtain ⟨rfl, rfl⟩ := onlyThis _ _ asked
            exact Or.inl ⟨rfl, closes⟩
          · obtain ⟨rfl, rfl⟩ := onlyThis _ _ asked
            exact Or.inr ⟨rfl, closes⟩
      · obtain ⟨lock, rest, frees, next⟩ := releases
        rw [next]
        exact iff_of_false (not_crossed_released sound.orderly apart) (silent task none)
      · obtain ⟨op, rest, uses, next⟩ := uses
        rw [next]
        exact iff_of_false apart (silent task none)

variable (handle) in
/-- A run of programs over two locks has no deadlock exactly if no step of it closes a pair. -/
theorem never_deadlocked_iff (disciplined : ∀ call, Keeps (nests call) [] (program call))
    {first second : Lock} (different : first ≠ second)
    (two : ∀ any : Lock, any = first ∨ any = second) (moves : List (LockMove Call))
    (sound : Sound nests state) (apart : ¬Deadlocked state.queues) :
    Always (step handle program) (fun state => ¬Deadlocked state.queues) state moves ↔
      EachMove (step handle program) (fun state move => ¬state.Crosses first second move)
        state moves := by
  apply always_iff_each_move_within _ (Sound nests) _ _ _ _ moves state sound apart
  · exact fun state move sound => sound_step disciplined sound move
  · intro state move sound apart
    have next : Sound nests (state.step handle program move) := sound_step disciplined sound move
    rw [deadlocked_iff_crossed sound.orderly different two] at apart
    rw [deadlocked_iff_crossed next.orderly different two,
      crossed_step_iff sound different apart move]

end Runs

end LockState

end HodeiJobs.Library
