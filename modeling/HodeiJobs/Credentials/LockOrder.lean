import HodeiJobs.Credentials.Registry

/-!
# The order in which the registry locks

Two kinds of calls hold one lock and ask for the other: `register` and `unregister` the default's
and then the providers', `set_default_provider`, `get_secret` and `stats` the providers' and then
the default's. A reader of the providers only waits when a writer is queued before it.
-/

namespace HodeiJobs.Credentials

open Library

def Registers {Provider : Type} : RegistryCall Provider → Prop
  | .register _ _ | .unregister _ => True
  | _ => False

def LooksUp {Provider : Type} : RegistryCall Provider → Prop
  | .setDefaultProvider _ | .getSecret _ | .stats => True
  | _ => False

/-- The locks that a call asks for while it holds another one. -/
def nests {Provider : Type} (call : RegistryCall Provider) (outer lock : RegistryLock)
    (mode : LockMode) : Prop :=
  outer = .default ∧ lock = .providers ∧ mode = .read ∧ Registers call ∨
    outer = .providers ∧ lock = .default ∧ LooksUp call

variable {Provider Secret Result : Type} {allowed : RegistryLock → RegistryLock → LockMode → Prop}
  {held : List RegistryLock}

theorem keeps_reading {lock : RegistryLock} {body : RegistryProgram Provider Secret Result}
    (isNew : lock ∉ held) (inner : ∀ outer ∈ held, allowed outer lock .read)
    (keeps : Keeps allowed (lock :: held) body) : Keeps allowed held (reading lock body) :=
  keeps_locked isNew inner keeps

theorem keeps_writing {lock : RegistryLock} {body : RegistryProgram Provider Secret Result}
    (isNew : lock ∉ held) (inner : ∀ outer ∈ held, allowed outer lock .write)
    (keeps : Keeps allowed (lock :: held) body) : Keeps allowed held (writing lock body) :=
  keeps_locked isNew inner keeps

theorem keeps_perform (op : RegistryOp Provider) :
    Keeps allowed held (perform op : RegistryProgram Provider Secret _) := keeps_use op

theorem keeps_select_new_default (isNew : RegistryLock.providers ∉ held)
    (inner : ∀ outer ∈ held, allowed outer .providers .read) :
    Keeps allowed held (selectNewDefault : RegistryProgram Provider Secret (Option String)) := by
  apply keeps_reading isNew inner
  exact keeps_bind (keeps_perform _) fun _ => keeps_pure _

theorem keeps_register (provider : Provider) (config : CredentialProviderConfig) :
    Keeps (nests (.register provider config)) []
      (register provider config : RegistryProgram Provider Secret Unit) := by
  refine keeps_bind (keeps_writing (by simp) (by simp) (keeps_perform _)) fun _ => ?_
  split_ifs
  · refine keeps_writing (by simp) (by simp) (keeps_bind (keeps_perform _) fun current => ?_)
    refine keeps_bind ?_ fun should => ?_
    · cases current with
      | none => exact keeps_pure _
      | some name =>
          refine keeps_reading (by simp) (by simp [nests, Registers]) ?_
          exact keeps_bind (keeps_perform _) fun found => keeps_pure _
    · split_ifs
      · exact keeps_perform _
      · exact keeps_pure _
  · exact keeps_pure _

theorem keeps_unregister (name : String) :
    Keeps (nests (.unregister name : RegistryCall Provider)) []
      (unregister name : RegistryProgram Provider Secret _) := by
  refine keeps_bind (keeps_writing (by simp) (by simp) (keeps_perform _)) fun removed => ?_
  split_ifs
  · refine keeps_bind (keeps_writing (by simp) (by simp) ?_) fun _ => keeps_pure _
    refine keeps_bind (keeps_perform _) fun current => ?_
    split_ifs
    · refine keeps_bind (keeps_select_new_default (by simp) (by simp [nests, Registers])) fun _ => ?_
      exact keeps_perform _
    · exact keeps_pure _
  · exact keeps_pure _

theorem keeps_set_default_provider (name : String) :
    Keeps (nests (.setDefaultProvider name : RegistryCall Provider)) []
      (setDefaultProvider name : RegistryProgram Provider Secret _) := by
  refine keeps_reading (by simp) (by simp) (keeps_bind (keeps_perform _) fun found => ?_)
  cases found with
  | none => exact keeps_pure _
  | some registered =>
      refine keeps_bind (keeps_writing (by simp) (by simp [nests, LooksUp]) (keeps_perform _)) fun _ => ?_
      exact keeps_pure _

theorem keeps_get_default_provider :
    Keeps allowed []
      (getDefaultProvider : RegistryProgram Provider Secret _) := by
  refine keeps_bind (keeps_reading (by simp) (by simp) (keeps_perform _)) fun current => ?_
  cases current with
  | none => exact keeps_pure _
  | some name => exact keeps_reading (by simp) (by simp) (keeps_perform _)

theorem keeps_get_fallback_providers (nested : allowed .providers .default .read) :
    Keeps allowed [] (getFallbackProviders : RegistryProgram Provider Secret _) := by
  refine keeps_reading (by simp) (by simp) ?_
  refine keeps_bind (keeps_reading (by simp) (by simpa using nested) (keeps_perform _)) fun _ => ?_
  exact keeps_bind (keeps_perform _) fun _ => keeps_pure _

theorem keeps_ask_fallbacks (key : String) (fallbacks : List (RegisteredProvider Provider)) :
    Keeps allowed held (askFallbacks key fallbacks : RegistryProgram Provider Secret _) := by
  induction fallbacks with
  | nil => exact keeps_pure _
  | cons fallback rest ih =>
      refine keeps_bind (keeps_perform _) fun answer => ?_
      cases answer with
      | ok secret => exact keeps_pure _
      | error error =>
          dsimp only
          split_ifs
          · exact ih
          · exact keeps_pure _

theorem keeps_get_secret (key : String) :
    Keeps (nests (.getSecret key : RegistryCall Provider)) []
      (getSecret key : RegistryProgram Provider Secret _) := by
  have afterwards : Keeps (nests (.getSecret key : RegistryCall Provider)) []
      (getFallbackProviders >>= askFallbacks key : RegistryProgram Provider Secret _) :=
    keeps_bind (keeps_get_fallback_providers (Or.inr ⟨rfl, rfl, trivial⟩)) fun _ => keeps_ask_fallbacks key _
  refine keeps_bind keeps_get_default_provider fun found => ?_
  cases found with
  | none => exact afterwards
  | some provider =>
      refine keeps_bind (keeps_perform _) fun answer => ?_
      cases answer with
      | ok secret => exact keeps_pure _
      | error error =>
          dsimp only
          split_ifs
          · exact afterwards
          · exact keeps_pure _

theorem keeps_update_health_status (name : String) (healthy : Bool) :
    Keeps allowed [] (updateHealthStatus name healthy : RegistryProgram Provider Secret _) := by
  refine keeps_bind (keeps_writing (by simp) (by simp) (keeps_perform _)) fun _ => ?_
  split_ifs
  · refine keeps_bind (keeps_reading (by simp) (by simp) (keeps_perform _)) fun current => ?_
    split_ifs
    · refine keeps_bind (keeps_select_new_default (by simp) (by simp)) fun newDefault => ?_
      split_ifs
      · exact keeps_writing (by simp) (by simp) (keeps_perform _)
      · exact keeps_pure _
    · exact keeps_pure _
  · exact keeps_pure _

theorem keeps_health_check_all :
    Keeps allowed [] (healthCheckAll : RegistryProgram Provider Secret _) := by
  refine keeps_bind (keeps_reading (by simp) (by simp) ?_) fun results => ?_
  · refine keeps_bind (keeps_perform _) fun entries => keeps_map_m (fun entry => ?_) entries
    exact keeps_bind (keeps_perform _) fun _ => keeps_pure _
  · refine keeps_bind (keeps_perform _) fun ordered => ?_
    refine keeps_bind (keeps_for_m (fun result => ?_) ordered) fun _ => keeps_pure _
    exact keeps_update_health_status result.1 result.2.isOk

theorem keeps_stats : Keeps (nests (.stats : RegistryCall Provider)) []
    (stats : RegistryProgram Provider Secret _) := by
  refine keeps_reading (by simp) (by simp) (keeps_bind (keeps_perform _) fun entries => ?_)
  refine keeps_bind (keeps_reading (by simp) (by simp [nests, LooksUp]) (keeps_perform _)) fun _ => ?_
  exact keeps_pure _

/-- What each call nests. -/
theorem keeps_program (call : RegistryCall Provider) :
    Keeps (nests call) [] (call.program Secret) := by
  cases call with
  | register provider config => exact keeps_register provider config
  | unregister name => exact keeps_bind (keeps_unregister name) fun _ => keeps_pure _
  | setDefaultProvider name =>
      exact keeps_bind (keeps_set_default_provider name) fun _ => keeps_pure _
  | getSecret key => exact keeps_bind (keeps_get_secret key) fun _ => keeps_pure _
  | stats => exact keeps_bind keeps_stats fun _ => keeps_pure _
  | healthCheckAll => exact keeps_bind keeps_health_check_all fun _ => keeps_pure _

/-! ## Deadlocks -/

abbrev RegistryState (Provider Secret : Type) : Type :=
  LockState (RegistryCall Provider) RegistryLock (RegistryReply Provider Secret)
    (World Provider Secret)

namespace RegistryState

def step (state : RegistryState Provider Secret) (move : LockMove (RegistryCall Provider)) :
    RegistryState Provider Secret :=
  LockState.step RegistryOp.handle (RegistryCall.program Secret) state move

def initial (world : World Provider Secret) : RegistryState Provider Secret :=
  ⟨fun _ => [], [], world⟩

end RegistryState

variable (state : RegistryState Provider Secret)

def IsCallOf (kind : RegistryCall Provider → Prop) (task : Nat) : Prop :=
  ∃ running, state.tasks[task]? = some running ∧ kind running.call

/-- A `register` or `unregister` that holds the default's lock asks to read the providers behind a
writer, while a look-up that holds the providers' lock waits for the default's. -/
def RegistrationInterlocks (task : Nat) : Prop :=
  IsCallOf state Registers task ∧ (state.queues .default).Holds task ∧
    state.Asks task .providers .read ∧
    (∃ request ∈ state.queues .providers, request.mode = .write) ∧
    ∃ second, IsCallOf state LooksUp second ∧ (state.queues .providers).Holds second ∧
      (state.queues .default).Waits second

/-- A look-up that holds the providers' lock asks for the default's, which it does not get at once,
while a `register` or `unregister` that holds that one waits for the providers'. -/
def LookUpInterlocks (task : Nat) : Prop :=
  IsCallOf state LooksUp task ∧ (state.queues .providers).Holds task ∧
    (∃ mode, state.Asks task .default mode ∧ ¬(state.queues .default).Admits mode) ∧
    ∃ second, IsCallOf state Registers second ∧ (state.queues .default).Holds second ∧
      (state.queues .providers).Waits second

def Interlocks (move : LockMove (RegistryCall Provider)) : Prop :=
  ∃ task, move = .step task ∧ (RegistrationInterlocks state task ∨ LookUpInterlocks state task)

variable {state}

theorem registration_interlocks_iff (sound : LockState.Sound nests state) (task : Nat) :
    RegistrationInterlocks state task ↔ ∃ mode, state.Asks task .providers mode ∧
      state.Closes task .default .providers mode := by
  constructor
  · rintro ⟨_, holds, asks, writer, second, _, holdsOther, waits⟩
    have refused : ¬(state.queues .providers).Admits .read :=
      (LockQueue.not_admits_read_iff (LockQueue.mem_tasks_of_holds holdsOther)).mpr writer
    exact ⟨.read, asks, holds, refused, second, holdsOther, waits⟩
  · rintro ⟨mode, asks, holds, refused, second, holdsOther, waits⟩
    obtain ⟨running, found⟩ := LockState.found_of_holds sound holds
    obtain ⟨other, foundOther⟩ := LockState.found_of_holds sound holdsOther
    obtain ⟨_, _, rfl, registers⟩ | ⟨none, _⟩ := LockState.nests_of_asks sound found asks holds
    · have writer := (LockQueue.not_admits_read_iff
        (LockQueue.mem_tasks_of_holds holdsOther)).mp refused
      obtain ⟨_, ⟨none, _⟩ | ⟨_, _, looksUp⟩, _⟩ :=
        sound.nested second other .default .providers foundOther waits holdsOther
      · cases none
      · exact ⟨⟨running, found, registers⟩, holds, asks, writer, second,
          ⟨other, foundOther, looksUp⟩, holdsOther, waits⟩
    · cases none

theorem look_up_interlocks_iff (sound : LockState.Sound nests state) (task : Nat) :
    LookUpInterlocks state task ↔ ∃ mode, state.Asks task .default mode ∧
      state.Closes task .providers .default mode := by
  constructor
  · rintro ⟨_, holds, ⟨mode, asks, refused⟩, second, _, holdsOther, waits⟩
    exact ⟨mode, asks, holds, refused, second, holdsOther, waits⟩
  · rintro ⟨mode, asks, holds, refused, second, holdsOther, waits⟩
    obtain ⟨running, found⟩ := LockState.found_of_holds sound holds
    obtain ⟨other, foundOther⟩ := LockState.found_of_holds sound holdsOther
    obtain ⟨none, _⟩ | ⟨_, _, looksUp⟩ := LockState.nests_of_asks sound found asks holds
    · cases none
    · obtain ⟨_, ⟨_, _, _, registers⟩ | ⟨none, _⟩, _⟩ :=
        sound.nested second other .providers .default foundOther waits holdsOther
      · exact ⟨⟨running, found, looksUp⟩, holds, ⟨mode, asks, refused⟩, second,
          ⟨other, foundOther, registers⟩, holdsOther, waits⟩
      · cases none

theorem interlocks_iff_crosses (sound : LockState.Sound nests state)
    (move : LockMove (RegistryCall Provider)) :
    Interlocks state move ↔ state.Crosses .providers .default move := by
  unfold Interlocks LockState.Crosses
  refine exists_congr fun task => ?_
  rw [exists_and_left, registration_interlocks_iff sound, look_up_interlocks_iff sound, or_comm,
    exists_or]

/-- Concurrent calls do not deadlock exactly if no registration interlocks with a look-up. -/
theorem registry_never_deadlocks_iff (world : World Provider Secret)
    (moves : List (LockMove (RegistryCall Provider))) :
    Always RegistryState.step (fun state => ¬Deadlocked state.queues)
        (RegistryState.initial world) moves ↔
      EachMove RegistryState.step (fun state move => ¬Interlocks state move)
        (RegistryState.initial world) moves := by
  have sound : LockState.Sound nests (RegistryState.initial world) :=
    LockState.sound_initial world
  have apart : ¬Deadlocked (RegistryState.initial world).queues := by
    rintro ⟨calls, ⟨task, isCall⟩, each⟩
    obtain ⟨lock, waits, _⟩ := each task isCall
    exact List.not_mem_nil waits.1
  have two : ∀ any : RegistryLock, any = .providers ∨ any = .default := by decide
  have exact := LockState.never_deadlocked_iff RegistryOp.handle keeps_program
    (by decide) two moves sound apart
  unfold RegistryState.step
  rw [exact]
  apply each_move_congr_within _ (LockState.Sound nests) _ _ moves _ sound
  · intro state move sound
    exact not_congr (interlocks_iff_crosses sound move).symm
  · intro state move sound _
    exact LockState.sound_step keeps_program sound move

/-! A registry whose providers all work, with hash maps in the order of insertion. -/

def inOrder (Entry : Type) : Iteration Entry := ⟨id, fun entries => List.Perm.refl entries⟩

def freshWorld : World Unit Unit where
  registry := .new
  outside :=
    { providersOrder := fun _ => inOrder _
      resultsOrder := fun _ => inOrder _
      health := fun _ _ => .ok ()
      secrets := fun _ _ _ => .ok () }
  iterations := 0
  checks := 0
  asked := []

def registration (name : String) : RegistryCall Unit := .register () ⟨name, true, 0, false⟩

/-- `stats` holds the providers' lock, the second registration the default's, and the third one
waits for the providers' lock when the second and then `stats` ask for what the other one has. -/
def interlockedRun : List (LockMove (RegistryCall Unit)) :=
  .start (registration "a") :: List.replicate 7 (.step 0) ++
    .start (registration "b") :: List.replicate 5 (.step 1) ++
    [.start .stats, .step 2, .step 2, .start (registration "c"), .step 3, .step 1, .step 2]

theorem registry_deadlocks :
    ¬Always RegistryState.step (fun state => ¬Deadlocked state.queues)
      (RegistryState.initial freshWorld) interlockedRun := by
  intro always
  refine always_final _ _ _ always ⟨{1, 2}, ⟨1, by simp⟩, ?_⟩
  rintro task (rfl | rfl)
  · exact ⟨.providers, by decide, 2, by simp, Or.inl (by decide +kernel)⟩
  · exact ⟨.default, by decide, 1, by simp, Or.inl (by decide +kernel)⟩

end HodeiJobs.Credentials
