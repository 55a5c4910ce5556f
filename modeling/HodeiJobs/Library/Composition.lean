import HodeiJobs.Library.Protocol

/-!
# Programs inside programs

A call of one program may itself be a program over a finer service: `expand` puts
it in its place, and `cut` stops a program early. `crash` is the world that a
program leaves behind when its process ends after some of its calls. The rules for
`Settles` check an expanded program without expanding it.
-/

namespace HodeiJobs.Library.Program

variable {Op : Type} {Reply : Op → Type} {Call : Type} {Answer : Call → Type}
  {Memory World Env Result Other Failure : Type}

/-! ## Expansion -/

/-- Every call replaced by the program that it means. -/
def expand (meaning : (op : Op) → Program Call Answer (Reply op)) :
    Program Op Reply Result → Program Call Answer Result
  | .done result => .done result
  | .call op next => meaning op >>= fun reply => expand meaning (next reply)

theorem expand_bind (meaning : (op : Op) → Program Call Answer (Reply op))
    (program : Program Op Reply Result) (next : Result → Program Op Reply Other) :
    expand meaning (program >>= next) =
      expand meaning program >>= fun result => expand meaning (next result) := by
  induction program with
  | done result => rfl
  | call op rest ih =>
      show (meaning op >>= fun reply => expand meaning (rest reply >>= next)) =
        (meaning op >>= fun reply => expand meaning (rest reply)) >>= _
      rw [LawfulMonad.bind_assoc]
      congr 1
      funext reply
      exact ih reply

/-- The program with at most `limit` calls, and its result if it got to it. -/
def cut : Nat → Program Op Reply Result → Program Op Reply (Option Result)
  | _, .done result => .done (some result)
  | 0, .call _ _ => .done none
  | limit + 1, .call op next => .call op fun reply => cut limit (next reply)

/-- A program under a limit, if there is one. -/
def within (limit : Option Nat) (program : Program Op Reply Result) :
    Program Op Reply (Option Result) :=
  match limit with
  | some limit => cut limit program
  | none => some <$> program

/-! ## A process that ends early -/

/-- One environment for each call that is still answered. -/
def crash (handle : Env → (op : Op) → World → Reply op × World) :
    Program Op Reply Result → List Env → World → World
  | .call op next, env :: later, world =>
      crash handle (next (handle env op world).1) later (handle env op world).2
  | _, _, world => world

theorem crash_nil (handle : Env → (op : Op) → World → Reply op × World)
    (program : Program Op Reply Result) (world : World) :
    crash handle program [] world = world := by
  cases program <;> rfl

/-- A first part that is answered to its end. -/
theorem crash_bind (handle : Env → (op : Op) → World → Reply op × World) (env : Env)
    (program : Program Op Reply Result) (next : Result → Program Op Reply Other) (world : World) :
    ∃ count, ∀ later, crash handle (program >>= next) (List.replicate count env ++ later) world =
      crash handle (next (run (handle env) program world).1) later
        (run (handle env) program world).2 := by
  induction program generalizing world with
  | done result => exact ⟨0, fun later => rfl⟩
  | call op rest ih =>
      obtain ⟨count, reaches⟩ := ih (handle env op world).1 (handle env op world).2
      exact ⟨count + 1, reaches⟩

variable (protocol : Protocol Op Reply Memory)

/-- The invariant rule for a process that ends anywhere: what every allowed call
keeps holds of the world it leaves. -/
theorem obeys_crash (handle : Env → (op : Op) → World → Reply op × World)
    (invariant : Memory → World → Prop) {ends : Memory → Result → Prop}
    (kept : ∀ env memory op world, invariant memory world → protocol.allows memory op →
      protocol.answers op (handle env op world).1 ∧
        invariant (protocol.remember memory op (handle env op world).1) (handle env op world).2)
    (program : Program Op Reply Result) (envs : List Env) (memory : Memory) (world : World)
    (obeys : Obeys protocol ends program memory) (start : invariant memory world) :
    ∃ last, invariant last (crash handle program envs world) := by
  induction envs generalizing program memory world with
  | nil =>
      rw [crash_nil]
      exact ⟨memory, start⟩
  | cons env later ih =>
      cases program with
      | done result => exact ⟨memory, start⟩
      | call op next =>
          obtain ⟨answered, holds⟩ := kept env memory op world start obeys.1
          exact ih (next (handle env op world).1) _ _ (obeys.2 _ answered) holds

/-- What may be cut off anywhere needs no end for that. -/
theorem obeys_cut {ends : Memory → Result → Prop} (program : Program Op Reply Result)
    (limit : Nat) (memory : Memory) (obeys : Obeys protocol ends program memory) :
    Obeys protocol (fun memory result => ∀ value, result = some value → ends memory value)
      (cut limit program) memory := by
  induction program generalizing limit memory with
  | done result =>
      cases limit with
      | zero | succ limit =>
          intro value same
          cases same
          exact obeys
  | call op rest ih =>
      cases limit with
      | zero =>
          intro value same
          cases same
      | succ limit =>
          exact ⟨obeys.1, fun reply answered => ih reply limit _ (obeys.2 reply answered)⟩

/-! ## Checking an expanded program -/

variable {protocol : Protocol Call Answer Memory}
  (meaning : (op : Op) → Program Call Answer (Reply op))

/-- The end of a program that may fail. -/
def Ends (fails : Memory → Prop) (post : Memory → Result → Prop) (memory : Memory) :
    Except Failure Result → Prop
  | .ok result => post memory result
  | .error _ => fails memory

/-- The expanded program obeys the protocol; what it returns is as `post` says, and
it fails only where `fails` holds. -/
def Settles (protocol : Protocol Call Answer Memory) (fails : Memory → Prop)
    (post : Memory → Result → Prop) (program : ExceptT Failure (Program Op Reply) Result)
    (memory : Memory) : Prop :=
  Obeys protocol (Ends fails post) (expand meaning program.run) memory

variable {meaning} {fails : Memory → Prop}

theorem settles_pure {post : Memory → Result → Prop} {result : Result} {memory : Memory}
    (holds : post memory result) :
    Settles meaning protocol fails post
      (pure result : ExceptT Failure (Program Op Reply) Result) memory := holds

theorem settles_throw (post : Memory → Result → Prop) {failure : Failure} {memory : Memory}
    (holds : fails memory) :
    Settles meaning protocol fails post
      (throw failure : ExceptT Failure (Program Op Reply) Result) memory := holds

theorem settles_bind {middle : Memory → Result → Prop} {post : Memory → Other → Prop}
    {program : ExceptT Failure (Program Op Reply) Result}
    {next : Result → ExceptT Failure (Program Op Reply) Other} {memory : Memory}
    (first : Settles meaning protocol fails middle program memory)
    (rest : ∀ memory result, middle memory result →
      Settles meaning protocol fails post (next result) memory) :
    Settles meaning protocol fails post (program >>= next) memory := by
  unfold Settles
  rw [ExceptT.run_bind, expand_bind, obeys_bind]
  apply obeys_imp protocol _ _ memory first
  intro memory outcome held
  cases outcome with
  | ok result => exact rest memory result held
  | error failure => exact held

/-- A sequence, with the weakest condition on its first part. -/
theorem settles_seq {post : Memory → Other → Prop}
    {program : ExceptT Failure (Program Op Reply) Result}
    {next : Result → ExceptT Failure (Program Op Reply) Other} {memory : Memory}
    (first : Settles meaning protocol fails
      (fun memory result => Settles meaning protocol fails post (next result) memory) program
      memory) :
    Settles meaning protocol fails post (program >>= next) memory :=
  settles_bind first fun _ _ rest => rest

theorem settles_request {op : Op} {post : Memory → Reply op → Prop} {memory : Memory}
    (obeys : Obeys protocol post (meaning op) memory) :
    Settles meaning protocol fails post
      (ExceptT.lift (request op) : ExceptT Failure (Program Op Reply) _) memory := by
  have alone : expand meaning (request op) = meaning op := bind_done (meaning op)
  unfold Settles
  rw [ExceptT.run_lift, map_eq_pure_bind, expand_bind, alone, obeys_bind]
  exact obeys

theorem settles_catch {caught : Memory → Prop} {post : Memory → Result → Prop}
    {program : ExceptT Failure (Program Op Reply) Result}
    {recover : Failure → ExceptT Failure (Program Op Reply) Result} {memory : Memory}
    (first : Settles meaning protocol caught post program memory)
    (rest : ∀ memory failure, caught memory →
      Settles meaning protocol fails post (recover failure) memory) :
    Settles meaning protocol fails post (tryCatchThe Failure program recover) memory := by
  unfold Settles
  simp only [tryCatchThe, MonadExceptOf.tryCatch, ExceptT.tryCatch, ExceptT.run_mk]
  rw [expand_bind, obeys_bind]
  apply obeys_imp protocol _ _ memory first
  intro memory outcome held
  cases outcome with
  | ok result => exact held
  | error failure => exact rest memory failure held

theorem settles_adapt {Renamed : Type} (rename : Failure → Renamed)
    {post : Memory → Result → Prop} {program : ExceptT Failure (Program Op Reply) Result}
    {memory : Memory} (settles : Settles meaning protocol fails post program memory) :
    Settles meaning protocol fails post (ExceptT.adapt rename program) memory := by
  unfold Settles
  rw [ExceptT.run_adapt, map_eq_pure_bind, expand_bind, obeys_bind]
  apply obeys_imp protocol _ _ memory settles
  intro memory outcome held
  cases outcome <;> exact held

theorem settles_imp {weaker : Memory → Prop} {post other : Memory → Result → Prop}
    (failing : ∀ memory, fails memory → weaker memory)
    (implies : ∀ memory result, post memory result → other memory result)
    {program : ExceptT Failure (Program Op Reply) Result} {memory : Memory}
    (settles : Settles meaning protocol fails post program memory) :
    Settles meaning protocol weaker other program memory := by
  apply obeys_imp protocol _ _ memory settles
  intro memory outcome held
  cases outcome with
  | ok result => exact implies memory result held
  | error failure => exact failing memory held

/-- The expanded program keeps a property of the memory, and fails only under it. -/
def Maintains (meaning : (op : Op) → Program Call Answer (Reply op))
    (protocol : Protocol Call Answer Memory) (holds : Memory → Prop)
    (program : ExceptT Failure (Program Op Reply) Result) : Prop :=
  ∀ memory, holds memory →
    Settles meaning protocol holds (fun after _ => holds after) program memory

theorem maintains_pure (result : Result) :
    Maintains meaning protocol fails (pure result : ExceptT Failure (Program Op Reply) Result) :=
  fun _ held => held

theorem maintains_throw (failure : Failure) :
    Maintains meaning protocol fails (throw failure : ExceptT Failure (Program Op Reply) Result) :=
  fun _ held => held

theorem maintains_bind {program : ExceptT Failure (Program Op Reply) Result}
    {next : Result → ExceptT Failure (Program Op Reply) Other}
    (first : Maintains meaning protocol fails program)
    (rest : ∀ result, Maintains meaning protocol fails (next result)) :
    Maintains meaning protocol fails (program >>= next) :=
  fun memory held => settles_bind (first memory held) fun after result kept =>
    rest result after kept

theorem maintains_adapt {Renamed : Type} (rename : Failure → Renamed)
    {program : ExceptT Failure (Program Op Reply) Result}
    (maintains : Maintains meaning protocol fails program) :
    Maintains meaning protocol fails (ExceptT.adapt rename program) :=
  fun memory held => settles_adapt rename (maintains memory held)

end HodeiJobs.Library.Program
