import HodeiJobs.Library.Program

/-!
# Protocols of a client

What a client may call, given what the replies so far told it. A program obeys
a protocol when every call it can come to is allowed, for all replies that the
service can give. The rule for a sequence is an equivalence, so a program is
checked by taking it apart.
-/

namespace HodeiJobs.Library

structure Protocol (Op : Type) (Reply : Op → Type) (Memory : Type) where
  /-- The replies that the service can give. -/
  answers : (op : Op) → Reply op → Prop
  allows : Memory → Op → Prop
  remember : Memory → (op : Op) → Reply op → Memory

namespace Program

variable {Op : Type} {Reply : Op → Type} {Memory World Result Other Failure : Type}

/-- Every call is allowed where it is made, and the end is as `ends` says. -/
def Obeys (protocol : Protocol Op Reply Memory) (ends : Memory → Result → Prop) :
    Program Op Reply Result → Memory → Prop
  | .done result, memory => ends memory result
  | .call op next, memory =>
      protocol.allows memory op ∧
        ∀ reply, protocol.answers op reply →
          Obeys protocol ends (next reply) (protocol.remember memory op reply)

variable (protocol : Protocol Op Reply Memory)

@[simp] theorem obeys_done (ends : Memory → Result → Prop) (result : Result) (memory : Memory) :
    Obeys protocol ends (.done result) memory ↔ ends memory result := Iff.rfl

@[simp] theorem obeys_pure (ends : Memory → Result → Prop) (result : Result) (memory : Memory) :
    Obeys protocol ends (pure result) memory ↔ ends memory result := Iff.rfl

theorem obeys_bind (ends : Memory → Other → Prop) (program : Program Op Reply Result)
    (next : Result → Program Op Reply Other) (memory : Memory) :
    Obeys protocol ends (program >>= next) memory ↔
      Obeys protocol (fun memory result => Obeys protocol ends (next result) memory) program
        memory := by
  induction program generalizing memory with
  | done result => exact Iff.rfl
  | call op rest ih =>
      apply and_congr_right
      intro _
      apply forall_congr'
      intro reply
      apply imp_congr_right
      intro _
      exact ih reply (protocol.remember memory op reply)

/-- A weaker end. -/
theorem obeys_imp {ends weaker : Memory → Result → Prop}
    (implies : ∀ memory result, ends memory result → weaker memory result)
    (program : Program Op Reply Result) (memory : Memory)
    (obeys : Obeys protocol ends program memory) : Obeys protocol weaker program memory := by
  induction program generalizing memory with
  | done result => exact implies memory result obeys
  | call op rest ih =>
      constructor
      · exact obeys.1
      · intro reply answered
        exact ih reply (protocol.remember memory op reply) (obeys.2 reply answered)

/-- What a client remembers only grows, if every reply makes it grow. -/
theorem obeys_grow (grows : Memory → Memory → Prop) (same : ∀ memory, grows memory memory)
    (trans : ∀ first second third, grows first second → grows second third → grows first third)
    (step : ∀ memory op reply, grows memory (protocol.remember memory op reply))
    {ends : Memory → Result → Prop} (program : Program Op Reply Result) (memory : Memory)
    (obeys : Obeys protocol ends program memory) :
    Obeys protocol (fun last result => ends last result ∧ grows memory last) program memory := by
  induction program generalizing memory with
  | done result => exact ⟨obeys, same memory⟩
  | call op rest ih =>
      constructor
      · exact obeys.1
      · intro reply answered
        have later := ih reply (protocol.remember memory op reply) (obeys.2 reply answered)
        apply obeys_imp protocol _ (rest reply) _ later
        intro last result held
        exact ⟨held.1, trans _ _ _ (step memory op reply) held.2⟩

/-- The invariant rule for one program: what every allowed call keeps holds at
its end. -/
theorem obeys_run (handle : (op : Op) → World → Reply op × World)
    (invariant : Memory → World → Prop) {ends : Memory → Result → Prop}
    (kept : ∀ memory op world, invariant memory world → protocol.allows memory op →
      protocol.answers op (handle op world).1 ∧
        invariant (protocol.remember memory op (handle op world).1) (handle op world).2)
    (program : Program Op Reply Result) (memory : Memory) (world : World)
    (obeys : Obeys protocol ends program memory) (start : invariant memory world) :
    ∃ last, ends last (run handle program world).1 ∧
      invariant last (run handle program world).2 := by
  induction program generalizing memory world with
  | done result => exact ⟨memory, obeys, start⟩
  | call op rest ih =>
      obtain ⟨answered, next⟩ := kept memory op world start obeys.1
      exact ih (handle op world).1 (protocol.remember memory op (handle op world).1)
        (handle op world).2 (obeys.2 (handle op world).1 answered) next

/-! ## Programs that may fail early -/

/-- A program that may fail obeys the protocol, and what it returns is as `post`
says. -/
def Returns (post : Memory → Result → Prop)
    (program : ExceptT Failure (Program Op Reply) Result) (memory : Memory) : Prop :=
  Obeys protocol (fun memory outcome => ∀ result, outcome = .ok result → post memory result)
    program.run memory

variable {protocol}

theorem returns_pure {post : Memory → Result → Prop} {result : Result} {memory : Memory}
    (holds : post memory result) :
    Returns protocol post (pure result : ExceptT Failure (Program Op Reply) Result) memory := by
  intro other same
  cases same
  exact holds

theorem returns_throw (post : Memory → Result → Prop) (failure : Failure) (memory : Memory) :
    Returns protocol post (throw failure : ExceptT Failure (Program Op Reply) Result) memory := by
  intro result same
  cases same

theorem returns_bind {middle : Memory → Result → Prop} {post : Memory → Other → Prop}
    {program : ExceptT Failure (Program Op Reply) Result}
    {next : Result → ExceptT Failure (Program Op Reply) Other} {memory : Memory}
    (first : Returns protocol middle program memory)
    (rest : ∀ memory result, middle memory result → Returns protocol post (next result) memory) :
    Returns protocol post (program >>= next) memory := by
  unfold Returns
  rw [ExceptT.run_bind, obeys_bind]
  apply obeys_imp protocol _ program.run memory first
  intro memory outcome held
  cases outcome with
  | ok result => exact rest memory result (held result rfl)
  | error failure =>
      intro result same
      cases same

/-- A sequence, with the weakest condition on its first part. -/
theorem returns_seq {post : Memory → Other → Prop}
    {program : ExceptT Failure (Program Op Reply) Result}
    {next : Result → ExceptT Failure (Program Op Reply) Other} {memory : Memory}
    (first : Returns protocol (fun memory result => Returns protocol post (next result) memory)
      program memory) :
    Returns protocol post (program >>= next) memory :=
  returns_bind first fun _ _ rest => rest

theorem returns_request {op : Op} {post : Memory → Reply op → Prop} {memory : Memory}
    (allowed : protocol.allows memory op)
    (answered : ∀ reply, protocol.answers op reply →
      post (protocol.remember memory op reply) reply) :
    Returns protocol post (ExceptT.lift (request op) : ExceptT Failure (Program Op Reply) _)
      memory := by
  constructor
  · exact allowed
  · intro reply holds result same
    cases same
    exact answered reply holds

/-- A program that cannot fail on its own account. -/
theorem returns_lift {post : Memory → Result → Prop} {program : Program Op Reply Result}
    {memory : Memory} (obeys : Obeys protocol post program memory) :
    Returns protocol post (ExceptT.lift program : ExceptT Failure (Program Op Reply) Result)
      memory := by
  unfold Returns
  rw [ExceptT.run_lift, map_eq_pure_bind, obeys_bind]
  apply obeys_imp protocol _ program memory obeys
  intro memory value held result same
  cases same
  exact held

theorem returns_adapt {Renamed : Type} (rename : Failure → Renamed)
    {post : Memory → Result → Prop} {program : ExceptT Failure (Program Op Reply) Result}
    {memory : Memory} (returns : Returns protocol post program memory) :
    Returns protocol post (ExceptT.adapt rename program) memory := by
  unfold Returns
  rw [ExceptT.run_adapt, map_eq_pure_bind, obeys_bind]
  apply obeys_imp protocol _ program.run memory returns
  intro memory outcome held result same
  cases outcome with
  | ok value => exact held result (congrArg Except.ok (Except.ok.inj same))
  | error failure => cases same

theorem returns_imp {post weaker : Memory → Result → Prop}
    (implies : ∀ memory result, post memory result → weaker memory result)
    {program : ExceptT Failure (Program Op Reply) Result} {memory : Memory}
    (returns : Returns protocol post program memory) :
    Returns protocol weaker program memory := by
  apply obeys_imp protocol _ program.run memory returns
  intro memory outcome held result same
  exact implies memory result (held result same)

end Program

end HodeiJobs.Library
