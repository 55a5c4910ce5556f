import HodeiJobs.Library.Protocol

/-!
# What a program has called before

The calls that a program makes of a service, each with its reply. A program that obeys a protocol
whose memory is what was called so far makes, in every run, only calls that what it called before
allows.
-/

namespace HodeiJobs.Library.Program

variable {Op : Type} {Reply : Op → Type} {World Result Other : Type}

/-- Calls with their replies, the first one first. -/
abbrev History (Op : Type) (Reply : Op → Type) : Type := List (Sigma Reply)

/-- Every call is answered, in whatever way. -/
def recording (allows : History Op Reply → Op → Prop) : Protocol Op Reply (History Op Reply) where
  answers _ _ := True
  allows := allows
  remember history op reply := history ++ [⟨op, reply⟩]

/-- The calls of a run. -/
def trace (handle : (op : Op) → World → Reply op × World) :
    Program Op Reply Result → World → History Op Reply
  | .done _, _ => []
  | .call op next, world =>
      ⟨op, (handle op world).1⟩ :: trace handle (next (handle op world).1) (handle op world).2

/-- What is in a run was answered by the service. -/
theorem answered_of_mem_trace (handle : (op : Op) → World → Reply op × World)
    {program : Program Op Reply Result} {world : World} {entry : Sigma Reply}
    (member : entry ∈ trace handle program world) :
    ∃ asked, entry.2 = (handle entry.1 asked).1 := by
  induction program generalizing world with
  | done result => exact absurd member List.not_mem_nil
  | call op next ih =>
      rcases List.mem_cons.mp member with rfl | later
      · exact ⟨world, rfl⟩
      · exact ih _ later

/-- What every call keeps, a program keeps. -/
theorem run_keeps (handle : (op : Op) → World → Reply op × World) (keeps : World → Prop)
    (kept : ∀ op world, keeps world → keeps (handle op world).2)
    (program : Program Op Reply Result) (world : World) (holds : keeps world) :
    keeps (run handle program world).2 := by
  induction program generalizing world with
  | done result => exact holds
  | call op next ih => exact ih _ _ (kept op world holds)

/-- Each call is one that the calls before it allow. -/
def EachCall (allows : History Op Reply → Op → Prop) (history : History Op Reply) : Prop :=
  ∀ before call after, history = before ++ call :: after → allows before call.1

section Recording

variable {allows : History Op Reply → Op → Prop} {ends middle : History Op Reply → Result → Prop}
  {program : Program Op Reply Result} {history : History Op Reply}

theorem allowed_of_obeys (handle : (op : Op) → World → Reply op × World) (world : World)
    (obeys : Obeys (recording allows) ends program history)
    (before : History Op Reply) (call : Sigma Reply) (after : History Op Reply)
    (split : trace handle program world = before ++ call :: after) :
    allows (history ++ before) call.1 := by
  induction program generalizing history world before with
  | done result => exact absurd split (by simp [trace])
  | call op next ih =>
      cases before with
      | nil =>
          obtain ⟨rfl, -⟩ := List.cons.inj split
          rw [List.append_nil]
          exact obeys.1
      | cons first rest =>
          obtain ⟨rfl, later⟩ := List.cons.inj split
          have allowed := ih _ _ (obeys.2 (handle op world).1 trivial) rest later
          rwa [List.append_cons]

theorem each_call_of_obeys (handle : (op : Op) → World → Reply op × World) (world : World)
    (obeys : Obeys (recording allows) ends program []) :
    EachCall allows (trace handle program world) :=
  allowed_of_obeys handle world obeys

/-- What was called stays called. -/
theorem obeys_extend (obeys : Obeys (recording allows) ends program history) :
    Obeys (recording allows) (fun later result => ends later result ∧ history <+: later)
      program history := by
  refine obeys_grow (recording allows) (· <+: ·) List.prefix_refl ?_ ?_ program history obeys
  · exact fun _ _ _ => List.IsPrefix.trans
  · exact fun _ _ _ => List.prefix_append _ _

/-- A sequence, of which the rest is told that nothing called so far is lost. -/
theorem obeys_then {last : History Op Reply → Other → Prop}
    {next : Result → Program Op Reply Other}
    (first : Obeys (recording allows) middle program history)
    (rest : ∀ later result, middle later result → history <+: later →
      Obeys (recording allows) last (next result) later) :
    Obeys (recording allows) last (program >>= next) history := by
  rw [obeys_bind]
  apply obeys_imp (recording allows) _ program history (obeys_extend first)
  exact fun later result held => rest later result held.1 held.2

theorem obeys_ask {op : Op} (allowed : allows history op) :
    Obeys (recording allows) (fun later reply => later = history ++ [⟨op, reply⟩])
      (request op) history :=
  ⟨allowed, fun _ _ => rfl⟩

end Recording

end HodeiJobs.Library.Program
