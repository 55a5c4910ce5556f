import Mathlib.Data.List.Induction

/-!
# Properties of whole runs

A run is a list of moves from a state. `Always` says that a property holds in
every state the run goes through, `EachMove` that every move is allowed in the
state where it is made.
-/

namespace HodeiJobs.Library

variable {State Move : Type}

def Always (step : State → Move → State) (holds : State → Prop) : State → List Move → Prop
  | state, [] => holds state
  | state, move :: rest => holds state ∧ Always step holds (step state move) rest

def EachMove (step : State → Move → State) (allowed : State → Move → Prop) :
    State → List Move → Prop
  | _, [] => True
  | state, move :: rest => allowed state move ∧ EachMove step allowed (step state move) rest

instance decidableEachMove (step : State → Move → State) (allowed : State → Move → Prop)
    [∀ state move, Decidable (allowed state move)] :
    (state : State) → (moves : List Move) → Decidable (EachMove step allowed state moves)
  | _, [] => .isTrue trivial
  | state, move :: rest =>
      @instDecidableAnd _ _ _ (decidableEachMove step allowed (step state move) rest)

theorem each_move_imp (step : State → Move → State) {allowed other : State → Move → Prop}
    (weaker : ∀ state move, allowed state move → other state move) (moves : List Move)
    (state : State) (each : EachMove step allowed state moves) :
    EachMove step other state moves := by
  induction moves generalizing state with
  | nil => trivial
  | cons move rest ih => exact ⟨weaker state move each.1, ih (step state move) each.2⟩

theorem each_move_of_forall (step : State → Move → State) {allowed : State → Move → Prop}
    (all : ∀ state move, allowed state move) (moves : List Move) (state : State) :
    EachMove step allowed state moves := by
  induction moves generalizing state with
  | nil => trivial
  | cons move rest ih => exact ⟨all state move, ih (step state move)⟩

theorem each_move_congr (step : State → Move → State) {allowed other : State → Move → Prop}
    (same : ∀ state move, allowed state move ↔ other state move) (moves : List Move)
    (state : State) : EachMove step allowed state moves ↔ EachMove step other state moves := by
  constructor
  · exact each_move_imp step (fun state move => (same state move).mp) moves state
  · exact each_move_imp step (fun state move => (same state move).mpr) moves state

theorem each_move_and_iff (step : State → Move → State) {allowed other : State → Move → Prop}
    (moves : List Move) (state : State) :
    EachMove step (fun state move => allowed state move ∧ other state move) state moves ↔
      EachMove step allowed state moves ∧ EachMove step other state moves := by
  induction moves generalizing state with
  | nil => exact (and_self_iff).symm
  | cons move rest ih =>
      unfold EachMove
      rw [ih]
      exact and_and_and_comm

theorem each_move_forall {Index : Type} (step : State → Move → State)
    {allowed : Index → State → Move → Prop} (moves : List Move) (state : State) :
    (∀ index, EachMove step (allowed index) state moves) ↔
      EachMove step (fun state move => ∀ index, allowed index state move) state moves := by
  induction moves generalizing state with
  | nil => exact iff_of_true (fun _ => trivial) trivial
  | cons move rest ih =>
      unfold EachMove
      rw [forall_and, ih]

/-- Two conditions on moves that agree wherever an invariant holds, which the first
of them keeps, allow the same runs. -/
theorem each_move_congr_within (step : State → Move → State) (invariant : State → Prop)
    {allowed other : State → Move → Prop}
    (same : ∀ state move, invariant state → (allowed state move ↔ other state move))
    (kept : ∀ state move, invariant state → allowed state move → invariant (step state move))
    (moves : List Move) (state : State) (start : invariant state) :
    EachMove step allowed state moves ↔ EachMove step other state moves := by
  induction moves generalizing state with
  | nil => exact Iff.rfl
  | cons move rest ih =>
      constructor
      · intro each
        have next := kept state move start each.1
        exact ⟨(same state move start).mp each.1, (ih (step state move) next).mp each.2⟩
      · intro each
        have allows := (same state move start).mpr each.1
        exact ⟨allows, (ih (step state move) (kept state move start allows)).mpr each.2⟩

/-- A system that simulates another one meets the conditions of its moves along its runs. -/
theorem each_move_of_simulates {AbstractState AbstractMove : Type} (step : State → Move → State)
    (abstractStep : AbstractState → AbstractMove → AbstractState)
    (abstraction : State → AbstractState) (translate : Move → AbstractMove)
    {allowed : State → Move → Prop} {abstractAllowed : AbstractState → AbstractMove → Prop}
    (simulates : ∀ state move,
      abstraction (step state move) = abstractStep (abstraction state) (translate move))
    (implies : ∀ state move, allowed state move →
      abstractAllowed (abstraction state) (translate move))
    (moves : List Move) (state : State) (each : EachMove step allowed state moves) :
    EachMove abstractStep abstractAllowed (abstraction state) (moves.map translate) := by
  induction moves generalizing state with
  | nil => trivial
  | cons move rest ih =>
      refine ⟨implies state move each.1, ?_⟩
      rw [← simulates]
      exact ih (step state move) each.2

/-- The invariant rule for the runs that a condition allows: the invariant holds
in every state, and every move also meets what the two give together. -/
theorem always_within (step : State → Move → State) (invariant : State → Prop)
    {allowed other : State → Move → Prop}
    (kept : ∀ state move, invariant state → allowed state move → invariant (step state move))
    (gives : ∀ state move, invariant state → allowed state move → other state move)
    (moves : List Move) (state : State) (start : invariant state)
    (each : EachMove step allowed state moves) :
    Always step invariant state moves ∧ EachMove step other state moves := by
  induction moves generalizing state with
  | nil => exact ⟨start, trivial⟩
  | cons move rest ih =>
      obtain ⟨always, later⟩ := ih (step state move) (kept state move start each.1) each.2
      exact ⟨⟨start, always⟩, gives state move start each.1, later⟩

theorem always_head (step : State → Move → State) {holds : State → Prop} {moves : List Move}
    {state : State} (always : Always step holds state moves) : holds state := by
  cases moves with
  | nil => exact always
  | cons _ _ => exact always.1

theorem always_imp (step : State → Move → State) {holds weaker : State → Prop}
    (implies : ∀ state, holds state → weaker state) (moves : List Move) (state : State)
    (always : Always step holds state moves) : Always step weaker state moves := by
  induction moves generalizing state with
  | nil => exact implies state always
  | cons move rest ih => exact ⟨implies state always.1, ih (step state move) always.2⟩

theorem always_and_iff (step : State → Move → State) {holds other : State → Prop}
    (moves : List Move) (state : State) :
    Always step (fun state => holds state ∧ other state) state moves ↔
      Always step holds state moves ∧ Always step other state moves := by
  induction moves generalizing state with
  | nil => exact Iff.rfl
  | cons move rest ih =>
      unfold Always
      rw [ih]
      exact and_and_and_comm

theorem always_final (step : State → Move → State) {holds : State → Prop} (moves : List Move)
    (state : State) (always : Always step holds state moves) : holds (moves.foldl step state) := by
  induction moves generalizing state with
  | nil => exact always
  | cons move rest ih => exact ih (step state move) always.2

/-- When a move out of a good state leads to a good state exactly if it is
allowed, a run stays good exactly if each of its moves is allowed. -/
theorem always_iff_each_move (step : State → Move → State) (holds : State → Prop)
    (allowed : State → Move → Prop)
    (exact_step : ∀ state move, holds state → (holds (step state move) ↔ allowed state move))
    (moves : List Move) (state : State) (start : holds state) :
    Always step holds state moves ↔ EachMove step allowed state moves := by
  induction moves generalizing state with
  | nil => exact iff_of_true start trivial
  | cons move rest ih =>
      unfold Always EachMove
      constructor
      · intro ⟨_, later⟩
        have next := always_head step later
        exact ⟨(exact_step state move start).mp next, (ih (step state move) next).mp later⟩
      · intro ⟨allows, later⟩
        have next := (exact_step state move start).mpr allows
        exact ⟨start, (ih (step state move) next).mpr later⟩

/-- A property of states and one of moves, for systems with an invariant that the allowed
moves keep: both hold along a run exactly if each move is allowed. -/
theorem always_and_each_move_iff_within (step : State → Move → State)
    (invariant holds : State → Prop) {allowed other : State → Move → Prop}
    (implies : ∀ state, invariant state → holds state)
    (kept : ∀ state move, invariant state → allowed state move → invariant (step state move))
    (exact_step : ∀ state move, invariant state →
      (allowed state move ↔ holds (step state move) ∧ other state move))
    (moves : List Move) (state : State) (start : invariant state) :
    (Always step holds state moves ∧ EachMove step other state moves) ↔
      EachMove step allowed state moves := by
  have always := always_iff_each_move step holds (fun state move => holds (step state move))
    (fun _ _ _ => Iff.rfl) moves state (implies state start)
  rw [always, ← each_move_and_iff]
  exact (each_move_congr_within step invariant exact_step kept moves state start).symm

/-- The same for an invariant that every move keeps. -/
theorem always_and_each_move_iff (step : State → Move → State) (invariant holds : State → Prop)
    {allowed other : State → Move → Prop}
    (kept : ∀ state move, invariant state → invariant (step state move))
    (exact_step : ∀ state move, invariant state → holds state →
      (allowed state move ↔ holds (step state move) ∧ other state move))
    (moves : List Move) (state : State) (start : invariant state) (good : holds state) :
    (Always step holds state moves ∧ EachMove step other state moves) ↔
      EachMove step allowed state moves :=
  always_and_each_move_iff_within step (fun state => invariant state ∧ holds state) holds
    (fun _ both => both.2)
    (fun state move both allows => ⟨kept state move both.1,
      ((exact_step state move both.1 both.2).mp allows).1⟩)
    (fun state move both => exact_step state move both.1 both.2) moves state ⟨start, good⟩

/-- `always_iff_each_move` for systems with an invariant. -/
theorem always_iff_each_move_within (step : State → Move → State)
    (invariant holds : State → Prop) (allowed : State → Move → Prop)
    (kept : ∀ state move, invariant state → invariant (step state move))
    (exact_step : ∀ state move, invariant state → holds state →
      (holds (step state move) ↔ allowed state move))
    (moves : List Move) (state : State) (start : invariant state) (good : holds state) :
    Always step holds state moves ↔ EachMove step allowed state moves := by
  have both : Always step holds state moves ∧ EachMove step (fun _ _ => True) state moves ↔
      EachMove step allowed state moves := by
    apply always_and_each_move_iff step invariant holds kept _ moves state start good
    intro state move within good
    rw [exact_step state move within good, and_true]
  rw [← both]
  exact (and_iff_left (each_move_of_forall step (fun _ _ => trivial) moves state)).symm

/-- When a part of each move is chosen from outside: whatever is chosen, a run stays good exactly if
each of its moves is allowed, where a move is allowed if every choice leads to a good state. -/
theorem always_and_each_move_iff_of_choices {Choice : Type} (step : State → Move × Choice → State)
    (holds : State → Prop) (other : State → Move × Choice → Prop) (allowed : State → Move → Prop)
    (exact_step : ∀ state move, holds state →
      ((∀ choice, holds (step state (move, choice)) ∧ other state (move, choice)) ↔
        allowed state move))
    (moves : List Move) (state : State) (start : holds state) :
    (∀ chosen, chosen.map Prod.fst = moves →
        Always step holds state chosen ∧ EachMove step other state chosen) ↔
      ∀ chosen, chosen.map Prod.fst = moves →
        EachMove step (fun state move => allowed state move.1) state chosen := by
  induction moves generalizing state with
  | nil =>
      constructor
      · rintro _ chosen isNil
        rw [List.map_eq_nil_iff.mp isNil]
        trivial
      · rintro _ chosen isNil
        rw [List.map_eq_nil_iff.mp isNil]
        exact ⟨start, trivial⟩
  | cons move later ih =>
      have first : ∀ {chosen : List (Move × Choice)}, chosen.map Prod.fst = move :: later →
          ∃ choice rest, chosen = (move, choice) :: rest ∧ rest.map Prod.fst = later := by
        intro chosen split
        obtain ⟨⟨_, choice⟩, rest, rfl, rfl, isLater⟩ := List.map_eq_cons_iff.mp split
        exact ⟨choice, rest, rfl, isLater⟩
      constructor
      · intro good chosen isChosen
        obtain ⟨choice, rest, rfl, isLater⟩ := first isChosen
        have allows : allowed state move := by
          rw [← exact_step state move start]
          intro choice
          obtain ⟨always, each⟩ := good ((move, choice) :: rest) (by rw [List.map_cons, isLater])
          exact ⟨always_head step always.2, each.1⟩
        have next := ((exact_step state move start).mpr allows choice).1
        refine ⟨allows, (ih _ next).mp ?_ rest isLater⟩
        intro others areLater
        obtain ⟨always, each⟩ := good ((move, choice) :: others) (by rw [List.map_cons, areLater])
        exact ⟨always.2, each.2⟩
      · intro allows chosen isChosen
        obtain ⟨choice, rest, rfl, isLater⟩ := first isChosen
        obtain ⟨next, asked⟩ := (exact_step state move start).mpr
          (allows _ isChosen).1 choice
        obtain ⟨always, each⟩ := (ih _ next).mpr
          (fun others areLater => (allows ((move, choice) :: others)
            (by rw [List.map_cons, areLater])).2) rest isLater
        exact ⟨⟨start, always⟩, asked, each⟩

/-- The invariant rule: every move keeps the property. -/
theorem always_of_preserved (step : State → Move → State) (holds : State → Prop)
    (preserved : ∀ state move, holds state → holds (step state move)) (moves : List Move)
    (state : State) (start : holds state) : Always step holds state moves := by
  induction moves generalizing state with
  | nil => exact start
  | cons move rest ih => exact ⟨start, ih (step state move) (preserved state move start)⟩

/-- What a move keeps as long as the property holds also holds in every state. -/
theorem always_iff_always_and (step : State → Move → State) (holds known : State → Prop)
    (kept : ∀ state move, known state → holds (step state move) → known (step state move))
    (moves : List Move) (state : State) (start : known state) :
    Always step holds state moves ↔
      Always step (fun state => holds state ∧ known state) state moves := by
  induction moves generalizing state with
  | nil => exact (and_iff_left start).symm
  | cons move rest ih =>
      have both : Always step holds (step state move) rest ↔
          Always step (fun state => holds state ∧ known state) (step state move) rest := by
        constructor
        · intro always
          exact (ih _ (kept state move start (always_head step always))).mp always
        · exact always_imp step (fun _ both => both.1) rest _
      simp only [Always, both, start, and_true]

/-- What every move keeps holds after any part of a run. -/
theorem holds_after_initial (step : State → Move → State) (holds : State → Prop)
    (allowed : State → Move → Prop)
    (preserved : ∀ state move, holds state → allowed state move → holds (step state move))
    (earlier rest : List Move) (state : State) (start : holds state)
    (each : EachMove step allowed state (earlier ++ rest)) :
    holds (earlier.foldl step state) := by
  induction earlier generalizing state with
  | nil => exact start
  | cons move earlier ih =>
      exact ih (step state move) (preserved state move start each.1) each.2

theorem each_move_iff_initial (step : State → Move → State) (allowed : State → Move → Prop)
    (moves : List Move) (state : State) :
    EachMove step allowed state moves ↔
      ∀ earlier move rest, moves = earlier ++ move :: rest →
        allowed (earlier.foldl step state) move := by
  induction moves generalizing state with
  | nil =>
      apply iff_of_true trivial
      intro earlier move rest split
      cases earlier <;> cases split
  | cons head later ih =>
      unfold EachMove
      rw [ih]
      constructor
      · intro ⟨first, others⟩ earlier move rest split
        cases earlier with
        | nil =>
            obtain ⟨same, -⟩ := List.cons.inj split
            subst same
            exact first
        | cons next earlier =>
            obtain ⟨same, tail⟩ := List.cons.inj split
            subst same
            exact others earlier move rest tail
      · intro all
        constructor
        · exact all [] head later rfl
        · intro earlier move rest split
          exact all (head :: earlier) move rest (by rw [split]; rfl)

/-- A flag that no move takes down is up after a run if it was up before, or a move of the
run has raised it. -/
theorem foldl_raised (step : State → Move → State) (flag : State → Bool) (raises : Move → Bool)
    (raised : ∀ state move, flag (step state move) = (flag state || raises move))
    (moves : List Move) (state : State) :
    flag (moves.foldl step state) = (flag state || moves.any raises) := by
  induction moves generalizing state with
  | nil => simp
  | cons move rest ih => rw [List.foldl_cons, ih, raised, List.any_cons, Bool.or_assoc]

/-- Once the observed value is final, it is only seen to change after an excused move. -/
def SettledUnless {Value : Type} (step : State → Move → State) (observe : State → Value)
    (final : Value → Prop) (excused : State → Move → Prop) (start : State) (moves : List Move) :
    Prop :=
  ∀ earlier middle rest, moves = earlier ++ middle ++ rest →
    final (observe (earlier.foldl step start)) →
      EachMove step (fun state move => ¬excused state move) (earlier.foldl step start) middle →
        observe ((earlier ++ middle).foldl step start) = observe (earlier.foldl step start)

theorem settled_unless_iff_each_move {Value : Type} (step : State → Move → State)
    (observe : State → Value) (final : Value → Prop) (excused : State → Move → Prop)
    (start : State) (moves : List Move) :
    SettledUnless step observe final excused start moves ↔
      EachMove step
        (fun state move => final (observe state) → ¬excused state move →
          observe (step state move) = observe state)
        start moves := by
  induction moves generalizing start with
  | nil =>
      apply iff_of_true _ trivial
      intro earlier middle rest split _ _
      have nothing := List.append_eq_nil_iff.mp (List.append_eq_nil_iff.mp split.symm).1
      rw [nothing.1, nothing.2]
      rfl
  | cons move later ih =>
      unfold EachMove
      rw [← ih]
      constructor
      · intro settled
        constructor
        · intro reached unexcused
          exact settled [] [move] later rfl reached ⟨unexcused, trivial⟩
        · intro earlier middle rest split
          exact settled (move :: earlier) middle rest (by rw [split]; rfl)
      · intro ⟨first, settled⟩ earlier middle rest split reached unexcused
        cases earlier with
        | cons head earlier =>
            obtain ⟨same, tail⟩ := List.cons.inj split
            subst same
            exact settled earlier middle rest tail reached unexcused
        | nil =>
            cases middle with
            | nil => rfl
            | cons head middle =>
                obtain ⟨same, tail⟩ := List.cons.inj split
                subst same
                have kept := first reached unexcused.1
                have next := settled [] middle rest tail
                  (by rw [List.foldl_nil, kept]; exact reached) unexcused.2
                exact next.trans kept

/-- Once the observed value is final, it is never seen to change. -/
def Settled {Value : Type} (step : State → Move → State) (observe : State → Value)
    (final : Value → Prop) (start : State) (moves : List Move) : Prop :=
  ∀ earlier middle rest, moves = earlier ++ middle ++ rest →
    final (observe (earlier.foldl step start)) →
      observe ((earlier ++ middle).foldl step start) = observe (earlier.foldl step start)

theorem settled_iff_each_move {Value : Type} (step : State → Move → State)
    (observe : State → Value) (final : Value → Prop) (start : State) (moves : List Move) :
    Settled step observe final start moves ↔
      EachMove step
        (fun state move => final (observe state) → observe (step state move) = observe state)
        start moves := by
  have never := settled_unless_iff_each_move step observe final (fun _ _ => False) start moves
  simp only [not_false_eq_true, forall_const] at never
  rw [← never]
  constructor
  · intro settled earlier middle rest split reached _
    exact settled earlier middle rest split reached
  · intro settled earlier middle rest split reached
    apply settled earlier middle rest split reached
    exact each_move_of_forall step (fun _ _ => not_false) middle (earlier.foldl step start)

end HodeiJobs.Library
