import Mathlib.Data.List.Basic

/-!
# Computations that may fail

When they succeed, and with what.
-/

namespace HodeiJobs.Library

variable {Failure Other Item Value Result : Type}

theorem bind_eq_ok {first : Except Failure Value} {next : Value → Except Failure Result}
    {result : Result} :
    first >>= next = .ok result ↔ ∃ value, first = .ok value ∧ next value = .ok result := by
  cases first with
  | error problem => simp [bind, Except.bind]
  | ok value => simp [bind, Except.bind]

theorem map_error_eq_ok {change : Failure → Other} {attempt : Except Failure Value}
    {value : Value} : attempt.mapError change = .ok value ↔ attempt = .ok value := by
  cases attempt with
  | error problem => simp [Except.mapError]
  | ok other => simp [Except.mapError]

section

variable {attempt : Item → Except Failure Value}

theorem map_m_cons_eq_ok {item : Item} {rest : List Item} {values : List Value} :
    (item :: rest).mapM attempt = .ok values ↔
      ∃ value others, attempt item = .ok value ∧ rest.mapM attempt = .ok others ∧
        value :: others = values := by
  simp only [List.mapM_cons, bind_eq_ok, pure, Except.pure, Except.ok.injEq]
  constructor
  · intro ⟨value, first, others, later, same⟩
    exact ⟨value, others, first, later, same⟩
  · intro ⟨value, others, first, later, same⟩
    exact ⟨value, first, others, later, same⟩

/-- A traversal succeeds if it does at every item. -/
theorem map_m_ok_iff {items : List Item} :
    (∃ values, items.mapM attempt = .ok values) ↔
      ∀ item ∈ items, ∃ value, attempt item = .ok value := by
  induction items with
  | nil => simp [pure, Except.pure]
  | cons item rest ih =>
      simp only [map_m_cons_eq_ok, List.forall_mem_cons, ← ih]
      constructor
      · intro ⟨_, value, others, first, later, _⟩
        exact ⟨⟨value, first⟩, others, later⟩
      · intro ⟨⟨value, first⟩, others, later⟩
        exact ⟨_, value, others, first, later, rfl⟩

/-- It yields what the items yield. -/
theorem mem_map_m {items : List Item} {values : List Value}
    (succeeds : items.mapM attempt = .ok values) (value : Value) :
    value ∈ values ↔ ∃ item ∈ items, attempt item = .ok value := by
  induction items generalizing values with
  | nil =>
      cases succeeds
      simp
  | cons item rest ih =>
      obtain ⟨head, others, first, later, rfl⟩ := map_m_cons_eq_ok.mp succeeds
      simp only [List.mem_cons, ih later, exists_eq_or_imp, first, Except.ok.injEq]
      rw [eq_comm]

end

theorem for_m_eq_ok {check : Item → Except Failure Unit} {items : List Item} :
    items.forM check = .ok () ↔ ∀ item ∈ items, check item = .ok () := by
  induction items with
  | nil => simp [pure, Except.pure]
  | cons item rest ih =>
      change check item >>= (fun _ => rest.forM check) = .ok () ↔ _
      rw [bind_eq_ok, List.forall_mem_cons, ← ih]
      exact ⟨fun ⟨_, first, later⟩ => ⟨first, later⟩, fun ⟨first, later⟩ => ⟨(), first, later⟩⟩

end HodeiJobs.Library
