import HodeiJobs.Workers.Aggregate

/-!
# Worker requirements

Labels and annotations that a job asks of a worker. They are validated when the
requirements are built; the texts are then compared as they stand.
-/

namespace HodeiJobs.Scheduling

open HodeiJobs.Library
open HodeiJobs.Workers (StringMap Worker)

structure WorkerRequirements where
  requiredLabels : StringMap
  requiredAnnotations : StringMap

inductive WorkerRequirementsError where
  | emptyKey
  | emptyValue
  | reservedKey (key : String)
  | invalidKeyCharacter (key : String) (char : Char)
  | invalidValueCharacter (value : String) (char : Char)
  deriving DecidableEq

namespace WorkerRequirements

variable (tables : CharTables)

/-- The first character that is no letter, no digit and none of `extra`. -/
def invalidCharacter (extra : String) (text : String) : Option Char :=
  text.toList.find? fun symbol => !tables.alphanumeric symbol && !extra.toList.contains symbol

def validateLabelOrAnnotationKey (key : String) : Except WorkerRequirementsError Unit :=
  let trimmed := trim key
  if trimmed = "" then .error .emptyKey
  else if "kubernetes.io/".toList <+: trimmed.toList then .error (.reservedKey key)
  else
    match invalidCharacter tables "-_./" trimmed with
    | some char => .error (.invalidKeyCharacter key char)
    | none => .ok ()

def validateLabelOrAnnotationValue (value : String) : Except WorkerRequirementsError Unit :=
  let trimmed := trim value
  if trimmed = "" then .error .emptyValue
  else
    match invalidCharacter tables "-_./?*" trimmed with
    | some char => .error (.invalidValueCharacter value char)
    | none => .ok ()

/-- The loop over one of the maps. -/
def validateEntries : List (Sigma fun _ : String => String) → Except WorkerRequirementsError Unit
  | [] => .ok ()
  | entry :: rest => do
      validateLabelOrAnnotationKey tables entry.1
      validateLabelOrAnnotationValue tables entry.2
      validateEntries rest

def new (requiredLabels requiredAnnotations : StringMap) :
    Except WorkerRequirementsError WorkerRequirements := do
  validateEntries tables requiredLabels.entries
  validateEntries tables requiredAnnotations.entries
  return ⟨requiredLabels, requiredAnnotations⟩

/-- One of the loops of `matches`: every entry stands in the map of the worker. -/
def carried (required offered : StringMap) : Bool :=
  required.entries.all fun entry => offered.lookup entry.1 == some entry.2

def matchesWorker (requirements : WorkerRequirements) (worker : Worker) : Bool :=
  carried requirements.requiredLabels worker.spec.labels &&
    carried requirements.requiredAnnotations worker.spec.annotations

def hasRequirements (requirements : WorkerRequirements) : Bool :=
  !requirements.requiredLabels.entries.isEmpty || !requirements.requiredAnnotations.entries.isEmpty

/-! ## What is required -/

/-- Every required entry stands in the map of the worker, with exactly its value. -/
def Carries (required offered : StringMap) : Prop :=
  ∀ key value, required.lookup key = some value → offered.lookup key = some value

theorem carried_iff (required offered : StringMap) :
    carried required offered = true ↔ Carries required offered := by
  simp only [carried, List.all_eq_true, beq_iff_eq, Carries]
  constructor
  · intro each key value found
    exact each ⟨key, value⟩ (AList.mem_lookup_iff.mp found)
  · intro carries entry member
    exact carries entry.1 entry.2 (AList.mem_lookup_iff.mpr member)

theorem carries_of_empty {required : StringMap} (empty : required.entries = [])
    (offered : StringMap) : Carries required offered := by
  intro key value found
  have member := AList.mem_lookup_iff.mp found
  rw [empty] at member
  cases member

/-- A worker carries what is required, whether or not there is a requirement. -/
theorem matches_worker_iff (requirements : WorkerRequirements) (worker : Worker) :
    requirements.matchesWorker worker = true ↔
      Carries requirements.requiredLabels worker.spec.labels ∧
        Carries requirements.requiredAnnotations worker.spec.annotations := by
  simp [matchesWorker, carried_iff]

theorem carries_of_no_requirements {requirements : WorkerRequirements}
    (none : requirements.hasRequirements = false) (worker : Worker) :
    Carries requirements.requiredLabels worker.spec.labels ∧
      Carries requirements.requiredAnnotations worker.spec.annotations := by
  simp only [hasRequirements, Bool.or_eq_false_iff, Bool.not_eq_false', List.isEmpty_iff] at none
  exact ⟨carries_of_empty none.1 _, carries_of_empty none.2 _⟩

/-! ## Validation -/

def AllowedKey (key : String) : Prop :=
  trim key ≠ "" ∧ ¬"kubernetes.io/".toList <+: (trim key).toList ∧
    ∀ symbol ∈ (trim key).toList,
      tables.alphanumeric symbol = true ∨ symbol ∈ "-_./".toList

def AllowedValue (value : String) : Prop :=
  trim value ≠ "" ∧ ∀ symbol ∈ (trim value).toList,
    tables.alphanumeric symbol = true ∨ symbol ∈ "-_./?*".toList

/-- The keys and values that `new` accepts. -/
def Valid (requiredLabels requiredAnnotations : StringMap) : Prop :=
  ∀ entry ∈ requiredLabels.entries ++ requiredAnnotations.entries,
    AllowedKey tables entry.1 ∧ AllowedValue tables entry.2

theorem invalid_character_none_iff (extra text : String) :
    invalidCharacter tables extra text = none ↔
      ∀ symbol ∈ text.toList, tables.alphanumeric symbol = true ∨ symbol ∈ extra.toList := by
  simp only [invalidCharacter, List.find?_eq_none, Bool.and_eq_true, Bool.not_eq_true',
    List.contains_eq_mem, decide_eq_false_iff_not, not_and_or, not_not, Bool.not_eq_false]

theorem validate_key_iff (key : String) :
    validateLabelOrAnnotationKey tables key = .ok () ↔ AllowedKey tables key := by
  unfold validateLabelOrAnnotationKey AllowedKey
  rw [← invalid_character_none_iff]
  dsimp only
  split_ifs with empty reserved
  · simp [empty]
  · exact iff_of_false (by simp) fun allowed => allowed.2.1 reserved
  · rw [and_iff_right empty, and_iff_right reserved]
    cases invalidCharacter tables "-_./" (trim key) <;> simp

theorem validate_value_iff (value : String) :
    validateLabelOrAnnotationValue tables value = .ok () ↔ AllowedValue tables value := by
  unfold validateLabelOrAnnotationValue AllowedValue
  rw [← invalid_character_none_iff]
  dsimp only
  split_ifs with empty
  · simp [empty]
  · cases invalidCharacter tables "-_./?*" (trim value) <;> simp [empty]

theorem validate_entries_iff (entries : List (Sigma fun _ : String => String)) :
    validateEntries tables entries = .ok () ↔
      ∀ entry ∈ entries, AllowedKey tables entry.1 ∧ AllowedValue tables entry.2 := by
  induction entries with
  | nil => simp [validateEntries]
  | cons entry rest ih =>
      rw [List.forall_mem_cons, ← ih, ← validate_key_iff, ← validate_value_iff, validateEntries]
      cases validateLabelOrAnnotationKey tables entry.1 with
      | error problem => simp [bind, Except.bind]
      | ok _ =>
          cases validateLabelOrAnnotationValue tables entry.2 <;> simp [bind, Except.bind]

theorem new_iff (requiredLabels requiredAnnotations : StringMap) :
    (∃ requirements, new tables requiredLabels requiredAnnotations = .ok requirements) ↔
      Valid tables requiredLabels requiredAnnotations := by
  unfold Valid new
  rw [List.forall_mem_append, ← validate_entries_iff, ← validate_entries_iff]
  cases validateEntries tables requiredLabels.entries with
  | error problem => simp [bind, Except.bind]
  | ok _ =>
      cases validateEntries tables requiredAnnotations.entries <;>
        simp [bind, Except.bind, pure, Except.pure]

theorem new_ok {requiredLabels requiredAnnotations : StringMap}
    {requirements : WorkerRequirements}
    (built : new tables requiredLabels requiredAnnotations = .ok requirements) :
    requirements = ⟨requiredLabels, requiredAnnotations⟩ := by
  unfold new at built
  cases labels : validateEntries tables requiredLabels.entries with
  | error problem => simp [labels, bind, Except.bind] at built
  | ok _ =>
      cases annotations : validateEntries tables requiredAnnotations.entries with
      | error problem => simp [labels, annotations, bind, Except.bind] at built
      | ok _ =>
          simp [labels, annotations, bind, Except.bind, pure, Except.pure] at built
          exact built.symm

/-- Requirements that are not valid ask for something. -/
theorem asked_of_invalid {requiredLabels requiredAnnotations : StringMap}
    (invalid : ¬Valid tables requiredLabels requiredAnnotations) :
    ¬(Carries requiredLabels ∅ ∧ Carries requiredAnnotations ∅) := by
  intro ⟨labels, annotations⟩
  apply invalid
  intro entry member
  rcases List.mem_append.mp member with asked | asked
  · cases labels entry.1 entry.2 (AList.mem_lookup_iff.mpr asked)
  · cases annotations entry.1 entry.2 (AList.mem_lookup_iff.mpr asked)

end WorkerRequirements

end HodeiJobs.Scheduling
