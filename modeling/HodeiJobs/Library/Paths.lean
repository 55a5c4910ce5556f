import Mathlib.Data.List.Basic

/-!
# Paths

The texts of Unix paths. A path is followed step by step from a location, which is given by the
names from the root down to it; no name is a link.
-/

namespace HodeiJobs.Library

abbrev Directory := List String

namespace Paths

/-! ## Texts and their steps -/

def isAbsolute (path : String) : Bool := "/".toList.isPrefixOf path.toList

/-- The parts between the slashes. -/
def parts (path : String) : List String := (path.toList.splitOn '/').map String.ofList

/-- The parts that lead somewhere. -/
def steps (path : String) : List String := (parts path).filter fun part => part ≠ "" ∧ part ≠ "."

def move (location : Directory) (step : String) : Directory :=
  if step = ".." then location.dropLast else location ++ [step]

def walk (location : Directory) (steps : List String) : Directory := steps.foldl move location

/-- Where a path leads to. -/
def resolve (workingDir : Directory) (path : String) : Directory :=
  walk (if isAbsolute path then [] else workingDir) (steps path)

/-- A part of a path as it is compared; a path keeps a dot only in front. -/
inductive Component where
  | rootDir
  | curDir
  | step (name : String)
  deriving DecidableEq

def start (path : String) : List Component :=
  if isAbsolute path then [.rootDir]
  else if (parts path).head? = some "." then [.curDir]
  else []

def components (path : String) : List Component := start path ++ (steps path).map .step

def startsWith (path base : String) : Bool := (components base).isPrefixOf (components path)

/-- Nothing in the path is left to resolve. -/
structure Canonical (path : String) : Prop where
  absolute : isAbsolute path = true
  down : ".." ∉ steps path

/-- A location that lies in a directory and is not the directory. -/
def Below (base location : Directory) : Prop := base <+: location ∧ base ≠ location

instance (base location : Directory) : Decidable (Below base location) :=
  inferInstanceAs (Decidable (_ ∧ _))

/-! ## Joined texts -/

variable {path base part : String}

theorem steps_eq_of_to_list {before after : List Char}
    (split : path.toList = before ++ '/' :: after) :
    steps path = steps (String.ofList before) ++ steps (String.ofList after) := by
  unfold steps parts
  rw [split, List.splitOn_append_cons_self, List.map_append, List.filter_append,
    String.toList_ofList, String.toList_ofList]

theorem steps_append_slash (base part : String) :
    steps (base ++ "/" ++ part) = steps base ++ steps part := by
  have split : (base ++ "/" ++ part).toList = base.toList ++ '/' :: part.toList := by simp
  rw [steps_eq_of_to_list split, String.ofList_toList, String.ofList_toList]

theorem steps_empty : steps "" = [] := by decide

/-- A slash at the end is no step. -/
theorem steps_append_of_slash (ends : "/".toList.isSuffixOf base.toList = true) (part : String) :
    steps (base ++ part) = steps base ++ steps part := by
  obtain ⟨front, isFront⟩ := List.isSuffixOf_iff_suffix.mp ends
  have whole : base.toList = front ++ '/' :: [] := isFront.symm
  have split : (base ++ part).toList = front ++ '/' :: part.toList := by
    rw [String.toList_append, whole, List.append_assoc]
    rfl
  rw [steps_eq_of_to_list split, steps_eq_of_to_list whole, String.ofList_toList, List.append_assoc]
  exact congrArg _ (congrArg (· ++ steps part) steps_empty.symm)

theorem is_absolute_append (nonempty : base ≠ "") (rest : String) :
    isAbsolute (base ++ rest) = isAbsolute base := by
  unfold isAbsolute
  rw [String.toList_append]
  cases chars : base.toList with
  | nil => exact absurd (String.toList_eq_nil_iff.mp chars) nonempty
  | cons first rest => rfl

/-- A name that is no path of its own. -/
structure IsName (name : String) : Prop where
  oneStep : '/' ∉ name.toList
  nonempty : name ≠ ""
  notHere : name ≠ "."

theorem steps_of_name {name : String} (isName : IsName name) : steps name = [name] := by
  unfold steps parts
  rw [List.splitOn_eq_singleton isName.oneStep]
  simp [isName.nonempty, isName.notHere]

theorem not_absolute_of_name {name : String} (isName : IsName name) :
    isAbsolute name = false := by
  unfold isAbsolute
  by_contra absolute
  obtain ⟨rest, isRest⟩ := List.isPrefixOf_iff_prefix.mp (Bool.of_not_eq_false absolute)
  apply isName.oneStep
  rw [← isRest]
  exact List.mem_cons_self

/-! ## Absolute paths -/

theorem components_absolute (absolute : isAbsolute path = true) :
    components path = .rootDir :: (steps path).map .step := by
  unfold components start
  rw [if_pos absolute]
  rfl

theorem starts_with_iff (absolute : isAbsolute path = true) (baseAbsolute : isAbsolute base = true) :
    startsWith path base = true ↔ steps base <+: steps path := by
  unfold startsWith
  rw [List.isPrefixOf_iff_prefix, components_absolute absolute, components_absolute baseAbsolute,
    List.cons_prefix_cons, List.prefix_map_iff_of_injective]
  · exact and_iff_right rfl
  · intro left right same
    exact Component.step.inj same

/-! ## Walks -/

theorem walk_append (location : Directory) (first second : List String) :
    walk location (first ++ second) = walk (walk location first) second := List.foldl_append

/-- Steps that only go down are the names on the way. -/
theorem walk_down (location : Directory) {steps : List String} (down : ".." ∉ steps) :
    walk location steps = location ++ steps := by
  induction steps generalizing location with
  | nil => exact (List.append_nil location).symm
  | cons step rest ih =>
      have other : step ≠ ".." := fun same => down (same ▸ List.mem_cons_self)
      have later := ih (location ++ [step]) (fun member => down (List.mem_cons_of_mem step member))
      unfold walk at later ⊢
      rw [List.foldl_cons, move, if_neg other, later, List.append_assoc]
      rfl

theorem resolve_absolute (absolute : isAbsolute path = true) (workingDir : Directory) :
    resolve workingDir path = walk [] (steps path) := by
  rw [resolve, if_pos absolute]

theorem resolve_canonical (canonical : Canonical path) (workingDir : Directory) :
    resolve workingDir path = steps path := by
  rw [resolve_absolute canonical.absolute, walk_down [] canonical.down, List.nil_append]

/-- What a walk comes to: so many directories up, and then down by these names. -/
structure Climb where
  up : Nat
  names : List String
  deriving DecidableEq

namespace Climb

def go (climb : Climb) (step : String) : Climb :=
  if step = ".." then
    if climb.names = [] then { climb with up := climb.up + 1 }
    else { climb with names := climb.names.dropLast }
  else { climb with names := climb.names ++ [step] }

/-- Where the climb leads to. -/
def reach (climb : Climb) (location : Directory) : Directory :=
  location.take (location.length - climb.up) ++ climb.names

/-- The names that the climb leaves on the way up. -/
def leaves (climb : Climb) (location : Directory) : List String :=
  location.drop (location.length - climb.up)

theorem reach_go (climb : Climb) (location : Directory) (step : String) :
    (climb.go step).reach location = move (climb.reach location) step := by
  unfold go move
  split_ifs with goesUp isEmpty
  · unfold reach
    rw [isEmpty, List.append_nil, List.append_nil, List.dropLast_eq_take, List.take_take,
      List.length_take]
    congr 1
    dsimp only
    omega
  · exact (List.dropLast_append_of_ne_nil isEmpty).symm
  · exact (List.append_assoc _ _ _).symm

theorem prefix_reach_iff (climb : Climb) (location : Directory) :
    location <+: climb.reach location ↔ climb.leaves location <+: climb.names := by
  unfold reach leaves
  generalize location.length - climb.up = kept
  conv_lhs => lhs; rw [← List.take_append_drop kept location]
  exact List.prefix_append_right_inj _

theorem below_reach_iff (climb : Climb) (location : Directory) :
    Below location (climb.reach location) ↔ Below (climb.leaves location) climb.names := by
  unfold Below
  rw [prefix_reach_iff]
  apply and_congr_right'
  unfold reach leaves
  generalize location.length - climb.up = kept
  conv_lhs => lhs; rw [← List.take_append_drop kept location]
  exact not_congr (List.append_right_inj _)

end Climb

def climb (steps : List String) : Climb := steps.foldl Climb.go ⟨0, []⟩

theorem walk_eq_reach (location : Directory) (steps : List String) :
    walk location steps = (climb steps).reach location := by
  have general : ∀ before : Climb,
      walk (before.reach location) steps = (steps.foldl Climb.go before).reach location := by
    induction steps with
    | nil => exact fun _ => rfl
    | cons step rest ih =>
        intro before
        have next := ih (before.go step)
        rw [Climb.reach_go] at next
        exact next
  have start : (⟨0, []⟩ : Climb).reach location = location := by
    unfold Climb.reach
    rw [List.append_nil]
    exact List.take_length
  have reached := general ⟨0, []⟩
  rw [start] at reached
  exact reached

/-- From the root only the names count. -/
theorem walk_root (steps : List String) : walk [] steps = (climb steps).names := by
  rw [walk_eq_reach, Climb.reach, List.take_nil, List.nil_append]

end Paths

end HodeiJobs.Library
