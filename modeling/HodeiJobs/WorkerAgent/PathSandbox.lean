import HodeiJobs.Library.Paths
import HodeiJobs.WorkerAgent.Secrets

/-!
# Paths in a sandbox

`PathSandbox::validate` compares the components of a path with those of the base directory. An
absolute path is resolved before that, a relative one is only joined.
-/

namespace HodeiJobs.WorkerAgent

open HodeiJobs.Library
open HodeiJobs.Library.Paths
open HodeiJobs.WorkerAgent.Secrets (joinPath)

inductive PathSecurityError where
  | pathEscapeAttempt (requested resolved : String)
  | invalidBasePath (basePath : String)
  | pathDoesNotExist (path : String)
  deriving DecidableEq

def PathSecurityError.display : PathSecurityError → String
  | .pathEscapeAttempt requested resolved =>
      "Path '" ++ requested ++ "' escapes sandbox to '" ++ resolved ++ "'"
  | .invalidBasePath basePath => "Base path does not exist: " ++ basePath
  | .pathDoesNotExist path => "Requested path does not exist: " ++ path

/-- What the operating system says of a path. -/
structure FileSystem where
  pathExists : String → Bool
  canonicalize : String → Option String
  canonical : ∀ path resolved, canonicalize path = some resolved → Canonical resolved

structure PathSandbox where
  baseDir : String
  canonical : Canonical baseDir

namespace PathSandbox

variable (fileSystem : FileSystem)

def new (baseDir : String) : Except PathSecurityError PathSandbox :=
  if fileSystem.pathExists baseDir = false then .error (.invalidBasePath baseDir)
  else
    match canonicalized : fileSystem.canonicalize baseDir with
    | none => .error (.invalidBasePath baseDir)
    | some canonicalBase =>
        .ok ⟨canonicalBase, fileSystem.canonical baseDir canonicalBase canonicalized⟩

variable (sandbox : PathSandbox)

def resolved (requested : String) : Except PathSecurityError String :=
  if isAbsolute requested then
    if fileSystem.pathExists requested = false then .error (.pathDoesNotExist requested)
    else
      match fileSystem.canonicalize requested with
      | none => .error (.pathDoesNotExist requested)
      | some path => .ok path
  else .ok (joinPath sandbox.baseDir requested)

def validate (requested : String) : Except PathSecurityError String :=
  match sandbox.resolved fileSystem requested with
  | .error problem => .error problem
  | .ok path =>
      if startsWith path sandbox.baseDir then .ok path
      else .error (.pathEscapeAttempt requested path)

/-- What is accepted lies in the base directory, and a relative path that only goes down is
accepted. -/
structure Confines (workingDir : Directory) (requested : String) : Prop where
  within : ∀ path, sandbox.validate fileSystem requested = .ok path →
    resolve workingDir sandbox.baseDir <+: resolve workingDir path
  accepts : isAbsolute requested = false → ".." ∉ steps requested →
    ∃ path, sandbox.validate fileSystem requested = .ok path

end PathSandbox

/-! ## Joined paths -/

section

variable {part : String}

theorem join_path_absolute (absolute : isAbsolute part = true) (base : String) :
    joinPath base part = part := if_pos absolute

theorem join_path_relative (relative : isAbsolute part = false) (base : String) :
    joinPath base part =
      if base = "" ∨ "/".toList.isSuffixOf base.toList then base ++ part
      else base ++ "/" ++ part :=
  if_neg (ne_true_of_eq_false relative)

theorem steps_join_path (relative : isAbsolute part = false) (base : String) :
    steps (joinPath base part) = steps base ++ steps part := by
  rw [join_path_relative relative]
  split_ifs with noSlash
  · rcases noSlash with isEmpty | ends
    · rw [isEmpty, String.empty_append, steps_empty, List.nil_append]
    · exact steps_append_of_slash ends part
  · exact steps_append_slash base part

theorem is_absolute_join_path (relative : isAbsolute part = false) (base : String) :
    isAbsolute (joinPath base part) = isAbsolute base := by
  rw [join_path_relative relative]
  by_cases isEmpty : base = ""
  · rw [if_pos (.inl isEmpty), isEmpty, String.empty_append]
    exact relative
  · split_ifs
    · exact is_absolute_append isEmpty part
    · rw [String.append_assoc]
      exact is_absolute_append isEmpty ("/" ++ part)

theorem resolve_join_path (relative : isAbsolute part = false) (base : String)
    (workingDir : Directory) :
    resolve workingDir (joinPath base part) = walk (resolve workingDir base) (steps part) := by
  unfold resolve
  rw [is_absolute_join_path relative, steps_join_path relative]
  exact walk_append _ _ _

end

/-! ## Confinement -/

namespace PathSandbox

variable (fileSystem : FileSystem) (sandbox : PathSandbox) (workingDir : Directory)
  {requested path : String}

theorem absolute_confined (absolute : isAbsolute requested = true)
    (accepted : sandbox.validate fileSystem requested = .ok path) :
    resolve workingDir sandbox.baseDir <+: resolve workingDir path := by
  unfold validate resolved at accepted
  rw [if_pos absolute] at accepted
  split at accepted
  · cases accepted
  · rename_i found isFound
    split_ifs at accepted with starts
    cases accepted
    have canonical : Canonical path := by
      split_ifs at isFound
      split at isFound
      · cases isFound
      · rename_i other canonicalized
        cases isFound
        exact fileSystem.canonical requested path canonicalized
    rw [starts_with_iff canonical.absolute sandbox.canonical.absolute] at starts
    rw [resolve_canonical sandbox.canonical, resolve_canonical canonical]
    exact starts

/-- The comparison always succeeds on what `join` returns. -/
theorem validate_relative (relative : isAbsolute requested = false) :
    sandbox.validate fileSystem requested = .ok (joinPath sandbox.baseDir requested) := by
  have absolute := (is_absolute_join_path relative sandbox.baseDir).trans sandbox.canonical.absolute
  have starts : startsWith (joinPath sandbox.baseDir requested) sandbox.baseDir = true := by
    rw [starts_with_iff absolute sandbox.canonical.absolute, steps_join_path relative]
    exact List.prefix_append _ _
  unfold validate resolved
  rw [if_neg (ne_true_of_eq_false relative)]
  exact if_pos starts

/-- The sandbox confines absolute paths, and the relative ones that do not leave the base directory
or that come back to it. -/
theorem confines_iff (requested : String) :
    sandbox.Confines fileSystem workingDir requested ↔
      isAbsolute requested = true ∨
        (climb (steps requested)).leaves (resolve workingDir sandbox.baseDir) <+:
          (climb (steps requested)).names := by
  by_cases absolute : isAbsolute requested = true
  · apply iff_of_true _ (.inl absolute)
    constructor
    · intro path accepted
      exact absolute_confined fileSystem sandbox workingDir absolute accepted
    · intro relative
      rw [absolute] at relative
      cases relative
  · have relative := eq_false_of_ne_true absolute
    have accepted := validate_relative fileSystem sandbox relative
    have reached := resolve_join_path relative sandbox.baseDir workingDir
    rw [walk_eq_reach] at reached
    rw [or_iff_right absolute, ← Climb.prefix_reach_iff, ← reached]
    constructor
    · intro confines
      exact confines.within _ accepted
    · intro inside
      constructor
      · intro path same
        rw [accepted] at same
        cases same
        exact inside
      · intro _ _
        exact ⟨_, accepted⟩

end PathSandbox

/-- A file system in which every path exists and is its own canonical form if it can be. -/
def plainFileSystem : FileSystem where
  pathExists _ := true
  canonicalize path :=
    if isAbsolute path = true ∧ ".." ∉ steps path then some path else none
  canonical path resolved canonicalized := by
    split_ifs at canonicalized with canonical
    cases canonicalized
    exact ⟨canonical.1, canonical.2⟩

/-- The sandbox at `/tmp` accepts a path to the files of the system. -/
theorem parent_of_sandbox_accepted :
    ¬PathSandbox.Confines plainFileSystem ⟨"/tmp", by decide, by decide⟩ [] "../etc/passwd" := by
  intro confines
  have inside := confines.within "/tmp/../etc/passwd" (by decide)
  exact absurd inside (by decide)

end HodeiJobs.WorkerAgent
