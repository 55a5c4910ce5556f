import HodeiJobs.Library.Fallible
import HodeiJobs.WorkerAgent.PathSandbox

/-!
# Where the files of secrets lie

`prepare_tmpfs` for any base directory, and the files that are then written and removed. The keys
are checked character by character, the job is not checked at all.
-/

namespace HodeiJobs.WorkerAgent.Secrets

open HodeiJobs.Library
open HodeiJobs.Library.Paths

/-! ## Files -/

inductive SecretFileError where
  | directoryCreationError (message : String)
  | fileWriteError (path reason : String)
  | permissionError (path reason : String)
  deriving DecidableEq

/-- What fails as the files are written. A write that fails may leave a file with some content. -/
structure WriteFaults where
  createDir : Option String
  dirPermissions : Option String
  write : String → Option (String × Option String)
  filePermissions : String → Option String

section

variable (host : Host) (faults : WriteFaults) (secretsDir : String)

def writeFiles : List (String × String) → Files → Except SecretFileError Unit × Files
  | [], files => (.ok (), files)
  | (key, value) :: rest, files =>
      let filePath := joinPath secretsDir key
      match faults.write filePath with
      | some (reason, none) => (.error (.fileWriteError filePath reason), files)
      | some (reason, some left) =>
          (.error (.fileWriteError filePath reason), files.write (host.resolve filePath) left)
      | none =>
          let written := files.write (host.resolve filePath) value
          match faults.filePermissions filePath with
          | some reason => (.error (.permissionError filePath reason), written)
          | none => writeFiles rest written

def writeTmpfsSecrets (files : Files) (secrets : StringMap) :
    Except SecretFileError Unit × Files :=
  match faults.createDir, faults.dirPermissions with
  | some message, _ => (.error (.directoryCreationError message), files)
  | none, some reason => (.error (.permissionError secretsDir reason), files)
  | none, none => writeFiles host faults secretsDir secrets.rows files

end

def keys (secrets : StringMap) : List String := secrets.rows.map Prod.fst

/-- The directory of the job lies below the base directory, its files lie in it, one for each key,
and nothing else is written or removed. -/
structure Confined (host : Host) (baseDir : String) (secrets : StringMap) (secretsDir : String) :
    Prop where
  below : Below (host.resolve baseDir) (host.resolve secretsDir)
  children : ∀ key ∈ keys secrets,
    ∃ name, host.resolve (joinPath secretsDir key) = host.resolve secretsDir ++ [name]
  distinct : ∀ first ∈ keys secrets, ∀ second ∈ keys secrets,
    host.resolve (joinPath secretsDir first) = host.resolve (joinPath secretsDir second) →
      first = second
  written : ∀ faults files location, ¬host.resolve secretsDir <+: location →
    (writeTmpfsSecrets host faults secretsDir files secrets).2.content location =
      files.content location
  cleaned : ∀ files location, ¬host.resolve secretsDir <+: location →
    (cleanupTmpfsSecrets host files (some secretsDir)).content location = files.content location

/-- The job leads below the base directory: from the root, or from the base directory and, if it
leaves directories on the way up, back through them. -/
def JobBelow (workingDir : Directory) (baseDir jobId : String) : Prop :=
  let base := resolve workingDir baseDir
  let job := climb (steps jobId)
  Below (if isAbsolute jobId then base else job.leaves base) job.names

instance (workingDir : Directory) (baseDir jobId : String) :
    Decidable (JobBelow workingDir baseDir jobId) :=
  inferInstanceAs (Decidable (Below _ _))

/-! ## Keys -/

section

variable {text : Text} {key : String}

theorem validate_key_ok (slash : text.isAlphanumeric '/' = false)
    (valid : validateKey text key = .ok ()) : key ≠ "" ∧ '/' ∉ key.toList := by
  unfold validateKey at valid
  split_ifs at valid with isEmpty characters
  refine ⟨isEmpty, ?_⟩
  intro member
  have allowed := List.all_eq_true.mp characters '/' member
  rw [slash] at allowed
  cases allowed

theorem keys_valid {secrets : StringMap} (valid : validateKeys text secrets = .ok ()) :
    ∀ key ∈ keys secrets, validateKey text key = .ok () := for_m_eq_ok.mp valid

end

theorem prepared_dir {config : InjectionConfig} {text : Text} {jobId : String}
    {secrets baseEnv : StringMap} {prepared : PreparedExecution}
    (accepted : config.prepareTmpfs text jobId secrets baseEnv = .ok prepared) :
    validateKeys text secrets = .ok () ∧
      prepared.secretsDir = some (joinPath config.tmpfsBaseDir jobId) := by
  obtain ⟨_, valid, rest⟩ := bind_eq_ok.mp accepted
  cases rest
  exact ⟨valid, rfl⟩

/-! ## Locations -/

section

variable {host : Host} {workingDir : Directory}
  (lexical : ∀ path, host.resolve path = resolve workingDir path)

include lexical

theorem below_iff_job_below (baseDir jobId : String) :
    Below (host.resolve baseDir) (host.resolve (joinPath baseDir jobId)) ↔
      JobBelow workingDir baseDir jobId := by
  unfold JobBelow
  dsimp only
  rw [lexical, lexical]
  by_cases absolute : isAbsolute jobId = true
  · rw [join_path_absolute absolute, resolve_absolute absolute, walk_root, if_pos absolute]
  · rw [resolve_join_path (eq_false_of_ne_true absolute), walk_eq_reach, Climb.below_reach_iff,
      if_neg absolute]

/-- A key that is a name leads into the directory, and one of two dots does not. -/
theorem resolve_key {key : String} (isName : IsName key) (secretsDir : String) :
    host.resolve (joinPath secretsDir key) =
      if key = ".." then (host.resolve secretsDir).dropLast
      else host.resolve secretsDir ++ [key] := by
  rw [lexical, lexical, resolve_join_path (not_absolute_of_name isName), steps_of_name isName]
  rfl

theorem resolve_here (secretsDir : String) :
    host.resolve (joinPath secretsDir ".") = host.resolve secretsDir := by
  rw [lexical, lexical, resolve_join_path (by decide)]
  rfl

theorem child_iff {key : String} (nonempty : key ≠ "") (oneStep : '/' ∉ key.toList)
    (secretsDir : String) :
    (∃ name, host.resolve (joinPath secretsDir key) = host.resolve secretsDir ++ [name]) ↔
      key ≠ "." ∧ key ≠ ".." := by
  by_cases here : key = "."
  · apply iff_of_false
    · intro ⟨name, same⟩
      rw [here, resolve_here lexical] at same
      exact absurd same (by simp)
    · intro both
      exact both.1 here
  · have isName : IsName key := ⟨oneStep, nonempty, here⟩
    rw [resolve_key lexical isName]
    by_cases up : key = ".."
    · apply iff_of_false
      · intro ⟨name, same⟩
        rw [if_pos up] at same
        have shorter := congrArg List.length same
        rw [List.length_dropLast, List.length_append, List.length_singleton] at shorter
        omega
      · intro both
        exact both.2 up
    · exact iff_of_true ⟨key, if_neg up⟩ ⟨here, up⟩

end

/-! ## What is written -/

/-- Only the paths of the entries are written. -/
theorem content_write_files (host : Host) (faults : WriteFaults) (secretsDir : String)
    (location : Location) (entries : List (String × String)) (files : Files)
    (apart : ∀ entry ∈ entries, location ≠ host.resolve (joinPath secretsDir entry.1)) :
    (writeFiles host faults secretsDir entries files).2.content location =
      files.content location := by
  induction entries generalizing files with
  | nil => rfl
  | cons entry rest ih =>
      obtain ⟨key, value⟩ := entry
      have other := apart (key, value) List.mem_cons_self
      have later := fun files => ih files fun entry member =>
        apart entry (List.mem_cons_of_mem _ member)
      have same : ∀ content,
          (files.write (host.resolve (joinPath secretsDir key)) content).content location =
            files.content location := by
        intro content
        rw [content_write, if_neg other]
      unfold writeFiles
      dsimp only
      split
      · rfl
      · exact same _
      · split
        · exact same _
        · rw [later]
          exact same _

theorem content_write_tmpfs_secrets (host : Host) (faults : WriteFaults) (secretsDir : String)
    (location : Location) (files : Files) (secrets : StringMap)
    (apart : ∀ key ∈ keys secrets, location ≠ host.resolve (joinPath secretsDir key)) :
    (writeTmpfsSecrets host faults secretsDir files secrets).2.content location =
      files.content location := by
  unfold writeTmpfsSecrets
  split
  · rfl
  · rfl
  · apply content_write_files
    intro entry member
    exact apart entry.1 (List.mem_map_of_mem member)

/-- It is enough that the files of the keys lie side by side in the directory. -/
theorem confined_of_located {host : Host} {baseDir secretsDir : String} {secrets : StringMap}
    (below : Below (host.resolve baseDir) (host.resolve secretsDir))
    (located : ∀ key ∈ keys secrets,
      host.resolve (joinPath secretsDir key) = host.resolve secretsDir ++ [key]) :
    Confined host baseDir secrets secretsDir where
  below := below
  children key member := ⟨key, located key member⟩
  distinct first isFirst second isSecond same := by
    rw [located first isFirst, located second isSecond] at same
    exact List.singleton_injective (List.append_cancel_left same)
  written faults files location outside := by
    apply content_write_tmpfs_secrets
    intro key member same
    rw [located key member] at same
    exact outside (same ▸ List.prefix_append _ _)
  cleaned files location outside := by
    unfold cleanupTmpfsSecrets
    dsimp only
    rw [content_remove, if_neg]
    rw [List.isPrefixOf_iff_prefix]
    exact outside

/-! ## The condition -/

/-- For every accepted map the files are confined exactly if the job leads below the base directory
and no key is one of the names for directories. -/
theorem confined_iff (text : Text) (slash : text.isAlphanumeric '/' = false) (host : Host)
    (workingDir : Directory) (lexical : ∀ path, host.resolve path = resolve workingDir path)
    (config : InjectionConfig) (jobId : String) (secrets baseEnv : StringMap)
    (prepared : PreparedExecution)
    (accepted : config.prepareTmpfs text jobId secrets baseEnv = .ok prepared) :
    (∃ secretsDir, prepared.secretsDir = some secretsDir ∧
        Confined host config.tmpfsBaseDir secrets secretsDir) ↔
      JobBelow workingDir config.tmpfsBaseDir jobId ∧
        ∀ key ∈ keys secrets, key ≠ "." ∧ key ≠ ".." := by
  obtain ⟨valid, named⟩ := prepared_dir accepted
  have proper : ∀ key ∈ keys secrets, key ≠ "" ∧ '/' ∉ key.toList := by
    intro key member
    exact validate_key_ok slash (keys_valid valid key member)
  have child : ∀ key ∈ keys secrets, _ := fun key member =>
    child_iff lexical (proper key member).1 (proper key member).2
      (joinPath config.tmpfsBaseDir jobId)
  constructor
  · intro ⟨secretsDir, isDir, confined⟩
    have same := Option.some.inj (named.symm.trans isDir)
    subst same
    refine ⟨(below_iff_job_below lexical _ _).mp confined.below, ?_⟩
    intro key member
    exact (child key member).mp (confined.children key member)
  · intro ⟨job, plain⟩
    refine ⟨_, named, ?_⟩
    apply confined_of_located ((below_iff_job_below lexical _ _).mpr job)
    intro key member
    have isName : IsName key :=
      ⟨(proper key member).2, (proper key member).1, (plain key member).1⟩
    rw [resolve_key lexical isName, if_neg (plain key member).2]

/-- The sample host, on which a path is followed from the root. -/
def rootHost : Host := { sampleHost with resolve := resolve [] }

theorem secret_of_plain_job_confined :
    ∃ secretsDir, (InjectionConfig.default.prepareTmpfs sampleText "job-1" sampleSecrets emptyEnv).map
        PreparedExecution.secretsDir = .ok (some secretsDir) ∧
      Confined rootHost tmpfsBaseDir sampleSecrets secretsDir := by
  obtain ⟨secretsDir, isDir, confined⟩ :=
    (confined_iff sampleText (by decide) rootHost [] (fun _ => rfl) .default "job-1" sampleSecrets
      emptyEnv _ rfl).mpr ⟨by decide, by decide⟩
  exact ⟨secretsDir, congrArg Except.ok isDir, confined⟩

/-- A secret whose key consists of two dots. -/
def dottedSecrets : StringMap := ⟨[("..", "secret123")], by decide⟩

/-- It is accepted, and its path is that of the base directory. -/
theorem dotted_secret_not_confined :
    (InjectionConfig.default.prepareTmpfs sampleText "job-1" dottedSecrets emptyEnv).map
        PreparedExecution.secretsDir = .ok (some "/run/secrets/job-1") ∧
      ¬Confined rootHost tmpfsBaseDir dottedSecrets "/run/secrets/job-1" := by
  refine ⟨rfl, ?_⟩
  intro confined
  obtain ⟨name, same⟩ := confined.children ".." (by decide)
  have shorter := congrArg List.length same
  rw [List.length_append, List.length_singleton] at shorter
  exact absurd shorter (by decide)

end HodeiJobs.WorkerAgent.Secrets
