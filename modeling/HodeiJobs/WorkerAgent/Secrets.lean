import HodeiJobs.Library.Table
import HodeiJobs.Library.Text

/-!
# Secrets of a job

`execute_from_command` with the preparation of `SecretInjector`, as far as it decides
what the command can read and which files are left. Under `TmpfsFile` the files are
announced by the preparation and removed after the command, and no call writes them.
Output and logs of the command are the environment's.
-/

namespace HodeiJobs.WorkerAgent.Secrets

open HodeiJobs.Library

/-! ## Preparation -/

/-- `HashMap<String, String>`, with its entries in the order in which it is iterated. -/
abbrev StringMap := @Table (String × String) String Prod.fst

def StringMap.get (map : StringMap) (name : String) : Option String := (map.find name).map Prod.snd

def StringMap.insert (map : StringMap) (name value : String) : StringMap := map.upsert (name, value)

inductive InjectionStrategy where
  | stdin
  | tmpfsFile
  deriving DecidableEq

/-- The errors of the preparation. -/
inductive SecretInjectionError where
  | serializationError (message : String)
  | invalidKeyError (key reason : String)
  deriving DecidableEq

def SecretInjectionError.display : SecretInjectionError → String
  | .serializationError message => "Failed to serialize secrets: " ++ message
  | .invalidKeyError key reason => "Invalid secret key '" ++ key ++ "': " ++ reason

/-- `char::is_alphanumeric`, and `serde_json` for maps of strings: what it prints it
reads back as the same map. -/
structure Text where
  isAlphanumeric : Char → Bool
  toJson : StringMap → Except String String
  fromJson : String → Except String StringMap
  from_to_json : ∀ map json, toJson map = .ok json →
    ∃ decoded, fromJson json = .ok decoded ∧ ∀ name, decoded.get name = map.get name

structure PreparedExecution where
  envVars : StringMap
  stdinContent : Option String
  secretsDir : Option String
  strategy : InjectionStrategy

/-- `Path::join` on Unix. -/
def joinPath (base part : String) : String :=
  if "/".toList.isPrefixOf part.toList then part
  else if base = "" ∨ "/".toList.isSuffixOf base.toList then base ++ part
  else base ++ "/" ++ part

def tmpfsBaseDir : String := "/run/secrets"

def validateKey (text : Text) (key : String) : Except SecretInjectionError Unit :=
  if key = "" then .error (.invalidKeyError key "Key cannot be empty")
  else if key.toList.all fun c => text.isAlphanumeric c || c == '_' || c == '-' || c == '.' then
    .ok ()
  else .error (.invalidKeyError key
    "Key contains invalid characters (only alphanumeric, _, -, . allowed)")

def validateKeys (text : Text) (secrets : StringMap) : Except SecretInjectionError Unit :=
  (secrets.rows.map Prod.fst).forM (validateKey text)

def prepareStdin (text : Text) (jobId : String) (secrets baseEnv : StringMap) :
    Except SecretInjectionError PreparedExecution := do
  validateKeys text secrets
  match text.toJson secrets with
  | .error message => .error (.serializationError message)
  | .ok secretsJson =>
      return {
        envVars := (baseEnv.insert "HODEI_SECRETS_VIA_STDIN" "1").insert "HODEI_JOB_ID" jobId
        stdinContent := some secretsJson
        secretsDir := none
        strategy := .stdin }

structure InjectionConfig where
  strategy : InjectionStrategy
  tmpfsBaseDir : String

namespace InjectionConfig

def default : InjectionConfig := ⟨.stdin, Secrets.tmpfsBaseDir⟩

def withStrategy (strategy : InjectionStrategy) : InjectionConfig := { default with strategy }

/-- `prepare_tmpfs` of an injector with this configuration. -/
def prepareTmpfs (config : InjectionConfig) (text : Text) (jobId : String)
    (secrets baseEnv : StringMap) : Except SecretInjectionError PreparedExecution := do
  validateKeys text secrets
  let secretsDir := joinPath config.tmpfsBaseDir jobId
  return {
    envVars := (baseEnv.insert "HODEI_SECRETS_DIR" secretsDir).insert "HODEI_JOB_ID" jobId
    stdinContent := none
    secretsDir := some secretsDir
    strategy := .tmpfsFile }

def prepareExecution (config : InjectionConfig) (text : Text) (jobId : String)
    (secrets baseEnv : StringMap) : Except SecretInjectionError PreparedExecution :=
  match config.strategy with
  | .stdin => prepareStdin text jobId secrets baseEnv
  | .tmpfsFile => config.prepareTmpfs text jobId secrets baseEnv

end InjectionConfig

def prepareExecution (text : Text) (strategy : InjectionStrategy) (jobId : String)
    (secrets baseEnv : StringMap) : Except SecretInjectionError PreparedExecution :=
  (InjectionConfig.withStrategy strategy).prepareExecution text jobId secrets baseEnv

/-! ## The host -/

/-- The names from the root down to a file or directory. -/
abbrev Location := List String

/-- The files with their contents; directories are not kept. -/
abbrev Files := @Table (Location × String) Location Prod.fst

namespace Files

def content (files : Files) (location : Location) : Option String :=
  (files.find location).map Prod.snd

def write (files : Files) (location : Location) (content : String) : Files :=
  files.upsert (location, content)

/-- `remove_dir_all`. -/
def removeDirAll (files : Files) (directory : Location) : Files :=
  files.deleteWhere fun location => directory.isPrefixOf location

end Files

abbrev Output := Int × String × String

/-- The step at which a script cannot be stored. -/
inductive ScriptStage where
  | createDir
  | writeFile
  | metadata
  | permissions
  deriving DecidableEq

/-- How a spawned command ends: the output was streamed, or the time ran out. -/
inductive Ending where
  | streamed (result : Except String Output)
  | timedOut

/-- Where the operating system finds a path, and what fails there. -/
structure Host where
  resolve : String → Location
  tempDir : String
  workingDirError : String → Option String
  scriptError : Option (ScriptStage × String)
  spawnError : Option String
  ending : Ending

/-- The standard input of a command: it is written and closed, or the pipe stays open. -/
inductive Stdin where
  | closedAfter (content : String)
  | leftOpen
  deriving DecidableEq

/-- A command as it is spawned, and the files that are there. -/
structure Process where
  program : String
  args : List String
  envVars : StringMap
  stdin : Stdin
  files : Files

structure Run where
  result : Except String Output
  spawned : Option Process
  files : Files

inductive CommandType where
  | shell (cmd : String) (args : List String)
  | script (interpreter content : String)
  deriving DecidableEq

/-! ## The execution -/

def PreparedExecution.stdin (prepared : PreparedExecution) : Stdin :=
  match prepared.stdinContent with
  | some content => .closedAfter content
  | none => .leftOpen

/-- A working directory is made if one is named. -/
def makeWorkingDir (host : Host) : Option String → Except String Unit
  | none => .ok ()
  | some dir =>
      if dir.toList.all isWhitespace then .ok ()
      else
        match host.workingDirError dir with
        | some error =>
            .error ("Failed to create working directory '" ++ dir ++ "': " ++ error)
        | none => .ok ()

def executeShellWithTimeout (host : Host) (files : Files) (cmd : String) (args : List String)
    (prepared : PreparedExecution) (workingDir : Option String) (timeoutSecs : Nat) : Run :=
  match makeWorkingDir host workingDir with
  | .error message => ⟨.error message, none, files⟩
  | .ok _ =>
      match host.spawnError with
      | some error => ⟨.error ("Failed to spawn command '" ++ cmd ++ "': " ++ error), none, files⟩
      | none =>
          let result := match host.ending with
            | .streamed result => result
            | .timedOut =>
                .error ("TIMEOUT: Job timed out after " ++ toString timeoutSecs ++ " seconds")
          ⟨result, some ⟨cmd, args, prepared.envVars, prepared.stdin, files⟩, files⟩

def scriptDir (host : Host) (jobId : String) : String :=
  joinPath host.tempDir ("hodei-job-" ++ jobId)

def scriptLocation (host : Host) (jobId : String) : Location :=
  host.resolve (scriptDir host jobId) ++ ["script_file"]

def executeScriptWithTimeout (host : Host) (files : Files) (jobId interpreter content : String)
    (prepared : PreparedExecution) (workingDir : Option String) (timeoutSecs : Nat) : Run :=
  let stored := files.write (scriptLocation host jobId) content
  match host.scriptError with
  | some (.createDir, error) => ⟨.error ("Failed to create temp dir: " ++ error), none, files⟩
  | some (.writeFile, error) => ⟨.error ("Failed to write script file: " ++ error), none, files⟩
  | some (.metadata, error) => ⟨.error ("Failed to get metadata: " ++ error), none, stored⟩
  | some (.permissions, error) => ⟨.error ("Failed to set permissions: " ++ error), none, stored⟩
  | none =>
      let run := executeShellWithTimeout host stored interpreter
        [joinPath (scriptDir host jobId) "script_file"] prepared workingDir timeoutSecs
      { run with files := run.files.removeDirAll (host.resolve (scriptDir host jobId)) }

def cleanupTmpfsSecrets (host : Host) (files : Files) : Option String → Files
  | some dir => files.removeDirAll (host.resolve dir)
  | none => files

/-- What happens once the execution is prepared. -/
def executePrepared (host : Host) (files : Files) (jobId : String)
    (commandSpec : Option CommandType) (prepared : PreparedExecution)
    (workingDir : Option String) (timeoutSecs : Nat) : Run :=
  match commandSpec with
  | none => ⟨.error "Empty command spec", none, files⟩
  | some (.shell cmd args) =>
      let run := executeShellWithTimeout host files cmd args prepared workingDir timeoutSecs
      { run with files := cleanupTmpfsSecrets host run.files prepared.secretsDir }
  | some (.script interpreter content) =>
      let run := executeScriptWithTimeout host files jobId interpreter content prepared workingDir
        timeoutSecs
      { run with files := cleanupTmpfsSecrets host run.files prepared.secretsDir }

def executeFromCommand (text : Text) (host : Host) (files : Files) (jobId : String)
    (commandSpec : Option CommandType) (envVars : StringMap) (workingDir : Option String)
    (timeoutSecs : Option Nat) (secretsJson : Option String) (strategy : InjectionStrategy) :
    Run :=
  let timeoutSecs := timeoutSecs.getD 3600
  match secretsJson with
  | none => executePrepared host files jobId commandSpec ⟨envVars, none, none, strategy⟩
      workingDir timeoutSecs
  | some json =>
      match text.fromJson json with
      | .error error => ⟨.error ("Invalid secrets JSON: " ++ error), none, files⟩
      | .ok secrets =>
          match prepareExecution text strategy jobId secrets envVars with
          | .error error => ⟨.error ("Failed to prepare execution with injection strategy: " ++
              error.display), none, files⟩
          | .ok prepared =>
              executePrepared host files jobId commandSpec prepared workingDir timeoutSecs

/-! ## The purpose and the condition -/

def secretsDir (jobId : String) : String := joinPath tmpfsBaseDir jobId

/-- The directory holds one file for each secret, with its value, and no other file. -/
def Holds (files : Files) (directory : Location) (secrets : StringMap) : Prop :=
  ∀ name, files.content (directory ++ [name]) = secrets.get name

/-- The command can read exactly the secrets. -/
def CanRead (text : Text) (host : Host) (strategy : InjectionStrategy) (secrets : StringMap)
    (process : Process) : Prop :=
  match strategy with
  | .stdin => ∃ input decoded, process.stdin = .closedAfter input ∧
      text.fromJson input = .ok decoded ∧ ∀ name, decoded.get name = secrets.get name
  | .tmpfsFile => ∃ dir, process.envVars.get "HODEI_SECRETS_DIR" = some dir ∧
      Holds process.files (host.resolve dir) secrets

/-- No file is new but perhaps the script, and the directory of secrets has none. -/
structure NoSecretLeft (host : Host) (strategy : InjectionStrategy) (jobId : String)
    (before after : Files) : Prop where
  known : ∀ location content, after.content location = some content →
    before.content location = some content ∨ location = scriptLocation host jobId
  removed : strategy = .tmpfsFile →
    ∀ name, after.content (host.resolve (secretsDir jobId) ++ [name]) = none

/-- The command is spawned with the secrets, and none of them is left. -/
def Delivers (text : Text) (host : Host) (strategy : InjectionStrategy) (jobId : String)
    (secrets : StringMap) (before : Files) (run : Run) : Prop :=
  (∀ process, run.spawned = some process → CanRead text host strategy secrets process) ∧
    NoSecretLeft host strategy jobId before run.files

/-- Nothing fails before the command is spawned. -/
def ReachesSpawn (host : Host) (workingDir : Option String) : CommandType → Prop
  | .shell _ _ => makeWorkingDir host workingDir = .ok () ∧ host.spawnError = none
  | .script _ _ => host.scriptError = none ∧ makeWorkingDir host workingDir = .ok () ∧
      host.spawnError = none

/-- The files when the command is spawned. -/
def startFiles (host : Host) (files : Files) (jobId : String) : CommandType → Files
  | .shell _ _ => files
  | .script _ content => files.write (scriptLocation host jobId) content

/-- The secrets were in their directory already. -/
def FilesReady (host : Host) (files : Files) (jobId : String) (secrets : StringMap)
    (workingDir : Option String) : Option CommandType → Prop
  | none => ∀ name, files.content (host.resolve (secretsDir jobId) ++ [name]) = none
  | some command => ReachesSpawn host workingDir command →
      Holds (startFiles host files jobId command) (host.resolve (secretsDir jobId)) secrets

/-! ## What an execution does -/

theorem get_insert (map : StringMap) (name value other : String) :
    (map.insert name value).get other = if other = name then some value else map.get other := by
  unfold StringMap.get StringMap.insert
  by_cases same : other = name
  · subst same
    rw [if_pos rfl, Table.find_upsert_self map (other, value)]
    rfl
  · rw [if_neg same, Table.find_upsert_other map (name, value) (Ne.symm same)]

theorem content_write (files : Files) (location other : Location) (content : String) :
    (files.write location content).content other =
      if other = location then some content else files.content other := by
  unfold Files.content Files.write
  by_cases same : other = location
  · subst same
    rw [if_pos rfl, Table.find_upsert_self files (other, content)]
    rfl
  · rw [if_neg same, Table.find_upsert_other files (location, content) (Ne.symm same)]

theorem content_remove (files : Files) (directory location : Location) :
    (files.removeDirAll directory).content location =
      if directory.isPrefixOf location then none else files.content location := by
  unfold Files.content Files.removeDirAll
  rw [Table.find_delete_where]
  split_ifs <;> rfl

theorem prepare_stdin_ok {text : Text} {jobId : String} {secrets baseEnv : StringMap}
    {prepared : PreparedExecution}
    (accepted : prepareExecution text .stdin jobId secrets baseEnv = .ok prepared) :
    prepared.secretsDir = none ∧ ∃ json, text.toJson secrets = .ok json ∧
      prepared.stdin = .closedAfter json := by
  change prepareStdin text jobId secrets baseEnv = .ok prepared at accepted
  unfold prepareStdin at accepted
  cases valid : validateKeys text secrets with
  | error error =>
      rw [valid] at accepted
      cases accepted
  | ok _ =>
      rw [valid] at accepted
      cases printed : text.toJson secrets with
      | error message =>
          rw [printed] at accepted
          cases accepted
      | ok json =>
          rw [printed] at accepted
          cases accepted
          exact ⟨rfl, json, rfl, rfl⟩

theorem prepare_tmpfs_ok {text : Text} {jobId : String} {secrets baseEnv : StringMap}
    {prepared : PreparedExecution}
    (accepted : prepareExecution text .tmpfsFile jobId secrets baseEnv = .ok prepared) :
    prepared.secretsDir = some (secretsDir jobId) ∧
      prepared.envVars.get "HODEI_SECRETS_DIR" = some (secretsDir jobId) := by
  change (InjectionConfig.withStrategy .tmpfsFile).prepareTmpfs text jobId secrets baseEnv =
    .ok prepared at accepted
  unfold InjectionConfig.prepareTmpfs at accepted
  cases valid : validateKeys text secrets with
  | error error =>
      rw [valid] at accepted
      cases accepted
  | ok _ =>
      rw [valid] at accepted
      cases accepted
      refine ⟨rfl, ?_⟩
      show StringMap.get (StringMap.insert _ _ _) _ = _
      rw [get_insert, if_neg (by decide), get_insert, if_pos rfl]
      rfl

section Executing

variable (host : Host) (files : Files) (jobId : String) (prepared : PreparedExecution)
  (workingDir : Option String) (timeoutSecs : Nat)

theorem shell_files (cmd : String) (args : List String) :
    (executeShellWithTimeout host files cmd args prepared workingDir timeoutSecs).files =
      files := by
  unfold executeShellWithTimeout
  cases makeWorkingDir host workingDir with
  | error message => rfl
  | ok _ => cases host.spawnError <;> rfl

/-- A shell command is spawned unless something fails before. -/
theorem shell_spawned (cmd : String) (args : List String) :
    (ReachesSpawn host workingDir (.shell cmd args) ∧
      (executeShellWithTimeout host files cmd args prepared workingDir timeoutSecs).spawned =
        some ⟨cmd, args, prepared.envVars, prepared.stdin, files⟩) ∨
    (¬ReachesSpawn host workingDir (.shell cmd args) ∧
      (executeShellWithTimeout host files cmd args prepared workingDir timeoutSecs).spawned =
        none) := by
  unfold executeShellWithTimeout ReachesSpawn
  cases makeWorkingDir host workingDir with
  | error message => simp
  | ok _ => cases host.spawnError <;> simp

/-- A script is stored for the time it runs, or for good if it cannot be made executable. -/
theorem script_files (interpreter content : String) {location : Location} {found : String}
    (stored : (executeScriptWithTimeout host files jobId interpreter content prepared workingDir
      timeoutSecs).files.content location = some found) :
    files.content location = some found ∨ location = scriptLocation host jobId := by
  have written : ∀ {other : Location}, (files.write (scriptLocation host jobId) content).content
      other = some found → files.content other = some found ∨
        other = scriptLocation host jobId := by
    intro other known
    rw [content_write] at known
    by_cases same : other = scriptLocation host jobId
    · exact .inr same
    · rw [if_neg same] at known
      exact .inl known
  unfold executeScriptWithTimeout at stored
  cases failure : host.scriptError with
  | some failed =>
      obtain ⟨stage, error⟩ := failed
      rw [failure] at stored
      cases stage with
      | createDir => exact .inl stored
      | writeFile => exact .inl stored
      | metadata => exact written stored
      | permissions => exact written stored
  | none =>
      rw [failure] at stored
      dsimp only at stored
      rw [shell_files, content_remove] at stored
      split_ifs at stored
      exact written stored

theorem script_spawned (interpreter content : String) :
    (ReachesSpawn host workingDir (.script interpreter content) ∧
      (executeScriptWithTimeout host files jobId interpreter content prepared workingDir
        timeoutSecs).spawned =
        some ⟨interpreter, [joinPath (scriptDir host jobId) "script_file"], prepared.envVars,
          prepared.stdin, files.write (scriptLocation host jobId) content⟩) ∨
    (¬ReachesSpawn host workingDir (.script interpreter content) ∧
      (executeScriptWithTimeout host files jobId interpreter content prepared workingDir
        timeoutSecs).spawned = none) := by
  unfold executeScriptWithTimeout
  cases failure : host.scriptError with
  | some failed =>
      obtain ⟨stage, error⟩ := failed
      right
      constructor
      · intro reaches
        have stored := reaches.1
        rw [failure] at stored
        cases stored
      · cases stage <;> rfl
  | none =>
      rcases shell_spawned host (files.write (scriptLocation host jobId) content) prepared
        workingDir timeoutSecs interpreter [joinPath (scriptDir host jobId) "script_file"] with
        ⟨reaches, spawned⟩ | ⟨fails, spawned⟩
      · exact .inl ⟨⟨failure, reaches⟩, spawned⟩
      · exact .inr ⟨fun reaches => fails reaches.2, spawned⟩

/-- Whatever the command: it is spawned exactly if nothing fails before, with the
prepared environment and input. -/
theorem prepared_spawned (command : CommandType) :
    (ReachesSpawn host workingDir command ∧
      ∃ process, (executePrepared host files jobId (some command) prepared workingDir
          timeoutSecs).spawned = some process ∧
        process.envVars = prepared.envVars ∧ process.stdin = prepared.stdin ∧
          process.files = startFiles host files jobId command) ∨
    (¬ReachesSpawn host workingDir command ∧
      (executePrepared host files jobId (some command) prepared workingDir
        timeoutSecs).spawned = none) := by
  cases command with
  | shell cmd args =>
      rcases shell_spawned host files prepared workingDir timeoutSecs cmd args with
        ⟨reaches, spawned⟩ | fails
      · exact .inl ⟨reaches, _, spawned, rfl, rfl, rfl⟩
      · exact .inr fails
  | script interpreter content =>
      rcases script_spawned host files jobId prepared workingDir timeoutSecs interpreter
        content with ⟨reaches, spawned⟩ | fails
      · exact .inl ⟨reaches, _, spawned, rfl, rfl, rfl⟩
      · exact .inr fails

/-- Every command leaves old files only, or the script, and no file in the directory that is
cleaned up. -/
theorem prepared_files (commandSpec : Option CommandType) {location : Location} {found : String}
    (stored : (executePrepared host files jobId commandSpec prepared workingDir
      timeoutSecs).files.content location = some found) :
    (files.content location = some found ∨ location = scriptLocation host jobId) ∧
      ∀ dir, prepared.secretsDir = some dir → commandSpec.isSome = true →
        (host.resolve dir).isPrefixOf location = false := by
  have cleaned : ∀ {before : Files}, (cleanupTmpfsSecrets host before
      prepared.secretsDir).content location = some found →
      before.content location = some found ∧ ∀ dir, prepared.secretsDir = some dir →
        (host.resolve dir).isPrefixOf location = false := by
    intro before kept
    cases named : prepared.secretsDir with
    | none =>
        rw [named] at kept
        refine ⟨kept, ?_⟩
        intro dir same
        cases same
    | some dir =>
        rw [named] at kept
        unfold cleanupTmpfsSecrets at kept
        dsimp only at kept
        rw [content_remove] at kept
        split_ifs at kept with inside
        refine ⟨kept, ?_⟩
        intro other same
        cases same
        exact eq_false_of_ne_true inside
  cases commandSpec with
  | none =>
      refine ⟨.inl stored, ?_⟩
      intro dir _ present
      cases present
  | some command =>
      cases command with
      | shell cmd args =>
          obtain ⟨kept, outside⟩ := cleaned stored
          rw [shell_files] at kept
          exact ⟨.inl kept, fun dir named _ => outside dir named⟩
      | script interpreter content =>
          obtain ⟨kept, outside⟩ := cleaned stored
          exact ⟨script_files host files jobId prepared workingDir timeoutSecs interpreter content
            kept, fun dir named _ => outside dir named⟩

end Executing

section Delivering

variable {text : Text} (host : Host) (files : Files) {jobId : String}
  (commandSpec : Option CommandType) {envVars secrets : StringMap} (workingDir : Option String)
  (timeoutSecs : Nat) {prepared : PreparedExecution}

theorem stdin_delivers
    (accepted : prepareExecution text .stdin jobId secrets envVars = .ok prepared) :
    Delivers text host .stdin jobId secrets files
      (executePrepared host files jobId commandSpec prepared workingDir timeoutSecs) := by
  obtain ⟨-, input, printed, piped⟩ := prepare_stdin_ok accepted
  constructor
  · intro process spawned
    obtain ⟨read, parsed, same⟩ := text.from_to_json secrets input printed
    refine ⟨input, read, ?_, parsed, same⟩
    cases commandSpec with
    | none => cases spawned
    | some command =>
        rcases prepared_spawned host files jobId prepared workingDir timeoutSecs command with
          ⟨-, other, started, -, stdin, -⟩ | ⟨-, none⟩
        · rw [spawned] at started
          cases started
          rw [stdin, piped]
        · rw [spawned] at none
          cases none
  · constructor
    · intro location content stored
      exact (prepared_files host files jobId prepared workingDir _ commandSpec stored).1
    · intro tmpfs
      cases tmpfs

/-- No call writes the files, so they are read exactly if they were there. -/
theorem tmpfs_delivers_iff
    (accepted : prepareExecution text .tmpfsFile jobId secrets envVars = .ok prepared) :
    Delivers text host .tmpfsFile jobId secrets files
        (executePrepared host files jobId commandSpec prepared workingDir timeoutSecs) ↔
      FilesReady host files jobId secrets workingDir commandSpec := by
  obtain ⟨named, announced⟩ := prepare_tmpfs_ok accepted
  have known : ∀ location content, (executePrepared host files jobId commandSpec prepared
      workingDir timeoutSecs).files.content location = some content →
      files.content location = some content ∨ location = scriptLocation host jobId := by
    intro location content stored
    exact (prepared_files host files jobId prepared workingDir _ commandSpec stored).1
  cases commandSpec with
  | none =>
      constructor
      · intro delivers
        exact delivers.2.removed rfl
      · intro empty
        refine ⟨?_, known, fun _ => empty⟩
        intro process spawned
        cases spawned
  | some command =>
      have left : NoSecretLeft host .tmpfsFile jobId files (executePrepared host files jobId
          (some command) prepared workingDir timeoutSecs).files := by
        refine ⟨known, ?_⟩
        intro _ name
        rw [Option.eq_none_iff_forall_ne_some]
        intro content stored
        have outside := (prepared_files host files jobId prepared workingDir timeoutSecs
          (some command) stored).2 (secretsDir jobId) named rfl
        have inside : (host.resolve (secretsDir jobId)).isPrefixOf
            (host.resolve (secretsDir jobId) ++ [name]) = true :=
          List.isPrefixOf_iff_prefix.mpr (List.prefix_append _ _)
        rw [inside] at outside
        cases outside
      rcases prepared_spawned host files jobId prepared workingDir timeoutSecs command with
        ⟨reaches, process, spawned, env, -, start⟩ | ⟨fails, none⟩
      · constructor
        · intro delivers _
          obtain ⟨dir, told, holds⟩ := delivers.1 process spawned
          rw [env, announced] at told
          cases told
          rw [start] at holds
          exact holds
        · intro ready
          refine ⟨?_, left⟩
          intro other started
          rw [spawned] at started
          cases started
          refine ⟨secretsDir jobId, ?_, ?_⟩
          · rw [env, announced]
          · rw [start]
            exact ready reaches
      · constructor
        · intro _ reaches
          exact absurd reaches fails
        · intro _
          refine ⟨?_, left⟩
          intro process spawned
          rw [none] at spawned
          cases spawned

end Delivering

/-- For every accepted map the secrets are delivered under `Stdin`, and under `TmpfsFile`
exactly if their files were there before. -/
theorem secrets_delivered_iff (text : Text) (host : Host) (files : Files) (jobId : String)
    (commandSpec : Option CommandType) (envVars : StringMap) (workingDir : Option String)
    (timeoutSecs : Option Nat) (json : String) (secrets : StringMap)
    (strategy : InjectionStrategy) (decoded : text.fromJson json = .ok secrets)
    (accepted : ∃ prepared, prepareExecution text strategy jobId secrets envVars = .ok prepared) :
    Delivers text host strategy jobId secrets files
        (executeFromCommand text host files jobId commandSpec envVars workingDir timeoutSecs
          (some json) strategy) ↔
      (strategy = .stdin ∨ FilesReady host files jobId secrets workingDir commandSpec) := by
  obtain ⟨prepared, accepted⟩ := accepted
  have run : executeFromCommand text host files jobId commandSpec envVars workingDir timeoutSecs
      (some json) strategy = executePrepared host files jobId commandSpec prepared workingDir
        (timeoutSecs.getD 3600) := by
    unfold executeFromCommand
    dsimp only
    rw [decoded]
    dsimp only
    rw [accepted]
  rw [run]
  cases strategy with
  | stdin =>
      exact iff_of_true (stdin_delivers host files commandSpec workingDir _ accepted) (.inl rfl)
  | tmpfsFile =>
      rw [tmpfs_delivers_iff host files commandSpec workingDir _ accepted]
      simp

/-! ## One secret -/

def sampleSecrets : StringMap := ⟨[("api_key", "secret123")], by decide⟩

def sampleJson : String := "\x7b\"api_key\":\"secret123\"\x7d"

/-- Letters and digits of ASCII, and JSON of the one map. -/
def sampleText : Text where
  isAlphanumeric := Char.isAlphanum
  toJson map := if map.rows = sampleSecrets.rows then .ok sampleJson else .error "no sample"
  fromJson json := if json = sampleJson then .ok sampleSecrets else .error "no sample"
  from_to_json map json printed := by
    split_ifs at printed with same
    cases printed
    refine ⟨sampleSecrets, if_pos rfl, ?_⟩
    intro name
    unfold StringMap.get Table.find
    rw [same]

/-- Paths are taken apart at the slashes, nothing fails, and the command prints nothing. -/
def sampleHost : Host where
  resolve path := (path.splitOn "/").filter (· ≠ "")
  tempDir := "/tmp"
  workingDirError _ := none
  scriptError := none
  spawnError := none
  ending := .streamed (.ok (0, "", ""))

def noFiles : Files := ⟨[], List.nodup_nil⟩

def emptyEnv : StringMap := ⟨[], List.nodup_nil⟩

theorem piped_secret_is_delivered :
    Delivers sampleText sampleHost .stdin "job-1" sampleSecrets noFiles
      (executeFromCommand sampleText sampleHost noFiles "job-1" (some (.shell "cat" [])) emptyEnv
        none none (some sampleJson) .stdin) :=
  (secrets_delivered_iff sampleText sampleHost noFiles "job-1" (some (.shell "cat" [])) emptyEnv
    none none sampleJson sampleSecrets .stdin rfl ⟨_, rfl⟩).mpr (.inl rfl)

/-- The command is told of a directory in which the secret is not. -/
theorem tmpfs_secret_is_missing :
    (executeFromCommand sampleText sampleHost noFiles "job-1" (some (.shell "cat" [])) emptyEnv
        none none (some sampleJson) .tmpfsFile).spawned.isSome = true ∧
    ¬Delivers sampleText sampleHost .tmpfsFile "job-1" sampleSecrets noFiles
      (executeFromCommand sampleText sampleHost noFiles "job-1" (some (.shell "cat" [])) emptyEnv
        none none (some sampleJson) .tmpfsFile) := by
  constructor
  · rfl
  · intro delivers
    obtain ⟨dir, _, holds⟩ := delivers.1 _ rfl
    have missing := holds "api_key"
    cases missing

end HodeiJobs.WorkerAgent.Secrets
