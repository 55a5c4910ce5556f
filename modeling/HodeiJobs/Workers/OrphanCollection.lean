import HodeiJobs.Library.History
import HodeiJobs.Outbox.Emitters
import HodeiJobs.Provisioning.WorkerProvisioning

/-!
# Orphaned workers

`WorkerGarbageCollector::detect_and_cleanup_orphans` as a program, while workers are provisioned
beside it. What a provider holds and what is registered are read at two times. The trait has
defaults for `list_workers`, which lists nothing, and `destroy_worker_by_id`, which fails; here
they are a provider's own.
-/

namespace HodeiJobs.Workers.OrphanCollection

open HodeiJobs.Dispatch (ProviderId)
open HodeiJobs.Execution (WorkerId)
open HodeiJobs.Library HodeiJobs.Library.Program
open HodeiJobs.Outbox
open HodeiJobs.Outbox.WorkerGarbageCollector (OrphanWorkerInfo)
open HodeiJobs.Provisioning (RegisteredWorker)
open HodeiJobs.Sagas (DateTime UuidSource)

/-- What a provider tells of a worker, as far as it is read. -/
structure ProviderWorkerInfo where
  resourceId : String
  lastSeen : Option DateTime

structure OrphanCleanupResult where
  providersScanned : Nat
  orphansDetected : Nat
  orphansCleaned : Nat
  errors : Nat
  durationMs : UInt64

inductive Call where
  | providerIds
  | getProvider (providerId : ProviderId)
  | listWorkers (providerId : ProviderId)
  | findByProvider (providerId : ProviderId)
  | newWorkerId
  | now
  | insertEvent (event : OutboxEventInsert)
  | destroyWorkerById (providerId : ProviderId) (resourceId : String)

def Call.Reply : Call → Type
  | .providerIds => List ProviderId
  | .getProvider _ => Bool
  | .listWorkers _ => Except String (List ProviderWorkerInfo)
  | .findByProvider _ => Except String (List RegisteredWorker)
  | .newWorkerId => WorkerId
  | .now => DateTime
  | .insertEvent _ | .destroyWorkerById _ _ => Except String Unit

/-! ## The pass -/

abbrev OrphanM := Program Call Call.Reply

def getProvider (providerId : ProviderId) : OrphanM Bool := request (Call.getProvider providerId)

def listWorkers (providerId : ProviderId) : OrphanM (Except String (List ProviderWorkerInfo)) :=
  request (Call.listWorkers providerId)

def findByProvider (providerId : ProviderId) : OrphanM (Except String (List RegisteredWorker)) :=
  request (Call.findByProvider providerId)

def destroyWorkerById (providerId : ProviderId) (resourceId : String) :
    OrphanM (Except String Unit) :=
  request (Call.destroyWorkerById providerId resourceId)

def lastSeenOrNow (worker : ProviderWorkerInfo) : OrphanM DateTime :=
  match worker.lastSeen with
  | some lastSeen => return lastSeen
  | none => request Call.now

def registeredIds (registeredWorkers : List RegisteredWorker) : List String :=
  registeredWorkers.map fun worker => worker.handle.providerResourceId

/-- The workers that are not registered, each under an id of its own. -/
def findOrphans (registeredIds : List String) :
    List ProviderWorkerInfo → OrphanM (List OrphanWorkerInfo)
  | [] => return []
  | worker :: rest =>
      if worker.resourceId ∈ registeredIds then findOrphans registeredIds rest
      else do
        let workerId ← request Call.newWorkerId
        let lastSeen ← lastSeenOrNow worker
        let others ← findOrphans registeredIds rest
        return ⟨workerId, worker.resourceId, lastSeen⟩ :: others

section Pass

variable (texts : RowTexts)

def detectOrphansForProvider (providerId : ProviderId) :
    OrphanM (Except String (List OrphanWorkerInfo)) := do
  match ← listWorkers providerId with
  | .error error =>
      return .error ("Failed to list workers from provider " ++
        texts.uuids.display providerId.uuid ++ ": " ++ error)
  | .ok providerWorkers => do
      match ← findByProvider providerId with
      | .error error =>
          return .error ("Failed to find registered workers for provider " ++
            texts.uuids.display providerId.uuid ++ ": " ++ error)
      | .ok registeredWorkers => do
          return .ok (← findOrphans (registeredIds registeredWorkers) providerWorkers)

/-- A row that the outbox refuses is only logged. -/
def emitOrphanDetected (orphan : OrphanWorkerInfo) (providerId : ProviderId) : OrphanM Unit := do
  let now ← request Call.now
  let _ ← request (Call.insertEvent
    (WorkerGarbageCollector.emitOrphanDetected texts orphan providerId now))

def cleanOrphans (providerId : ProviderId) :
    List OrphanWorkerInfo → OrphanCleanupResult → OrphanM OrphanCleanupResult
  | [], result => return result
  | orphan :: rest, result => do
      emitOrphanDetected texts orphan providerId
      match ← destroyWorkerById providerId orphan.providerResourceId with
      | .error _ => cleanOrphans providerId rest { result with errors := result.errors + 1 }
      | .ok () =>
          cleanOrphans providerId rest { result with orphansCleaned := result.orphansCleaned + 1 }

def scanProvider (providerId : ProviderId) (result : OrphanCleanupResult) :
    OrphanM OrphanCleanupResult := do
  if ← getProvider providerId then
    match ← detectOrphansForProvider texts providerId with
    | .error _ => return { result with errors := result.errors + 1 }
    | .ok orphans =>
        cleanOrphans texts providerId orphans
          { result with
            providersScanned := result.providersScanned + 1
            orphansDetected := result.orphansDetected + orphans.length }
  else return result

def scanProviders : List ProviderId → OrphanCleanupResult → OrphanM OrphanCleanupResult
  | [], result => return result
  | providerId :: rest, result => do
      scanProviders rest (← scanProvider texts providerId result)

/-- Whole milliseconds; zero for a clock that went back. -/
def durationMs (startTime now : DateTime) : UInt64 := .ofNat ((now - startTime).toNat / 1000)

def detectAndCleanupOrphans : OrphanM OrphanCleanupResult := do
  let startTime ← request Call.now
  let providerIds ← request Call.providerIds
  let result ← scanProviders texts providerIds ⟨0, 0, 0, 0, 0⟩
  let now ← request Call.now
  return { result with durationMs := durationMs startTime now }

end Pass

/-! ## What happens beside the pass -/

/-- A worker of a provider. -/
abbrev Key := ProviderId × String

/-- The two steps of a provisioning; one that fails is not listed. -/
inductive ProvisioningMove where
  | create (providerId : ProviderId) (worker : ProviderWorkerInfo)
  | register (handle : Provisioning.WorkerHandle)

/-- What happens before a call is answered, and how it is. -/
structure Turn where
  moves : List ProvisioningMove
  time : DateTime
  connected : Bool
  drawn : WorkerId
  fault : Option String

/-- An `insert_events` call of one event. -/
structure Insertion where
  event : OutboxEventInsert
  /-- What the clock showed when it was read last. -/
  now : DateTime
  createdAt : DateTime
  fault : Option String

/-- What has happened in a pass. -/
structure Record where
  /-- What the provider that was asked last held. -/
  listed : List Key
  /-- The workers that were listed and then had no row when the rows were read. -/
  missing : List Key
  insertions : List Insertion
  destroyed : List Key

structure World where
  providers : List ProviderId
  held : List (ProviderId × ProviderWorkerInfo)
  registry : Table RegisteredWorker.id
  outbox : EventTable
  turns : Nat → Turn
  /-- Why a provider does not destroy a worker, if it does not. -/
  refusals : Key → Option String
  calls : Nat
  /-- What the clock showed when it was read last. -/
  clock : DateTime
  /-- The workers that were registered at any time. -/
  registered : List Key
  record : Record

def keyOf (handle : Provisioning.WorkerHandle) : Key :=
  (handle.providerId, handle.providerResourceId)

namespace World

def start (providers : List ProviderId) (held : List (ProviderId × ProviderWorkerInfo))
    (registry : Table RegisteredWorker.id) (outbox : EventTable) (turns : Nat → Turn)
    (refusals : Key → Option String) : World where
  providers := providers
  held := held
  registry := registry
  outbox := outbox
  turns := turns
  refusals := refusals
  calls := 0
  clock := 0
  registered := registry.rows.map fun worker => keyOf worker.handle
  record := ⟨[], [], [], []⟩

def move (world : World) : ProvisioningMove → World
  | .create providerId worker => { world with held := world.held ++ [(providerId, worker)] }
  | .register handle =>
      { world with
        registry := world.registry.upsert ⟨handle⟩
        registered := world.registered ++ [keyOf handle] }

/-- The workers of a provider that have a row. -/
def rowsOf (world : World) (providerId : ProviderId) : List RegisteredWorker :=
  world.registry.rows.filter fun worker => decide (worker.handle.providerId = providerId)

def heldBy (world : World) (providerId : ProviderId) : List ProviderWorkerInfo :=
  (world.held.filter fun worker => decide (worker.1 = providerId)).map Prod.snd

def hasRow (world : World) (key : Key) : Bool :=
  world.registry.rows.any fun worker => decide (keyOf worker.handle = key)

end World

def Insertion.apply (ids : UuidSource) (outbox : EventTable) (insertion : Insertion) :
    EventTable :=
  match insertion.fault with
  | some _ => outbox
  | none => insertDrawn ids insertion.createdAt outbox insertion.event

def replyOr {Answer : Type} (fault : Option String) (answer : Answer) : Except String Answer :=
  match fault with
  | some error => .error error
  | none => .ok answer

/-- The reply, and what the call does. -/
def answer (ids : UuidSource) (turn : Turn) (world : World) : (call : Call) → call.Reply × World
  | .providerIds => (world.providers, world)
  | .getProvider _ => (turn.connected, world)
  | .listWorkers providerId =>
      let listed := (world.heldBy providerId).map fun worker => (providerId, worker.resourceId)
      (replyOr turn.fault (world.heldBy providerId),
        { world with record := { world.record with listed := listed } })
  | .findByProvider providerId =>
      let missing := world.record.listed.filter fun key => !world.hasRow key
      (replyOr turn.fault (world.rowsOf providerId),
        match turn.fault with
        | some _ => world
        | none =>
            { world with
              record := { world.record with missing := world.record.missing ++ missing } })
  | .newWorkerId => (turn.drawn, world)
  | .now => (turn.time, { world with clock := turn.time })
  | .insertEvent event =>
      let insertion : Insertion := ⟨event, world.clock, turn.time, turn.fault⟩
      (replyOr turn.fault (),
        { world with
          outbox := insertion.apply ids world.outbox
          record :=
            { world.record with insertions := world.record.insertions ++ [insertion] } })
  | .destroyWorkerById providerId resourceId =>
      let key : Key := (providerId, resourceId)
      (replyOr (world.refusals key) (),
        match world.refusals key with
        | some _ => world
        | none =>
            { world with
              held := world.held.filter fun worker =>
                decide ((worker.1, worker.2.resourceId) ≠ key)
              record := { world.record with destroyed := world.record.destroyed ++ [key] } })

def handle (ids : UuidSource) (call : Call) (world : World) : call.Reply × World :=
  let turn := world.turns world.calls
  answer ids turn (turn.moves.foldl World.move { world with calls := world.calls + 1 }) call

/-- A whole pass, and what happens after it. -/
def pass (ids : UuidSource) (texts : RowTexts) (start : World) (after : List ProvisioningMove) :
    World :=
  after.foldl World.move (run (handle ids) (detectAndCleanupOrphans texts) start).2

/-! ## What is asked -/

/-- No worker that is registered at any time is destroyed by the pass. -/
def SparesRegistered (world : World) : Prop :=
  ∀ key ∈ world.registered, key ∉ world.record.destroyed

/-- A row that tells of the orphan. -/
def TellsOf (texts : RowTexts) (key : Key) (row : OutboxEventView) : Prop :=
  ∃ orphan now id createdAt, orphan.providerResourceId = key.2 ∧
    row = EventTable.insertedEvent id createdAt
      (WorkerGarbageCollector.emitOrphanDetected texts orphan key.1 now)

/-- The outbox has one row more for each of the orphans. -/
def TellsOfEach (texts : RowTexts) (before after : EventTable) (orphans : List Key) : Prop :=
  ∃ rows, after.rows = before.rows ++ rows ∧ List.Forall₂ (TellsOf texts) orphans rows

/-- A worker that was listed and had no row when the rows were read is not registered, before or
after, unless its provider does not destroy it. -/
def NoneLate (world : World) : Prop :=
  ∀ key ∈ world.registered, key ∈ world.record.missing → world.refusals key ≠ none

/-- What the key of an orphan's row tells: its provider, and a second. -/
def orphanKey (texts : RowTexts) (providerId : ProviderId) (second : Int) : String :=
  "orphan-detected-" ++ texts.uuids.display providerId.uuid ++ "-" ++ toString second

/-- The providers of the orphans, each with the second that the clock showed for its row. -/
def sightings (orphans : List Key) (insertions : List Insertion) : List (ProviderId × Int) :=
  List.zipWith (fun key insertion => (key.1, timestamp insertion.now)) orphans insertions

/-- No insertion fails, no two orphans of one provider are told of in one second, and no row from
before has the key of a provider and a second in which an orphan of it is told of. -/
def SecondsApart (texts : RowTexts) (outbox : EventTable) (orphans : List Key)
    (insertions : List Insertion) : Prop :=
  (∀ insertion ∈ insertions, insertion.fault = none) ∧
  (sightings orphans insertions).Nodup ∧
  ∀ sighting ∈ sightings orphans insertions, ∀ row ∈ outbox.rows,
    row.idempotencyKey ≠ some (orphanKey texts sighting.1 sighting.2)

/-- The hyphens in the text of a UUID stand between digits. -/
def NoHyphenLast (texts : RowTexts) : Prop :=
  ∀ id, (texts.uuids.display id).toList.getLast? ≠ some '-'

/-! ## Keys -/

section Keys

theorem hyphen_not_mem_repr (number : Nat) : '-' ∉ number.repr.toList.reverse := by
  rw [Nat.toList_repr, List.mem_reverse]
  intro member
  exact absurd (Nat.isDigit_of_mem_toDigits (by decide) (by decide) member) (by decide)

/-- What stands before the digits, read backwards: the hyphen, and one more if the second lies
before 1970. -/
theorem reverse_second (text : String) (second : Int) :
    (text ++ "-" ++ toString second).toList.reverse =
      second.natAbs.repr.toList.reverse ++
        '-' :: (if 0 ≤ second then text.toList.reverse else '-' :: text.toList.reverse) := by
  show (text ++ "-" ++ second.repr).toList.reverse = _
  rw [Int.repr_eq_if]
  by_cases positive : 0 ≤ second
  · have size : second.toNat = second.natAbs := by omega
    rw [if_pos positive, if_pos positive, size]
    simp
  · have size : (-second).toNat = second.natAbs := by omega
    rw [if_neg positive, if_neg positive, size]
    simp

variable {texts : RowTexts} {providerId other : ProviderId} {second later : Int}

/-- The provider and the second can be read off a key. -/
theorem orphan_key_injective (plain : NoHyphenLast texts)
    (same : orphanKey texts providerId second = orphanKey texts other later) :
    providerId = other ∧ second = later := by
  have ofProvider (same : texts.uuids.display providerId.uuid = texts.uuids.display other.uuid) :
      providerId = other := by
    have parsed := congrArg texts.uuids.parse same
    rw [texts.uuids.parse_display, texts.uuids.parse_display] at parsed
    cases providerId
    cases other
    exact congrArg ProviderId.mk (Option.some.inj parsed)
  have ends (id : Sagas.Uuid) (rest : List Char) :
      (texts.uuids.display id).toList.reverse ≠ '-' :: rest := by
    intro backwards
    refine plain id ?_
    rw [← List.head?_reverse, backwards]
    rfl
  unfold orphanKey at same
  rw [String.append_assoc, String.append_assoc, String.append_assoc, String.append_assoc] at same
  have bare : (texts.uuids.display providerId.uuid ++ ("-" ++ toString second)).toList.reverse =
      (texts.uuids.display other.uuid ++ ("-" ++ toString later)).toList.reverse := by
    rw [(String.append_right_inj _).mp same]
  rw [← String.append_assoc, ← String.append_assoc, reverse_second, reverse_second] at bare
  obtain ⟨digits, displays⟩ :=
    split_at_first (hyphen_not_mem_repr _) (hyphen_not_mem_repr _) bare
  have size : second.natAbs = later.natAbs := by
    have read := congrArg (Nat.ofDigitChars 10 · 0) (List.reverse_injective digits)
    simpa only [Nat.toList_repr, Nat.ofDigitChars_toDigits (by decide : 1 < 10) (by decide)]
      using read
  split_ifs at displays with positive laterPositive laterPositive
  · exact ⟨ofProvider (String.toList_inj.mp (List.reverse_injective displays)), by omega⟩
  · exact absurd displays (ends _ _)
  · exact absurd displays.symm (ends _ _)
  · have backwards := (List.cons.inj displays).2
    exact ⟨ofProvider (String.toList_inj.mp (List.reverse_injective backwards)), by omega⟩

end Keys

/-! ## The outbox -/

/-- No insertion fails, and the keys of the rows are new, each of them once. -/
def KeysNew (outbox : EventTable) (insertions : List Insertion) : Prop :=
  (∀ insertion ∈ insertions, insertion.fault = none) ∧
  (insertions.map fun insertion => insertion.event.idempotencyKey).Nodup ∧
  ∀ insertion ∈ insertions, ∀ row ∈ outbox.rows,
    row.idempotencyKey ≠ insertion.event.idempotencyKey

section Replay

variable (ids : UuidSource)

def replay (outbox : EventTable) (insertions : List Insertion) : EventTable :=
  insertions.foldl (Insertion.apply ids) outbox

/-- An insertion adds its row exactly if it does not fail and its key is new. -/
theorem apply_insertion (outbox : EventTable) (insertion : Insertion) {key : String}
    (hasKey : insertion.event.idempotencyKey = some key) :
    (insertion.fault = none ∧ (∀ row ∈ outbox.rows, row.idempotencyKey ≠ some key) ∧
      ∃ id, (insertion.apply ids outbox).rows = outbox.rows ++
        [EventTable.insertedEvent id insertion.createdAt insertion.event]) ∨
    (¬(insertion.fault = none ∧ ∀ row ∈ outbox.rows, row.idempotencyKey ≠ some key) ∧
      insertion.apply ids outbox = outbox) := by
  unfold Insertion.apply
  cases insertion.fault with
  | some error => exact .inr ⟨(fun ⟨ok, _⟩ => nomatch ok), rfl⟩
  | none =>
      by_cases taken : HasKey outbox key
      · refine .inr ⟨?_, insert_drawn_of_has_key ids _ outbox hasKey taken⟩
        rintro ⟨-, free⟩
        obtain ⟨row, member, same⟩ := taken
        exact free row member same
      · refine .inl ⟨rfl, fun row member same => taken ⟨row, member, same⟩, _,
          rows_insert_drawn ids _ outbox hasKey taken⟩

theorem length_replay_le (outbox : EventTable) (insertions : List Insertion)
    (keyed : ∀ insertion ∈ insertions, insertion.event.idempotencyKey ≠ none) :
    (replay ids outbox insertions).rows.length ≤ outbox.rows.length + insertions.length := by
  induction insertions generalizing outbox with
  | nil => exact Nat.le_refl _
  | cons insertion rest ih =>
      obtain ⟨key, hasKey⟩ :=
        Option.ne_none_iff_exists'.mp (keyed insertion List.mem_cons_self)
      have later := ih (insertion.apply ids outbox) fun other member =>
        keyed other (List.mem_cons_of_mem insertion member)
      have step : (insertion.apply ids outbox).rows.length ≤ outbox.rows.length + 1 := by
        rcases apply_insertion ids outbox insertion hasKey with ⟨-, -, id, rows⟩ | ⟨-, same⟩
        · rw [rows, List.length_append, List.length_singleton]
        · rw [same]
          exact Nat.le_succ _
      show (replay ids (insertion.apply ids outbox) rest).rows.length ≤ _
      rw [List.length_cons]
      omega

variable {ids}

/-- The keys are new one by one. -/
theorem keys_new_cons {outbox after : EventTable} {insertion : Insertion} {rest : List Insertion}
    {row : OutboxEventView} (rows : after.rows = outbox.rows ++ [row])
    (sameKey : row.idempotencyKey = insertion.event.idempotencyKey)
    (ok : insertion.fault = none)
    (free : ∀ row ∈ outbox.rows, row.idempotencyKey ≠ insertion.event.idempotencyKey) :
    KeysNew outbox (insertion :: rest) ↔ KeysNew after rest := by
  simp only [KeysNew, rows, List.mem_append, List.mem_singleton, List.map_cons, List.nodup_cons,
    List.forall_mem_cons, List.mem_map, not_exists, not_and, or_imp,
    forall_and, forall_eq, sameKey]
  constructor
  · rintro ⟨⟨-, clean⟩, ⟨apart, distinct⟩, -, new⟩
    exact ⟨clean, distinct, new, fun other member same => apart other member same.symm⟩
  · rintro ⟨clean, distinct, new, apart⟩
    exact ⟨⟨ok, clean⟩, ⟨fun other member same => apart other member same.symm, distinct⟩, free,
      new⟩

/-- All rows are there exactly if all keys are new. -/
theorem replay_full_iff (outbox : EventTable) (insertions : List Insertion)
    (keyed : ∀ insertion ∈ insertions, insertion.event.idempotencyKey ≠ none) :
    (replay ids outbox insertions).rows.length = outbox.rows.length + insertions.length ↔
      KeysNew outbox insertions := by
  induction insertions generalizing outbox with
  | nil => simp [replay, KeysNew]
  | cons insertion rest ih =>
      obtain ⟨key, hasKey⟩ :=
        Option.ne_none_iff_exists'.mp (keyed insertion List.mem_cons_self)
      have restKeyed : ∀ other ∈ rest, other.event.idempotencyKey ≠ none := fun other member =>
        keyed other (List.mem_cons_of_mem insertion member)
      show (replay ids (insertion.apply ids outbox) rest).rows.length = _ ↔ _
      rcases apply_insertion ids outbox insertion hasKey with ⟨ok, free, id, rows⟩ | ⟨spoilt, same⟩
      · rw [← hasKey] at free
        rw [keys_new_cons rows rfl ok free, ← ih _ restKeyed, rows, List.length_append,
          List.length_singleton, List.length_cons]
        omega
      · have short := length_replay_le ids outbox rest restKeyed
        rw [same, List.length_cons]
        constructor
        · intro full
          omega
        · intro new
          refine absurd ⟨new.1 insertion List.mem_cons_self, ?_⟩ spoilt
          rw [← hasKey]
          exact new.2.2 insertion List.mem_cons_self

theorem replay_rows (outbox : EventTable) (insertions : List Insertion)
    (keyed : ∀ insertion ∈ insertions, insertion.event.idempotencyKey ≠ none)
    (new : KeysNew outbox insertions) :
    ∃ rows, (replay ids outbox insertions).rows = outbox.rows ++ rows ∧
      List.Forall₂ (fun insertion row => ∃ id,
        row = EventTable.insertedEvent id insertion.createdAt insertion.event) insertions rows := by
  induction insertions generalizing outbox with
  | nil => exact ⟨[], (List.append_nil _).symm, .nil⟩
  | cons insertion rest ih =>
      obtain ⟨key, hasKey⟩ :=
        Option.ne_none_iff_exists'.mp (keyed insertion List.mem_cons_self)
      have ok := new.1 insertion List.mem_cons_self
      have free := new.2.2 insertion List.mem_cons_self
      rcases apply_insertion ids outbox insertion hasKey with ⟨-, -, id, rows⟩ | ⟨spoilt, -⟩
      · obtain ⟨others, added, told⟩ := ih (insertion.apply ids outbox)
          (fun other member => keyed other (List.mem_cons_of_mem insertion member))
          ((keys_new_cons rows rfl ok free).mp new)
        refine ⟨_ :: others, ?_, .cons ⟨id, rfl⟩ told⟩
        show (replay ids (insertion.apply ids outbox) rest).rows = _
        rw [added, rows, List.append_assoc, List.singleton_append]
      · rw [hasKey] at free
        exact absurd ⟨ok, free⟩ spoilt

end Replay

/-! ## What is beside the pass -/

section Beside

variable (ids : UuidSource) (world : World)

/-- A provisioning changes neither what the pass has done nor the outbox, nor what was read. -/
theorem beside_moves (moves : List ProvisioningMove) :
    (moves.foldl World.move world).record = world.record ∧
    (moves.foldl World.move world).refusals = world.refusals ∧
    (moves.foldl World.move world).outbox = world.outbox ∧
    (moves.foldl World.move world).clock = world.clock := by
  induction moves generalizing world with
  | nil => exact ⟨rfl, rfl, rfl, rfl⟩
  | cons move rest ih =>
      have later := ih (world.move move)
      cases move <;> exact later

/-- The world in which a call is answered. -/
def beforeCall : World :=
  ((world.turns world.calls).moves.foldl World.move { world with calls := world.calls + 1 })

theorem before_call_beside :
    (beforeCall world).record = world.record ∧ (beforeCall world).refusals = world.refusals ∧
      (beforeCall world).outbox = world.outbox ∧ (beforeCall world).clock = world.clock :=
  beside_moves { world with calls := world.calls + 1 } _

/-- The world in which the clock has been read. -/
def afterNow : World := { beforeCall world with clock := (world.turns world.calls).time }

/-- No call changes what the providers refuse. -/
theorem refusals_handle (call : Call) : (handle ids call world).2.refusals = world.refusals := by
  have beside := (before_call_beside world).2.1
  cases call with
  | findByProvider providerId =>
      show (match (world.turns world.calls).fault with
        | some _ => beforeCall world
        | none => _).refusals = _
      split <;> exact beside
  | destroyWorkerById providerId resourceId =>
      show (match (beforeCall world).refusals (providerId, resourceId) with
        | some _ => beforeCall world
        | none => _).refusals = _
      split <;> exact beside
  | _ => exact beside

/-- The outbox holds what was inserted. -/
def Replayed (before : EventTable) (world : World) : Prop :=
  world.outbox = replay ids before world.record.insertions

theorem replayed_handle {before : EventTable} (call : Call)
    (replayed : Replayed ids before world) : Replayed ids before (handle ids call world).2 := by
  obtain ⟨record, -, outbox, -⟩ := before_call_beside world
  have still : Replayed ids before (beforeCall world) := by
    unfold Replayed
    rw [outbox, record]
    exact replayed
  cases call with
  | findByProvider providerId =>
      show Replayed ids before (match (world.turns world.calls).fault with
        | some _ => beforeCall world
        | none => _)
      split <;> exact still
  | destroyWorkerById providerId resourceId =>
      show Replayed ids before (match (beforeCall world).refusals (providerId, resourceId) with
        | some _ => beforeCall world
        | none => _)
      split <;> exact still
  | insertEvent event =>
      show Insertion.apply ids (beforeCall world).outbox _ =
        replay ids before ((beforeCall world).record.insertions ++ [_])
      unfold replay
      rw [List.foldl_append, still]
      rfl
  | _ => exact still

end Beside

/-! ## The parts of the pass -/

section Parts

variable (ids : UuidSource) (texts : RowTexts)

/-- The event of the insertion tells of the worker, at the time that was read for it. -/
def Describes (key : Key) (insertion : Insertion) : Prop :=
  ∃ orphan, orphan.providerResourceId = key.2 ∧
    insertion.event =
      WorkerGarbageCollector.emitOrphanDetected texts orphan key.1 insertion.now

/-- What the pass has found it has told, and has destroyed where the provider does so, up to
the workers that are pending. -/
def Aligned (refusals : Key → Option String) (pending : List Key) (record : Record) : Prop :=
  ∃ cleaned, record.missing = cleaned ++ pending ∧
    record.destroyed = cleaned.filter (fun key => (refusals key).isNone) ∧
    List.Forall₂ (Describes texts) cleaned record.insertions

theorem run_find_orphans (registeredIds : List String) (workers : List ProviderWorkerInfo)
    (world : World) :
    (run (handle ids) (findOrphans registeredIds workers) world).1.map
        OrphanWorkerInfo.providerResourceId =
      (workers.map ProviderWorkerInfo.resourceId).filter (· ∉ registeredIds) ∧
    (run (handle ids) (findOrphans registeredIds workers) world).2.record = world.record := by
  induction workers generalizing world with
  | nil => exact ⟨rfl, rfl⟩
  | cons worker rest ih =>
      unfold findOrphans
      by_cases known : worker.resourceId ∈ registeredIds
      · rw [if_pos known, List.map_cons, List.filter_cons_of_neg (by simpa using known)]
        exact ih world
      · rw [if_neg known, List.map_cons, List.filter_cons_of_pos (by simpa using known)]
        have seen (world : World) :
            (run (handle ids) (lastSeenOrNow worker) world).2.record = world.record := by
          unfold lastSeenOrNow
          split
          · rfl
          · exact (before_call_beside world).1
        simp only [run_bind]
        obtain ⟨found, same⟩ := ih (run (handle ids) (lastSeenOrNow worker)
          (run (handle ids) (request Call.newWorkerId) world).2).2
        constructor
        · show worker.resourceId :: _ = _
          rw [← found]
        · show (run (handle ids) (findOrphans registeredIds rest) _).2.record = _
          rw [same, seen]
          exact (before_call_beside world).1

/-- A worker has a row exactly if the rows of its provider show it. -/
theorem has_row_eq (world : World) (providerId : ProviderId) (resourceId : String) :
    world.hasRow (providerId, resourceId) =
      decide (resourceId ∈ registeredIds (world.rowsOf providerId)) := by
  rw [Bool.eq_iff_iff, decide_eq_true_iff]
  simp only [World.hasRow, World.rowsOf, registeredIds, keyOf, List.any_eq_true,
    decide_eq_true_eq, Prod.mk.injEq, List.mem_map, List.mem_filter]
  constructor
  · rintro ⟨worker, member, ofProvider, same⟩
    exact ⟨worker, ⟨member, ofProvider⟩, same⟩
  · rintro ⟨worker, ⟨member, ofProvider⟩, same⟩
    exact ⟨worker, member, ofProvider, same⟩

/-- What is missing among the listed workers of a provider. -/
theorem missing_of_listed (world : World) (providerId : ProviderId)
    (workers : List ProviderWorkerInfo) :
    (workers.map fun worker => (providerId, worker.resourceId)).filter
        (fun key => !world.hasRow key) =
      ((workers.map ProviderWorkerInfo.resourceId).filter
        (· ∉ registeredIds (world.rowsOf providerId))).map (Prod.mk providerId) := by
  rw [List.filter_map, List.filter_map, List.map_map]
  congr 1
  apply List.filter_congr
  intro worker _
  simp only [Function.comp_apply, has_row_eq, decide_not]

variable {ids} {texts} {refusals : Key → Option String} {world : World} {providerId : ProviderId}

def keysOf (providerId : ProviderId) (orphans : List OrphanWorkerInfo) : List Key :=
  orphans.map fun orphan => (providerId, orphan.providerResourceId)

theorem keys_of_eq (providerId : ProviderId) (orphans : List OrphanWorkerInfo) :
    keysOf providerId orphans =
      (orphans.map OrphanWorkerInfo.providerResourceId).map (Prod.mk providerId) := by
  rw [List.map_map]
  rfl

theorem aligned_found {record : Record} (aligned : Aligned texts refusals [] record)
    (found : List Key) :
    Aligned texts refusals found { record with missing := record.missing ++ found } := by
  obtain ⟨cleaned, missing, destroyed, told⟩ := aligned
  refine ⟨cleaned, ?_, destroyed, told⟩
  rw [List.append_nil] at missing
  show record.missing ++ found = _
  rw [missing]

/-- The list is recorded, and nothing else. -/
theorem run_list_workers (ids : UuidSource) (providerId : ProviderId) (world : World) :
    ∃ listed, (run (handle ids) (listWorkers providerId) world).2.record =
        { world.record with listed := listed } ∧
      ∀ workers, (run (handle ids) (listWorkers providerId) world).1 = .ok workers →
        listed = workers.map fun worker => (providerId, worker.resourceId) := by
  obtain ⟨recorded, -⟩ := before_call_beside world
  have listing : run (handle ids) (listWorkers providerId) world =
      answer ids (world.turns world.calls) (beforeCall world) (.listWorkers providerId) := rfl
  rw [listing]
  refine ⟨_, by rw [← recorded]; rfl, ?_⟩
  intro workers replied
  unfold answer replyOr at replied
  dsimp only at replied
  cases fault : (world.turns world.calls).fault with
  | some error =>
      rw [fault] at replied
      cases replied
  | none =>
      rw [fault] at replied
      rw [Except.ok.inj replied]

/-- The rows that are read show which of the listed workers are missing. -/
theorem run_find_by_provider (ids : UuidSource) {providerId : ProviderId} {world : World}
    {workers : List ProviderWorkerInfo}
    (listed : world.record.listed = workers.map fun worker => (providerId, worker.resourceId)) :
    (∃ error, (run (handle ids) (findByProvider providerId) world).1 = .error error ∧
        (run (handle ids) (findByProvider providerId) world).2.record = world.record) ∨
      ∃ rows, (run (handle ids) (findByProvider providerId) world).1 = .ok rows ∧
        (run (handle ids) (findByProvider providerId) world).2.record =
          { world.record with
            missing := world.record.missing ++
              ((workers.map ProviderWorkerInfo.resourceId).filter
                (· ∉ registeredIds rows)).map (Prod.mk providerId) } := by
  obtain ⟨recorded, -⟩ := before_call_beside world
  have finding : run (handle ids) (findByProvider providerId) world =
      answer ids (world.turns world.calls) (beforeCall world) (.findByProvider providerId) := rfl
  rw [finding]
  unfold answer replyOr
  dsimp only
  cases (world.turns world.calls).fault with
  | some error => exact .inl ⟨error, rfl, recorded⟩
  | none =>
      right
      refine ⟨(beforeCall world).rowsOf providerId, rfl, ?_⟩
      dsimp only
      rw [recorded, listed, missing_of_listed]

variable (ids providerId) in
theorem run_detect (aligned : Aligned texts refusals [] world.record) :
    Aligned texts refusals
      (match (run (handle ids) (detectOrphansForProvider texts providerId) world).1 with
        | .ok orphans => keysOf providerId orphans
        | .error _ => [])
      (run (handle ids) (detectOrphansForProvider texts providerId) world).2.record := by
  unfold detectOrphansForProvider
  rw [run_bind]
  obtain ⟨listed, recorded, ofWorkers⟩ := run_list_workers ids providerId world
  generalize run (handle ids) (listWorkers providerId) world = listing at recorded ofWorkers ⊢
  obtain ⟨reply, listing⟩ := listing
  have relisted : Aligned texts refusals [] listing.record := by
    rw [recorded]
    exact aligned
  cases reply with
  | error error => exact relisted
  | ok workers =>
      dsimp only
      rw [run_bind]
      have known : listing.record.listed =
          workers.map fun worker => (providerId, worker.resourceId) := by
        rw [recorded]
        exact ofWorkers workers rfl
      have finding := run_find_by_provider ids known
      generalize run (handle ids) (findByProvider providerId) listing = found at finding ⊢
      obtain ⟨reply, reading⟩ := found
      rcases finding with ⟨error, refused, same⟩ | ⟨rows, ok, missing⟩
      · cases refused
        show Aligned texts refusals [] reading.record
        rw [same]
        exact relisted
      · cases ok
        simp only [run_bind]
        obtain ⟨orphans, same⟩ := run_find_orphans ids (registeredIds rows) workers reading
        show Aligned texts refusals
          (keysOf providerId
            (run (handle ids) (findOrphans (registeredIds rows) workers) reading).1)
          (run (handle ids) (findOrphans (registeredIds rows) workers) reading).2.record
        rw [same, keys_of_eq, orphans, missing]
        exact aligned_found relisted _

/-- Telling of an orphan and destroying it leaves one worker less to do. -/
theorem aligned_cleaned {record : Record} {key : Key} {pending : List Key}
    {insertion : Insertion} {orphan : OrphanWorkerInfo}
    (aligned : Aligned texts refusals (key :: pending) record)
    (ofKey : orphan.providerResourceId = key.2)
    (tells : insertion.event =
      WorkerGarbageCollector.emitOrphanDetected texts orphan key.1 insertion.now) :
    Aligned texts refusals pending
      { record with
        insertions := record.insertions ++ [insertion]
        destroyed := record.destroyed ++ [key].filter fun key => (refusals key).isNone } := by
  obtain ⟨cleaned, missing, destroyed, told⟩ := aligned
  refine ⟨cleaned ++ [key], ?_, ?_, ?_⟩
  · show record.missing = _
    rw [missing, List.append_assoc, List.singleton_append]
  · rw [List.filter_append, ← destroyed]
  · exact List.rel_append told (.cons ⟨orphan, ofKey, tells⟩ .nil)

variable (ids) in
theorem refusals_run {Result : Type} (program : OrphanM Result)
    (refused : world.refusals = refusals) :
    (run (handle ids) program world).2.refusals = refusals :=
  run_keeps (handle ids) (fun world => world.refusals = refusals)
    (fun call world same => (refusals_handle ids world call).trans same) program world refused

variable (ids texts world providerId) in
theorem run_emit (orphan : OrphanWorkerInfo) :
    ∃ insertion, insertion.event =
        WorkerGarbageCollector.emitOrphanDetected texts orphan providerId insertion.now ∧
      (run (handle ids) (emitOrphanDetected texts orphan providerId) world).2.record =
        { world.record with insertions := world.record.insertions ++ [insertion] } := by
  obtain ⟨asked, -⟩ := before_call_beside world
  let now := (world.turns world.calls).time
  obtain ⟨recorded, -, -, shown⟩ := before_call_beside (afterNow world)
  let turn := (afterNow world).turns (afterNow world).calls
  refine ⟨⟨WorkerGarbageCollector.emitOrphanDetected texts orphan providerId now,
    (beforeCall (afterNow world)).clock, turn.time, turn.fault⟩, ?_, ?_⟩
  · rw [shown]
    rfl
  · rw [← asked, show (beforeCall world).record = (afterNow world).record from rfl, ← recorded]
    rfl

theorem run_destroy (resourceId : String) :
    (run (handle ids) (destroyWorkerById providerId resourceId) world).2.record =
      { world.record with
        destroyed := world.record.destroyed ++
          [(providerId, resourceId)].filter fun key => (world.refusals key).isNone } := by
  obtain ⟨recorded, refused, -⟩ := before_call_beside world
  have destroying : run (handle ids) (destroyWorkerById providerId resourceId) world =
    answer ids (world.turns world.calls) (beforeCall world)
      (.destroyWorkerById providerId resourceId) := rfl
  rw [destroying]
  unfold answer
  dsimp only
  rw [refused]
  cases refusal : world.refusals (providerId, resourceId) with
  | some error =>
      rw [List.filter_cons_of_neg (by simp [refusal]), List.filter_nil, List.append_nil]
      exact recorded
  | none =>
      rw [List.filter_cons_of_pos (by simp [refusal]), List.filter_nil, ← recorded]

theorem run_clean (orphans : List OrphanWorkerInfo) (result : OrphanCleanupResult)
    (refused : world.refusals = refusals)
    (aligned : Aligned texts refusals (keysOf providerId orphans) world.record) :
    Aligned texts refusals []
      (run (handle ids) (cleanOrphans texts providerId orphans result) world).2.record := by
  induction orphans generalizing world result with
  | nil => exact aligned
  | cons orphan rest ih =>
      unfold cleanOrphans
      simp only [run_bind]
      generalize emits : (run (handle ids) (emitOrphanDetected texts orphan providerId)
        world).2 = told
      generalize destroys : run (handle ids)
        (destroyWorkerById providerId orphan.providerResourceId) told = destroyed
      have refusedThen : told.refusals = refusals := by
        rw [← emits]
        exact refusals_run ids _ refused
      have still : destroyed.2.refusals = refusals := by
        rw [← destroys]
        exact refusals_run ids _ refusedThen
      have cleaned : Aligned texts refusals (keysOf providerId rest) destroyed.2.record := by
        obtain ⟨insertion, tells, recorded⟩ :=
          run_emit ids texts world providerId orphan
        rw [emits] at recorded
        rw [← destroys, run_destroy, refusedThen, recorded]
        exact aligned_cleaned aligned rfl tells
      obtain ⟨outcome, after⟩ := destroyed
      cases outcome with
      | ok done => exact ih _ still cleaned
      | error error => exact ih _ still cleaned

theorem run_scan_provider (result : OrphanCleanupResult) (refused : world.refusals = refusals)
    (aligned : Aligned texts refusals [] world.record) :
    Aligned texts refusals []
      (run (handle ids) (scanProvider texts providerId result) world).2.record := by
  unfold scanProvider
  simp only [run_bind]
  generalize gets : run (handle ids) (getProvider providerId) world = got
  have still : got.2.refusals = refusals := by
    rw [← gets]
    exact refusals_run ids _ refused
  have found : Aligned texts refusals [] got.2.record := by
    rw [← gets]
    show Aligned texts refusals [] (beforeCall world).record
    rw [(before_call_beside world).1]
    exact aligned
  obtain ⟨connected, asked⟩ := got
  cases connected with
  | false => exact found
  | true =>
      rw [if_pos rfl, run_bind]
      have detected := run_detect ids providerId found
      have stillThen := refusals_run ids (detectOrphansForProvider texts providerId) still
      generalize run (handle ids) (detectOrphansForProvider texts providerId) asked = outcome
        at detected stillThen
      obtain ⟨orphans, after⟩ := outcome
      cases orphans with
      | error error => exact detected
      | ok orphans => exact run_clean orphans _ stillThen detected

theorem run_scan_providers (providerIds : List ProviderId) (result : OrphanCleanupResult)
    (refused : world.refusals = refusals) (aligned : Aligned texts refusals [] world.record) :
    Aligned texts refusals []
      (run (handle ids) (scanProviders texts providerIds result) world).2.record := by
  induction providerIds generalizing world result with
  | nil => exact aligned
  | cons providerId rest ih =>
      unfold scanProviders
      rw [run_bind]
      exact ih _ (refusals_run ids _ refused) (run_scan_provider result refused aligned)

/-- At the end everything that is missing has been told of and destroyed. -/
theorem run_pass (refused : world.refusals = refusals)
    (aligned : Aligned texts refusals [] world.record) :
    Aligned texts refusals []
      (run (handle ids) (detectAndCleanupOrphans texts) world).2.record := by
  unfold detectAndCleanupOrphans
  simp only [run_bind, run_request]
  have started : Aligned texts refusals [] (beforeCall (afterNow world)).record := by
    rw [(before_call_beside (afterNow world)).1]
    show Aligned texts refusals [] (beforeCall world).record
    rw [(before_call_beside world).1]
    exact aligned
  have still : (beforeCall (afterNow world)).refusals = refusals := by
    rw [(before_call_beside (afterNow world)).2.1]
    exact (before_call_beside world).2.1.trans refused
  show Aligned texts refusals [] (beforeCall (run (handle ids)
    (scanProviders texts (beforeCall (afterNow world)).providers ⟨0, 0, 0, 0, 0⟩)
    (beforeCall (afterNow world))).2).record
  rw [(before_call_beside _).1]
  exact run_scan_providers _ _ still started

end Parts

/-! ## Whole passes -/

section Passes

variable (ids : UuidSource) (texts : RowTexts) (providers : List ProviderId)
  (held : List (ProviderId × ProviderWorkerInfo)) (registry : Table RegisteredWorker.id)
  (outbox : EventTable) (turns : Nat → Turn) (refusals : Key → Option String)
  (after : List ProvisioningMove)

variable {texts} in
theorem keyed_of_described {keys : List Key} {insertions : List Insertion}
    (described : List.Forall₂ (Describes texts) keys insertions) :
    ∀ insertion ∈ insertions, insertion.event.idempotencyKey ≠ none := by
  induction described with
  | nil => exact fun _ member => absurd member List.not_mem_nil
  | cons describes _ ih =>
      obtain ⟨orphan, -, tells⟩ := describes
      intro insertion member
      rcases List.mem_cons.mp member with rfl | later
      · rw [tells]
        exact Option.some_ne_none _
      · exact ih insertion later

variable {texts} in
/-- The rows of insertions that describe workers tell of them. -/
theorem tells_of_described {keys : List Key} {insertions : List Insertion}
    {rows : List OutboxEventView} (described : List.Forall₂ (Describes texts) keys insertions)
    (inserted : List.Forall₂ (fun insertion row => ∃ id,
      row = EventTable.insertedEvent id insertion.createdAt insertion.event) insertions rows) :
    List.Forall₂ (TellsOf texts) keys rows := by
  induction described generalizing rows with
  | nil =>
      cases inserted
      exact .nil
  | @cons _ insertion _ _ describes _ ih =>
      obtain ⟨orphan, ofKey, tells⟩ := describes
      cases inserted with
      | cons row rest =>
          obtain ⟨id, rfl⟩ := row
          refine .cons ⟨orphan, insertion.now, id, insertion.createdAt, ofKey, ?_⟩ (ih rest)
          rw [tells]

variable {texts} in
/-- The keys are those of the providers and the seconds. -/
theorem keys_of_described {keys : List Key} {insertions : List Insertion}
    (described : List.Forall₂ (Describes texts) keys insertions) :
    (insertions.map fun insertion => insertion.event.idempotencyKey) =
      (sightings keys insertions).map fun sighting =>
        some (orphanKey texts sighting.1 sighting.2) := by
  induction described with
  | nil => rfl
  | cons describes _ ih =>
      obtain ⟨orphan, -, tells⟩ := describes
      rw [List.map_cons, ih, tells]
      rfl

variable {texts} in
/-- The keys are new exactly if no two orphans of a provider share a second. -/
theorem keys_new_iff (plain : NoHyphenLast texts) {keys : List Key}
    {insertions : List Insertion}
    (described : List.Forall₂ (Describes texts) keys insertions) :
    KeysNew outbox insertions ↔ SecondsApart texts outbox keys insertions := by
  have written := keys_of_described described
  have distinct : (insertions.map fun insertion => insertion.event.idempotencyKey).Nodup ↔
      (sightings keys insertions).Nodup := by
    rw [written]
    apply List.nodup_map_iff
    intro sighting other same
    obtain ⟨ofProvider, second⟩ := orphan_key_injective plain (Option.some.inj same)
    exact Prod.ext ofProvider second
  have new : (∀ insertion ∈ insertions, ∀ row ∈ outbox.rows,
        row.idempotencyKey ≠ insertion.event.idempotencyKey) ↔
      ∀ sighting ∈ sightings keys insertions, ∀ row ∈ outbox.rows,
        row.idempotencyKey ≠ some (orphanKey texts sighting.1 sighting.2) := by
    have overKeys := List.forall_mem_map
      (P := fun key => ∀ row ∈ outbox.rows, row.idempotencyKey ≠ key)
      (f := fun insertion : Insertion => insertion.event.idempotencyKey) (l := insertions)
    rw [← overKeys, written, List.forall_mem_map]
  unfold KeysNew SecondsApart
  rw [distinct, new]

/-- The rows in the outbox tell of each orphan exactly if they fall into seconds of their own. -/
theorem tells_of_each_iff (plain : NoHyphenLast texts) {world : World}
    (aligned : Aligned texts refusals [] world.record)
    (replayed : Replayed ids outbox world) :
    TellsOfEach texts outbox world.outbox world.record.missing ↔
      SecondsApart texts outbox world.record.missing world.record.insertions := by
  obtain ⟨cleaned, missing, -, told⟩ := aligned
  rw [List.append_nil] at missing
  have keyed := keyed_of_described told
  rw [missing, replayed, ← keys_new_iff outbox plain told]
  constructor
  · rintro ⟨rows, added, each⟩
    rw [← replay_full_iff outbox _ keyed, added, List.length_append, ← each.length_eq,
      told.length_eq]
  · intro new
    obtain ⟨rows, added, each⟩ := replay_rows outbox _ keyed new
    exact ⟨rows, added, tells_of_described told each⟩

/-- In any interleaving with provisionings: the pass spares whatever is registered exactly if none
of it was listed and not among the rows read after, and the outbox has one row for each orphan
exactly if no two orphans of a provider are told of in one second and none in a second that the
outbox has already. -/
theorem pass_keeps_iff (plain : NoHyphenLast texts) :
    let world := pass ids texts (.start providers held registry outbox turns refusals) after
    (SparesRegistered world ↔ NoneLate world) ∧
    (TellsOfEach texts outbox world.outbox world.record.missing ↔
      SecondsApart texts outbox world.record.missing world.record.insertions) ∧
    (SparesRegistered world ∧ TellsOfEach texts outbox world.outbox world.record.missing ↔
      NoneLate world ∧
        SecondsApart texts outbox world.record.missing world.record.insertions) := by
  intro world
  let start := World.start providers held registry outbox turns refusals
  let ended := (run (handle ids) (detectAndCleanupOrphans texts) start).2
  obtain ⟨recorded, refused, kept, -⟩ := beside_moves ended after
  have aligned : Aligned texts refusals [] world.record := by
    rw [show world.record = ended.record from recorded]
    exact run_pass rfl ⟨[], rfl, rfl, .nil⟩
  have replayed : Replayed ids outbox world := by
    have atEnd : Replayed ids outbox ended :=
      run_keeps (handle ids) (Replayed ids outbox)
        (fun call world => replayed_handle ids world call) _ start rfl
    show world.outbox = replay ids outbox world.record.insertions
    rw [show world.outbox = ended.outbox from kept, show world.record = ended.record from recorded]
    exact atEnd
  have told := tells_of_each_iff ids texts outbox refusals plain aligned replayed
  have spared : SparesRegistered world ↔ NoneLate world := by
    have refusing : world.refusals = refusals := refused.trans (refusals_run ids _ rfl)
    obtain ⟨cleaned, missing, destroyed, -⟩ := aligned
    rw [List.append_nil] at missing
    simp only [SparesRegistered, NoneLate, destroyed, missing, refusing, List.mem_filter,
      Option.isNone_iff_eq_none, not_and, ne_eq]
  exact ⟨spared, told, and_congr spared told⟩

end Passes

/-! Two orphans that are told of in two seconds, beside a worker that is provisioned before the
provider is asked. -/

def oneProvider : ProviderId := ⟨1⟩

/-- Every call succeeds, and takes a second. -/
def secondTurns (moves : Nat → List ProvisioningMove) (call : Nat) : Turn :=
  ⟨moves call, call * 1000000, true, ⟨call⟩, none⟩

def earlyRegistration : Nat → List ProvisioningMove
  | 2 => [.create oneProvider ⟨"early", none⟩, .register ⟨⟨1⟩, "early", .docker, oneProvider⟩]
  | _ => []

def secondsApart : World :=
  pass .successor ⟨Commands.zerosText, fun _ => ""⟩
    (.start [oneProvider] [(oneProvider, ⟨"first", none⟩), (oneProvider, ⟨"second", none⟩)]
      ⟨[], List.nodup_nil⟩ ⟨[], List.nodup_nil⟩ (secondTurns earlyRegistration) fun _ => none) []

theorem no_hyphen_last_zeros : NoHyphenLast ⟨Commands.zerosText, fun _ => ""⟩ := by
  intro id last
  have member : '-' ∈ (String.ofList (List.replicate id '0')).toList :=
    List.mem_of_getLast? last
  rw [String.toList_ofList] at member
  exact absurd (List.eq_of_mem_replicate member) (by decide)

theorem pass_with_seconds_apart_keeps :
    SparesRegistered secondsApart ∧
    TellsOfEach ⟨Commands.zerosText, fun _ => ""⟩ ⟨[], List.nodup_nil⟩ secondsApart.outbox
      secondsApart.record.missing := by
  refine (pass_keeps_iff .successor _ [oneProvider] _ _ _ (secondTurns earlyRegistration) _ []
    no_hyphen_last_zeros).2.2.mpr ⟨?_, ?_, ?_, ?_⟩
  · show ∀ key ∈ [(oneProvider, "early")], key ∈ [(oneProvider, "first"), (oneProvider, "second")] →
      none ≠ none
    decide
  · intro insertion member
    have clean : (secondsApart.record.insertions.all fun insertion =>
      decide (insertion.fault = none)) = true := rfl
    exact of_decide_eq_true (List.all_eq_true.mp clean insertion member)
  · show (sightings secondsApart.record.missing secondsApart.record.insertions).Nodup
    decide
  · exact fun sighting _ row member => absurd member List.not_mem_nil

/-! A worker that is created before its provider is asked and registered after the rows were read,
and two orphans that are found in one second. -/

/-- Every call succeeds, at one time. -/
def calmTurns (moves : Nat → List ProvisioningMove) (call : Nat) : Turn :=
  ⟨moves call, 0, true, ⟨call⟩, none⟩

def lateRegistration : Nat → List ProvisioningMove
  | 3 => [.create oneProvider ⟨"late", none⟩]
  | 5 => [.register ⟨⟨1⟩, "late", .docker, oneProvider⟩]
  | _ => []

def passOf (held : List (ProviderId × ProviderWorkerInfo)) (moves : Nat → List ProvisioningMove) :
    World :=
  pass .successor ⟨Commands.zerosText, fun _ => ""⟩
    (.start [oneProvider] held ⟨[], List.nodup_nil⟩ ⟨[], List.nodup_nil⟩ (calmTurns moves)
      fun _ => none) []

def twoOrphans : World :=
  passOf [(oneProvider, ⟨"first", none⟩), (oneProvider, ⟨"second", none⟩)] fun _ => []

theorem pass_destroys_registered_and_hides_orphan :
    ¬SparesRegistered (passOf [] lateRegistration) ∧
    ¬TellsOfEach ⟨Commands.zerosText, fun _ => ""⟩ ⟨[], List.nodup_nil⟩ twoOrphans.outbox
      twoOrphans.record.missing := by
  constructor
  · intro spares
    have registered : (passOf [] lateRegistration).registered = [(oneProvider, "late")] := rfl
    have destroyed : (passOf [] lateRegistration).record.destroyed = [(oneProvider, "late")] := rfl
    refine spares (oneProvider, "late") ?_ ?_
    · rw [registered]
      exact List.mem_singleton_self _
    · rw [destroyed]
      exact List.mem_singleton_self _
  · rintro ⟨rows, added, each⟩
    have told : twoOrphans.outbox.rows.length = 1 := by decide
    have orphans : twoOrphans.record.missing.length = 2 := rfl
    rw [added, List.nil_append, ← each.length_eq, orphans] at told
    cases told

end HodeiJobs.Workers.OrphanCollection
