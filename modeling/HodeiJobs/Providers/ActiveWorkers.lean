import HodeiJobs.Library.Fallible
import HodeiJobs.Providers.ProviderConfig

/-!
# The active workers of a provider

The operations of `ProviderRegistry` that change one field of a configuration: each reads the
whole row and later writes it back. What is read has no active workers, whatever was written.
-/

namespace HodeiJobs.Providers

open HodeiJobs.Dispatch (ProviderId)
open HodeiJobs.Library
open HodeiJobs.Outbox (ProviderStatus Serde)
open HodeiJobs.Sagas (DateTime)
open HodeiJobs.Workers (ProviderType)

variable {types : ProviderTypes}

/-! ## The operations -/

inductive Operation where
  | incrementActiveWorkers
  | decrementActiveWorkers
  | enableProvider
  | disableProvider
  | updateProviderStatus (newStatus : ProviderStatus)
  deriving DecidableEq

namespace Operation

def setStatus (config : ProviderConfig types) (status : ProviderStatus) (now : DateTime) :
    ProviderConfig types :=
  { config with status := status, updatedAt := now }

/-- What an operation writes back, if anything. -/
def change (config : ProviderConfig types) (now : DateTime) :
    Operation → Option (ProviderConfig types)
  | incrementActiveWorkers => some (config.incrementWorkers now)
  | decrementActiveWorkers => some (config.decrementWorkers now)
  | enableProvider => some (setStatus config .active now)
  | disableProvider => some (setStatus config .disabled now)
  | updateProviderStatus newStatus =>
      if config.status = newStatus then none else some (setStatus config newStatus now)

/-- The status that an operation sets. -/
def sets : Operation → Option ProviderStatus
  | incrementActiveWorkers | decrementActiveWorkers => none
  | enableProvider => some .active
  | disableProvider => some .disabled
  | updateProviderStatus newStatus => some newStatus

/-- What an operation adds to the active workers. -/
def delta : Operation → Int
  | incrementActiveWorkers => 1
  | decrementActiveWorkers => -1
  | _ => 0

variable {operation : Operation} {config changed : ProviderConfig types} {now : DateTime}

/-- An operation keeps what identifies the provider. -/
theorem of_change (changes : operation.change config now = some changed) :
    changed.id = config.id ∧ changed.name = config.name := by
  cases operation with
  | updateProviderStatus newStatus =>
      simp only [change, Option.ite_none_left_eq_some, Option.some.injEq] at changes
      simp [← changes.2, setStatus]
  | _ =>
      cases changes
      exact ⟨rfl, rfl⟩

theorem status_of_change (changes : operation.change config now = some changed)
    {status : ProviderStatus} (sets : operation.sets = some status) :
    changed.status = status := by
  cases operation with
  | incrementActiveWorkers | decrementActiveWorkers => cases sets
  | enableProvider | disableProvider =>
      cases sets
      cases changes
      rfl
  | updateProviderStatus newStatus =>
      cases sets
      simp only [change, Option.ite_none_left_eq_some, Option.some.injEq] at changes
      simp [← changes.2, setStatus]

end Operation

/-! ## Interleavings -/

/-- A call of an operation on the provider reads its row and, if there is something to write,
writes it back later; either may fail. -/
inductive RegistryMove where
  | read (operation : Operation) (now : DateTime) (fault : Option String)
  | write (position : Nat) (now : DateTime) (fault : Option String)

/-- The table and the calls that have still to write. Recorded are the successful increments
minus decrements, whether these were ever negative, and the status that was written last by
an operation that sets it. -/
structure RegistryState (types : ProviderTypes) where
  configs : ProviderConfigs
  pending : List (Operation × ProviderConfig types)
  balance : Int
  negative : Bool
  status : Option String

def ProviderConfigs.status (configs : ProviderConfigs) (id : ProviderId) : Option String :=
  (configs.table.find id).map ProviderRow.status

namespace RegistryState

variable (id : ProviderId) (database : Database) (state : RegistryState types)

def start (types : ProviderTypes) (configs : ProviderConfigs) : RegistryState types where
  configs := configs
  pending := []
  balance := 0
  negative := false
  status := configs.status id

def read (operation : Operation) (now : DateTime) (fault : Option String) :
    RegistryState types :=
  match state.configs.findById types fault id with
  | .ok (some config) =>
      match operation.change config now with
      | some changed => { state with pending := state.pending ++ [(operation, changed)] }
      | none => state
  | _ => state

/-- The operation has succeeded. -/
def record (operation : Operation) (configs : ProviderConfigs) : RegistryState types :=
  { state with
    configs := configs
    balance := state.balance + operation.delta
    negative := state.negative || decide (state.balance + operation.delta < 0)
    status := (operation.sets.map displayStatus).or state.status }

def write (position : Nat) (now : DateTime) (fault : Option String) : RegistryState types :=
  match state.pending[position]? with
  | none => state
  | some (operation, config) =>
      let called := { state with pending := state.pending.eraseIdx position }
      match state.configs.save database fault now config with
      | (.ok _, configs) => called.record operation configs
      | (.error _, _) => called

def step (state : RegistryState types) : RegistryMove → RegistryState types
  | .read operation now fault => state.read id operation now fault
  | .write position now fault => state.write database position now fault

end RegistryState

/-! ## What is asked of the registry -/

/-- The list consists of the enabled providers that have capacity. -/
def ProviderConfigs.ListsCapacity (types : ProviderTypes) (configs : ProviderConfigs) : Prop :=
  ∃ listed, configs.findWithCapacity types none = .ok listed ∧
    ∀ config, config ∈ listed ↔
      (∃ row ∈ configs.table.rows, mapRowToProviderConfig types row = .ok config) ∧
        config.isEnabled = true ∧ config.hasCapacity = true

namespace RegistryState

variable (id : ProviderId) (database : Database) (state : RegistryState types)

structure Keeps : Prop where
  counter : state.negative = false → ∀ config,
    state.configs.findById types none id = .ok (some config) →
      (config.activeWorkers.toNat : Int) = state.balance
  status : state.configs.status id = state.status
  capacity : state.configs.ListsCapacity types

/-- A write that succeeds is not that of an increment, unless the decrements are ahead
already; if it is that of a counter, the status that the call has read is still there; and
a provider that it leaves active may have workers. -/
def Harmless : RegistryMove → Prop
  | .read .. => True
  | .write position _ fault => ∀ operation config region,
      state.pending[position]? = some (operation, config) → fault = none →
      database.region (Serde.text.optional config.preferredRegion) = .ok region →
        (operation = .incrementActiveWorkers → state.negative = true) ∧
        (operation.sets = none → state.configs.status id = some (displayStatus config.status)) ∧
        (config.status = .active → config.maxWorkers ≠ 0)

end RegistryState

/-! ## Reading back -/

theorem status_of_eq_active_iff (text : String) : statusOf text = .active ↔ text = "ACTIVE" := by
  unfold statusOf
  split <;> simp_all

theorem display_status_eq_active_iff (status : ProviderStatus) :
    displayStatus status = "ACTIVE" ↔ status = .active := by
  cases status <;> decide

def ProviderRow.Readable (types : ProviderTypes) (row : ProviderRow) : Prop :=
  ∃ typeConfig, deserializeFromJson types row.config = .ok typeConfig

theorem readable_iff (row : ProviderRow) :
    row.Readable types ↔ ∃ config, mapRowToProviderConfig types row = .ok config := by
  unfold ProviderRow.Readable mapRowToProviderConfig
  cases deserializeFromJson types row.config <;> simp

/-- What is read of a row, whatever its type configuration. -/
theorem of_map_row {row : ProviderRow} {config : ProviderConfig types}
    (read : mapRowToProviderConfig types row = .ok config) :
    config.id = row.id ∧ config.name = row.name ∧ config.status = statusOf row.status ∧
      config.maxWorkers = row.maxWorkers.toUInt32 ∧ config.activeWorkers = 0 := by
  unfold mapRowToProviderConfig at read
  split at read
  · cases read
  · cases read
    exact ⟨rfl, rfl, rfl, rfl, rfl⟩

/-- An active row is read as a provider with capacity. -/
def ProviderRow.Serves (types : ProviderTypes) (row : ProviderRow) : Prop :=
  row.status = "ACTIVE" → row.maxWorkers.toUInt32 ≠ 0 ∧ row.Readable types

theorem enabled_iff {row : ProviderRow} {config : ProviderConfig types}
    (read : mapRowToProviderConfig types row = .ok config) :
    config.isEnabled = true ↔ row.status = "ACTIVE" := by
  rw [ProviderConfig.isEnabled, decide_eq_true_iff, (of_map_row read).2.2.1,
    status_of_eq_active_iff]

theorem has_capacity_iff {row : ProviderRow} {config : ProviderConfig types}
    (read : mapRowToProviderConfig types row = .ok config) :
    config.hasCapacity = true ↔ row.maxWorkers.toUInt32 ≠ 0 := by
  obtain ⟨-, -, -, maxWorkers, activeWorkers⟩ := of_map_row read
  rw [ProviderConfig.hasCapacity, decide_eq_true_iff, maxWorkers, activeWorkers,
    UInt32.pos_iff_ne_zero]

namespace ProviderConfigs

variable (configs : ProviderConfigs)

def activeRows : List ProviderRow :=
  configs.table.query (fun row => row.status = "ACTIVE") listedBefore configs.table.rows.length

theorem mem_active_rows {row : ProviderRow} :
    row ∈ configs.activeRows ↔ row ∈ configs.table.rows ∧ row.status = "ACTIVE" := by
  constructor
  · intro member
    have both := Table.of_mem_query member
    exact ⟨both.1, by simpa using both.2⟩
  · intro ⟨stored, active⟩
    exact Table.mem_query_of_room stored (by simpa using active) List.countP_le_length

theorem lists_capacity_iff :
    configs.ListsCapacity types ↔ ∀ row ∈ configs.table.rows, row.Serves types := by
  have listed : ∀ listed, configs.findWithCapacity types none = .ok listed →
      ∀ config, config ∈ listed ↔
        ∃ row ∈ configs.activeRows, mapRowToProviderConfig types row = .ok config :=
    fun _ succeeds => mem_map_m succeeds
  constructor
  · intro ⟨found, succeeds, exact⟩ row stored active
    have readable := map_m_ok_iff.mp ⟨found, succeeds⟩ row
      ((configs.mem_active_rows).mpr ⟨stored, active⟩)
    obtain ⟨config, read⟩ := readable
    have member : config ∈ found := (listed found succeeds config).mpr
      ⟨row, (configs.mem_active_rows).mpr ⟨stored, active⟩, read⟩
    exact ⟨(has_capacity_iff read).mp ((exact config).mp member).2.2,
      (readable_iff row).mpr ⟨config, read⟩⟩
  · intro serves
    have readable : ∀ row ∈ configs.activeRows,
        ∃ config, mapRowToProviderConfig types row = .ok config := by
      intro row member
      obtain ⟨stored, active⟩ := configs.mem_active_rows.mp member
      exact (readable_iff row).mp (serves row stored active).2
    obtain ⟨found, succeeds⟩ := map_m_ok_iff.mpr readable
    refine ⟨found, succeeds, ?_⟩
    intro config
    rw [listed found succeeds]
    constructor
    · intro ⟨row, member, read⟩
      obtain ⟨stored, active⟩ := configs.mem_active_rows.mp member
      exact ⟨⟨row, stored, read⟩, (enabled_iff read).mpr active,
        (has_capacity_iff read).mpr (serves row stored active).1⟩
    · intro ⟨⟨row, stored, read⟩, enabled, _⟩
      exact ⟨row, configs.mem_active_rows.mpr ⟨stored, (enabled_iff read).mp enabled⟩, read⟩

end ProviderConfigs

/-! ## Writing back -/

section Save

variable {configs : ProviderConfigs} {config : ProviderConfig types} {row : ProviderRow}
  {database : Database} {now : DateTime}

/-- A name is that of one row. -/
theorem find_where_name (stored : row ∈ configs.table.rows) (same : row.name = config.name) :
    (configs.table.findWhere fun other => other.name = config.name) = some row := by
  cases found : configs.table.findWhere fun other => other.name = config.name with
  | none =>
      have absent := List.find?_eq_none.mp found row stored
      exact absurd (decide_eq_true same) absent
  | some other =>
      have named : other.name = config.name := by simpa using List.find?_some found
      have unique := List.inj_on_of_nodup_map configs.names (List.mem_of_find?_eq_some found)
        stored (named.trans same.symm)
      rw [unique]

/-- A configuration that was read of a row is written back to that row. -/
theorem save_stored (stored : configs.table.find config.id = some row)
    (same : row.name = config.name) {region : Option String}
    (accepted : database.region (Serde.text.optional config.preferredRegion) = .ok region) :
    configs.save database none now config =
      (.ok (), configs.overwrite config.id (.ofConfig config region) now) := by
  have member := List.mem_of_find?_eq_some stored
  have key : row.id = config.id := Table.find_some_key stored
  simp only [ProviderConfigs.save, accepted, find_where_name member same, key]

theorem save_refused {fault : Option String}
    (refused : fault ≠ none ∨ ∀ region,
      database.region (Serde.text.optional config.preferredRegion) ≠ .ok region) :
    ∃ problem, configs.save database fault now config = (.error problem, configs) := by
  unfold ProviderConfigs.save
  cases fault with
  | some problem => exact ⟨_, rfl⟩
  | none =>
      cases accepted : database.region (Serde.text.optional config.preferredRegion) with
      | error problem => exact ⟨_, rfl⟩
      | ok region =>
          rcases refused with failed | never
          · exact absurd rfl failed
          · exact absurd accepted (never region)

theorem find_overwrite {id : ProviderId} {excluded : ProviderRow}
    (stored : configs.table.find id = some row) :
    (configs.overwrite id excluded now).table.find id = some (excluded.overwrite now row) := by
  have updated := Table.find_update configs.table id (excluded.overwrite now) (fun _ => rfl) id
  rw [if_pos rfl, stored] at updated
  exact updated

/-- The rows after a write: the one that is overwritten, and the others. -/
theorem forall_overwrite_iff {id : ProviderId} {excluded : ProviderRow}
    (stored : configs.table.find id = some row) (holds : ProviderRow → Prop)
    (others : ∀ other ∈ configs.table.rows, holds other) :
    (∀ other ∈ (configs.overwrite id excluded now).table.rows, holds other) ↔
      holds (excluded.overwrite now row) := by
  constructor
  · intro all
    exact all _ (List.mem_of_find?_eq_some (find_overwrite stored))
  · intro written other member
    obtain ⟨old, isOld, same⟩ := List.mem_map.mp member
    subst same
    split
    · rename_i sameId
      have found := Table.find_of_mem isOld
      rw [sameId, stored] at found
      cases found
      exact written
    · exact others old isOld

theorem serves_overwritten_iff {region : Option String} :
    ((ProviderRow.ofConfig config region).overwrite now row).Serves types ↔
      (config.status = .active → config.maxWorkers ≠ 0) := by
  have readable : ((ProviderRow.ofConfig config region).overwrite now row).Readable types :=
    ⟨config.typeConfig, deserialize_to_value config.typeConfig⟩
  have status : ((ProviderRow.ofConfig config region).overwrite now row).status =
      displayStatus config.status := rfl
  have maxWorkers : ((ProviderRow.ofConfig config region).overwrite now row).maxWorkers.toUInt32 =
      config.maxWorkers := UInt32.toUInt32_toInt32 _
  simp [ProviderRow.Serves, readable, status, maxWorkers, display_status_eq_active_iff]

end Save

namespace RegistryState

variable {id : ProviderId} {database : Database} {state : RegistryState types}

/-- Every call that has still to write has read the row of the provider. -/
structure Consistent (id : ProviderId) (state : RegistryState types) : Prop where
  stored : ∀ call ∈ state.pending, call.2.id = id ∧ ∃ row,
    state.configs.table.find id = some row ∧ row.name = call.2.name ∧ row.Readable types
  sets : ∀ call ∈ state.pending, ∀ status, call.1.sets = some status → call.2.status = status

theorem start_consistent (configs : ProviderConfigs) :
    Consistent id (start id types configs) where
  stored := by simp [start]
  sets := by simp [start]

theorem of_find_by_id {configs : ProviderConfigs} {fault : Option String}
    {config : ProviderConfig types}
    (found : configs.findById types fault id = .ok (some config)) :
    fault = none ∧ ∃ row, configs.table.find id = some row ∧
      mapRowToProviderConfig types row = .ok config := by
  unfold ProviderConfigs.findById at found
  cases fault with
  | some problem => cases found
  | none =>
      cases stored : configs.table.find id with
      | none => simp [stored] at found
      | some row =>
          cases read : mapRowToProviderConfig types row with
          | error problem => simp [stored, read, Except.map] at found
          | ok other =>
              simp only [stored, read, Except.map, Except.ok.injEq, Option.some.injEq] at found
              exact ⟨rfl, row, rfl, found ▸ read⟩

theorem read_consistent {operation : Operation} {now : DateTime} {fault : Option String}
    (consistent : Consistent id state) : Consistent id (state.read id operation now fault) := by
  unfold read
  split
  · rename_i config found
    split
    · rename_i changed changes
      obtain ⟨-, row, stored, read⟩ := of_find_by_id found
      obtain ⟨sameId, sameName⟩ := Operation.of_change changes
      obtain ⟨rowId, rowName, -⟩ := of_map_row read
      constructor
      · intro call member
        rcases List.mem_append.mp member with old | new
        · exact consistent.stored call old
        · cases List.mem_singleton.mp new
          refine ⟨?_, row, stored, ?_, (readable_iff row).mpr ⟨config, read⟩⟩
          · rw [sameId, rowId, Table.find_some_key stored]
          · rw [sameName, rowName]
      · intro call member status sets
        rcases List.mem_append.mp member with old | new
        · exact consistent.sets call old status sets
        · cases List.mem_singleton.mp new
          exact Operation.status_of_change changes sets
    · exact consistent
  · exact consistent

/-- The state after a write that succeeds. -/
def written (id : ProviderId) (state : RegistryState types) (operation : Operation)
    (config : ProviderConfig types) (region : Option String) (now : DateTime)
    (pending : List (Operation × ProviderConfig types)) : RegistryState types :=
  ({ state with pending := pending } : RegistryState types).record operation
    (state.configs.overwrite id (.ofConfig config region) now)

/-- A write either does nothing to the table or overwrites the row of the provider. -/
theorem write_cases (consistent : Consistent id state) (position : Nat) (now : DateTime)
    (fault : Option String) :
    (∃ operation config region row, state.pending[position]? = some (operation, config) ∧
      fault = none ∧
      database.region (Serde.text.optional config.preferredRegion) = .ok region ∧
      config.id = id ∧ state.configs.table.find id = some row ∧ row.Readable types ∧
      (∀ status, operation.sets = some status → config.status = status) ∧
      state.write database position now fault =
        written id state operation config region now (state.pending.eraseIdx position)) ∨
    (∀ operation config region, state.pending[position]? = some (operation, config) →
      fault = none →
      database.region (Serde.text.optional config.preferredRegion) ≠ .ok region) ∧
    ∃ pending, pending ⊆ state.pending ∧
      state.write database position now fault = { state with pending := pending } := by
  unfold write
  cases called : state.pending[position]? with
  | none => exact .inr ⟨by simp, state.pending, List.Subset.refl _, rfl⟩
  | some call =>
      obtain ⟨operation, config⟩ := call
      have member := List.mem_of_getElem? called
      obtain ⟨sameId, row, stored, name, readable⟩ := consistent.stored _ member
      dsimp only at sameId stored name
      by_cases accepted : fault = none ∧ ∃ region,
          database.region (Serde.text.optional config.preferredRegion) = .ok region
      · obtain ⟨calm, region, accepted⟩ := accepted
        left
        refine ⟨operation, config, region, row, rfl, calm, accepted, sameId, stored, readable,
          consistent.sets _ member, ?_⟩
        subst calm sameId
        have saved : state.configs.save database none now config = _ :=
          save_stored stored name accepted
        simp only [saved]
        rfl
      · right
        have refused : fault ≠ none ∨ ∀ region,
            database.region (Serde.text.optional config.preferredRegion) ≠ .ok region := by
          by_cases calm : fault = none
          · exact .inr fun region succeeds => accepted ⟨calm, region, succeeds⟩
          · exact .inl calm
        obtain ⟨problem, failed⟩ : ∃ problem,
            state.configs.save database fault now config = (.error problem, state.configs) :=
          save_refused refused
        refine ⟨?_, state.pending.eraseIdx position, List.eraseIdx_subset, ?_⟩
        · intro other otherConfig region same calm succeeds
          cases same
          exact accepted ⟨calm, region, succeeds⟩
        · simp only [failed]

theorem write_consistent {position : Nat} {now : DateTime} {fault : Option String}
    (consistent : Consistent id state) :
    Consistent id (state.write database position now fault) := by
  rcases write_cases consistent position now fault with
    ⟨operation, config, region, row, -, -, -, -, stored, -, -, same⟩ | ⟨-, pending, fewer, same⟩
  · rw [same]
    constructor
    · intro call member
      obtain ⟨sameId, other, found, name, -⟩ :=
        consistent.stored call (List.eraseIdx_subset member)
      rw [stored] at found
      cases found
      exact ⟨sameId, _, find_overwrite stored, name, config.typeConfig,
        deserialize_to_value config.typeConfig⟩
    · intro call member
      exact consistent.sets call (List.eraseIdx_subset member)
  · rw [same]
    exact ⟨fun call member => consistent.stored call (fewer member),
      fun call member => consistent.sets call (fewer member)⟩

theorem step_consistent {move : RegistryMove} (consistent : Consistent id state) :
    Consistent id (step id database state move) := by
  cases move with
  | read => exact read_consistent consistent
  | write => exact write_consistent consistent

/-! ## Exactly the harmless moves -/

theorem counter_iff {row : ProviderRow} (stored : state.configs.table.find id = some row)
    (readable : row.Readable types) :
    (∀ config, state.configs.findById types none id = .ok (some config) →
      (config.activeWorkers.toNat : Int) = state.balance) ↔ state.balance = 0 := by
  obtain ⟨config, read⟩ := (readable_iff row).mp readable
  have found : state.configs.findById types none id = .ok (some config) := by
    simp [ProviderConfigs.findById, stored, read, Except.map]
  have none : config.activeWorkers.toNat = 0 := by
    rw [(of_map_row read).2.2.2.2]
    rfl
  simp only [found, Except.ok.injEq, Option.some.injEq]
  constructor
  · intro counted
    have counter := counted config rfl
    omega
  · intro zero other same
    subst same
    omega

/-- Once the row has been read, the recorded balance is zero or was negative. -/
theorem balance_of_keeps (keeps : Keeps id state) {row : ProviderRow}
    (stored : state.configs.table.find id = some row) (readable : row.Readable types)
    (nonnegative : state.negative = false) : state.balance = 0 :=
  (counter_iff stored readable).mp (keeps.counter nonnegative)

section Record

variable {operation : Operation} {config : ProviderConfig types} {region : Option String}
  {row : ProviderRow} {now : DateTime} {pending : List (Operation × ProviderConfig types)}
  {next : RegistryState types} (keeps : Keeps id state)
  (stored : state.configs.table.find id = some row)
  (writes : next = written id state operation config region now pending)
include keeps stored writes

theorem counter_written_iff (readable : row.Readable types) :
    (next.negative = false →
      ∀ other, next.configs.findById types none id = .ok (some other) →
        (other.activeWorkers.toNat : Int) = next.balance) ↔
      (operation = .incrementActiveWorkers → state.negative = true) := by
  subst writes
  have found : (written id state operation config region now pending).configs.table.find id =
      some _ := find_overwrite stored
  rw [counter_iff found ⟨config.typeConfig, deserialize_to_value config.typeConfig⟩]
  cases negative : state.negative with
  | true => simp [written, record, negative]
  | false =>
      have zero := balance_of_keeps keeps stored readable negative
      cases operation <;> simp [written, record, negative, zero, Operation.delta]

theorem status_written_iff
    (sets : ∀ status, operation.sets = some status → config.status = status) :
    next.configs.status id = next.status ↔
      (operation.sets = none →
        state.configs.status id = some (displayStatus config.status)) := by
  subst writes
  have after : (written id state operation config region now pending).configs.status id =
      some (displayStatus config.status) := by
    unfold ProviderConfigs.status
    rw [written, record, find_overwrite stored]
    rfl
  rw [after, keeps.status]
  cases isSet : operation.sets with
  | none => simp [written, record, isSet, eq_comm]
  | some status => simp [written, record, isSet, sets status isSet]

theorem capacity_written_iff :
    next.configs.ListsCapacity types ↔
      (config.status = .active → config.maxWorkers ≠ 0) := by
  have others := (state.configs.lists_capacity_iff).mp keeps.capacity
  rw [ProviderConfigs.lists_capacity_iff, writes, written, record,
    forall_overwrite_iff stored (ProviderRow.Serves types) others, serves_overwritten_iff]

theorem keeps_written_iff (readable : row.Readable types)
    (sets : ∀ status, operation.sets = some status → config.status = status) :
    Keeps id next ↔
      (operation = .incrementActiveWorkers → state.negative = true) ∧
      (operation.sets = none →
        state.configs.status id = some (displayStatus config.status)) ∧
      (config.status = .active → config.maxWorkers ≠ 0) := by
  rw [← counter_written_iff keeps stored writes readable,
    ← status_written_iff keeps stored writes sets, ← capacity_written_iff keeps stored writes]
  constructor
  · intro kept
    exact ⟨kept.counter, kept.status, kept.capacity⟩
  · intro ⟨counter, status, capacity⟩
    exact ⟨counter, status, capacity⟩

end Record

theorem keeps_pending_iff (pending : List (Operation × ProviderConfig types)) :
    Keeps id { state with pending := pending } ↔ Keeps id state := by
  constructor
  · intro kept
    exact ⟨kept.counter, kept.status, kept.capacity⟩
  · intro kept
    exact ⟨kept.counter, kept.status, kept.capacity⟩

theorem keeps_read (keeps : Keeps id state) (operation : Operation) (now : DateTime)
    (fault : Option String) : Keeps id (state.read id operation now fault) := by
  unfold read
  split
  · split
    · exact (keeps_pending_iff _).mpr keeps
    · exact keeps
  · exact keeps

theorem keeps_step_iff (consistent : Consistent id state) (keeps : Keeps id state)
    (move : RegistryMove) :
    Keeps id (step id database state move) ↔ state.Harmless id database move := by
  cases move with
  | read operation now fault => exact iff_of_true (keeps_read keeps operation now fault) trivial
  | write position now fault =>
      rcases write_cases consistent position now fault with
        ⟨operation, config, region, row, called, calm, accepted, -, stored, readable, sets,
          same⟩ | ⟨never, pending, -, same⟩
      · rw [step, keeps_written_iff keeps stored same readable sets]
        constructor
        · intro harmless other otherConfig otherRegion isCalled _ _
          rw [called] at isCalled
          cases isCalled
          exact harmless
        · intro harmless
          exact harmless operation config region called calm accepted
      · rw [step, same, keeps_pending_iff]
        refine iff_of_true keeps ?_
        intro operation config region called calm accepted
        exact absurd accepted (never operation config region called calm)

theorem keeps_start_iff (configs : ProviderConfigs) :
    Keeps id (start id types configs) ↔ ∀ row ∈ configs.table.rows, row.Serves types := by
  rw [← ProviderConfigs.lists_capacity_iff]
  constructor
  · intro kept
    exact kept.capacity
  · intro capacity
    refine ⟨?_, rfl, capacity⟩
    intro _ config found
    obtain ⟨-, row, -, read⟩ := of_find_by_id found
    rw [(of_map_row read).2.2.2.2]
    rfl

end RegistryState

/-- In every state of a run the counter, the status and the list are right exactly if active
rows serve at its start and every write is harmless. -/
theorem registry_keeps_iff_harmless (types : ProviderTypes) (database : Database)
    (id : ProviderId) (configs : ProviderConfigs) (moves : List RegistryMove) :
    Always (RegistryState.step id database) (RegistryState.Keeps id)
        (RegistryState.start id types configs) moves ↔
      (∀ row ∈ configs.table.rows, row.Serves types) ∧
        EachMove (RegistryState.step id database) (RegistryState.Harmless id database)
          (RegistryState.start id types configs) moves := by
  rw [← RegistryState.keeps_start_iff]
  have exactly (good : RegistryState.Keeps id (RegistryState.start id types configs)) :=
    always_iff_each_move_within (RegistryState.step id database)
      (RegistryState.Consistent id) (RegistryState.Keeps id) (RegistryState.Harmless id database)
      (fun _ _ => RegistryState.step_consistent)
      (fun _ move consistent keeps => RegistryState.keeps_step_iff consistent keeps move)
      moves _ (RegistryState.start_consistent configs) good
  constructor
  · intro always
    have good := always_head _ always
    exact ⟨good, (exactly good).mp always⟩
  · intro ⟨good, harmless⟩
    exact (exactly good).mpr harmless

/-! ## A counter update that undoes a status -/

/-- Configurations of Docker alone. -/
def dockerTypes : ProviderTypes where
  Capabilities := Unit
  defaultCapabilities := ()
  TypeConfig := Unit
  toValue _ := .object [("type", .string "docker")]
  fromValue _ := .ok ()
  from_to_value _ := rfl
  tagged _ := ⟨"docker", rfl⟩
  tables := ProviderType.asciiTables
  toUppercase text := text

def varcharColumns : Database where
  region := varcharRegion
  duplicateId := "duplicate key value violates unique constraint"

def dockerRow : ProviderRow where
  id := ⟨1⟩
  name := "docker-local"
  providerType := "DOCKER"
  config := .object [("type", .string "docker")]
  status := "ACTIVE"
  priority := 0
  maxWorkers := 10
  tags := .array []
  metadata := .object []
  preferredRegion := none
  allowedRegions := .array []
  requiredLabels := .object []
  annotations := .object []
  createdAt := 0
  updatedAt := 0

def dockerConfigs : ProviderConfigs where
  table := ⟨[dockerRow], List.nodup_singleton _⟩
  names := List.nodup_singleton _

/-- The worker is not counted, and the provider that was disabled meanwhile is active again. -/
theorem disabled_provider_is_active_again :
    ¬Always (RegistryState.step ⟨1⟩ varcharColumns) (RegistryState.Keeps ⟨1⟩)
      (RegistryState.start ⟨1⟩ dockerTypes dockerConfigs)
      [.read .incrementActiveWorkers 1 none, .read .disableProvider 2 none, .write 1 3 none,
        .write 0 4 none] := by
  intro always
  have kept := always_final _ _ _ always
  exact absurd kept.status (by decide)

end HodeiJobs.Providers
