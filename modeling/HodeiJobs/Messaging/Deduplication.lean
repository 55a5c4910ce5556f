import HodeiJobs.Library.Recency
import HodeiJobs.Library.Runs
import HodeiJobs.Library.Table
import HodeiJobs.Sagas.Types

/-!
# Event deduplication

`EventDeduplicator` and its `DeduplicationCache`. The hash of an event is any function of
it. A call holds the lock of the cache from its first to its last read of the clock; times
are nanoseconds.
-/

namespace HodeiJobs.Messaging

open HodeiJobs.Library
open HodeiJobs.Sagas (Duration)

inductive DeduplicationResult where
  | new
  | duplicate
  | expired
  deriving DecidableEq

structure DeduplicationEntry where
  eventHash : UInt64
  firstSeen : Int
  expiresAt : Int
  seenCount : UInt32

namespace DeduplicationEntry

def new (eventHash : UInt64) (windowDuration : Int) (now : Int) : DeduplicationEntry where
  eventHash := eventHash
  firstSeen := now
  expiresAt := now + windowDuration
  seenCount := 1

def isExpired (entry : DeduplicationEntry) (now : Int) : Bool := decide (entry.expiresAt < now)

end DeduplicationEntry

structure EventDeduplicationConfig where
  windowDuration : Duration
  maxCacheSize : Nat
  enabled : Bool
  logDuplicates : Bool

def EventDeduplicationConfig.default : EventDeduplicationConfig where
  windowDuration := .fromSecs (60 * 5)
  maxCacheSize := 10000
  enabled := true
  logDuplicates := true

/-! ## The cache -/

structure DeduplicationCache where
  entries : Table (Prod.fst : UInt64 × DeduplicationEntry → UInt64)
  accessOrder : List UInt64
  maxSize : Nat

namespace DeduplicationCache

def new (maxSize : Nat) : DeduplicationCache := ⟨⟨[], List.nodup_nil⟩, [], maxSize⟩

def len (cache : DeduplicationCache) : Nat := cache.entries.rows.length

/-- The keys of `entries`. -/
def keys (cache : DeduplicationCache) : List UInt64 := cache.entries.rows.map Prod.fst

/-- Both ways to read an entry first move its key to the back of the access order. -/
def accessed (cache : DeduplicationCache) (key : UInt64) : DeduplicationCache :=
  if key ∈ cache.accessOrder then { cache with accessOrder := touch cache.accessOrder key }
  else cache

def get (cache : DeduplicationCache) (key : UInt64) :
    DeduplicationCache × Option DeduplicationEntry :=
  (cache.accessed key, (cache.entries.find key).map Prod.snd)

/-- `get_mut`, and what is written through the reference. -/
def getMut (cache : DeduplicationCache) (key : UInt64)
    (change : DeduplicationEntry → DeduplicationEntry) : DeduplicationCache :=
  let cache := cache.accessed key
  { cache with
    entries := cache.entries.update key (fun row => (row.1, change row.2)) fun _ => rfl }

/-- The key that `insert` removes to make room. -/
def oldestKey (cache : DeduplicationCache) : Option UInt64 :=
  if cache.maxSize ≤ cache.len ∧ cache.accessOrder ≠ [] then cache.accessOrder.head? else none

def evict (cache : DeduplicationCache) : DeduplicationCache :=
  match cache.oldestKey with
  | some oldestKey =>
      { cache with
        entries := cache.entries.delete oldestKey
        accessOrder := cache.accessOrder.tail }
  | none => cache

def insert (cache : DeduplicationCache) (key : UInt64) (entry : DeduplicationEntry) :
    DeduplicationCache :=
  let cache := cache.evict
  { cache with
    entries := cache.entries.upsert (key, entry)
    accessOrder := cache.accessOrder ++ [key] }

def clear (cache : DeduplicationCache) : DeduplicationCache :=
  { cache with entries := ⟨[], List.nodup_nil⟩, accessOrder := [] }

def remove (cache : DeduplicationCache) (key : UInt64) : DeduplicationCache :=
  { cache with
    entries := cache.entries.delete key
    accessOrder := cache.accessOrder.erase key }

def removeExpired (cache : DeduplicationCache) (now : Int) : DeduplicationCache :=
  let expiredKeys :=
    (cache.entries.rows.filter fun row => decide (row.2.expiresAt ≤ now)).map Prod.fst
  expiredKeys.foldl remove cache

end DeduplicationCache

/-! ## The service -/

structure DeduplicationStats where
  newCount : UInt64
  duplicateCount : UInt64
  expiredCount : UInt64

structure EventDeduplicator where
  cache : DeduplicationCache
  config : EventDeduplicationConfig
  stats : DeduplicationStats

/-- The reads of the clock in one call: for `remove_expired`, then for the next two. -/
structure ClockReads where
  expiry : Int
  second : Int
  third : Int

/-- `Duration::from_std(..).unwrap_or_default()`: the result has at most `i64::MAX`
milliseconds. -/
def windowOf (window : Duration) : Int :=
  if window.nanos ≤ 9223372036854775807 * 1000000 then window.nanos else 0

namespace EventDeduplicator

def withConfig (config : Option EventDeduplicationConfig) : EventDeduplicator :=
  let config := config.getD .default
  ⟨.new config.maxCacheSize, config, ⟨0, 0, 0⟩⟩

/-- `check` of an event with this hash. -/
def check (service : EventDeduplicator) (eventHash : UInt64) (reads : ClockReads) :
    EventDeduplicator × DeduplicationResult :=
  if !service.config.enabled then (service, .new)
  else
    let windowDuration := windowOf service.config.windowDuration
    let stats := service.stats
    let (cache, found) := (service.cache.removeExpired reads.expiry).get eventHash
    match found with
    | some entry =>
        if entry.isExpired reads.second then
          let newEntry := DeduplicationEntry.new eventHash windowDuration reads.third
          ({ service with
              cache := cache.insert eventHash newEntry
              stats := { stats with expiredCount := stats.expiredCount + 1 } }, .expired)
        else
          ({ service with
              cache := cache.getMut eventHash fun entry =>
                { entry with seenCount := entry.seenCount + 1 }
              stats := { stats with duplicateCount := stats.duplicateCount + 1 } }, .duplicate)
    | none =>
        let entry := DeduplicationEntry.new eventHash windowDuration reads.second
        ({ service with
            cache := cache.insert eventHash entry
            stats := { stats with newCount := stats.newCount + 1 } }, .new)

def clear (service : EventDeduplicator) : EventDeduplicator :=
  { service with cache := service.cache.clear }

/-- The cache into which a check inserts an entry, if it does. -/
def insertedInto (service : EventDeduplicator) (eventHash : UInt64) (reads : ClockReads) :
    Option DeduplicationCache :=
  let (cache, found) := (service.cache.removeExpired reads.expiry).get eventHash
  if service.config.enabled ∧ found.all (·.isExpired reads.second) then some cache else none

/-- What a check evicts. -/
def evicted (service : EventDeduplicator) (eventHash : UInt64) (reads : ClockReads) :
    Option UInt64 :=
  (service.insertedInto eventHash reads).bind DeduplicationCache.oldestKey

end EventDeduplicator

/-! ## What the operations keep -/

namespace DeduplicationCache

/-- `access_order` lists the keys of `entries`, each once, and there are at most so many. -/
structure Consistent (maxCacheSize : Nat) (cache : DeduplicationCache) : Prop where
  distinct : cache.accessOrder.Nodup
  sameKeys : List.Perm cache.accessOrder cache.keys
  bounded : cache.len ≤ maxCacheSize

/-- Consistent for its own size, with the keys in the order of their last checks. -/
structure Tracks (checked : List UInt64) (cache : DeduplicationCache) : Prop where
  consistent : cache.Consistent cache.maxSize
  ordered : ByLastUse checked cache.accessOrder

variable {cache : DeduplicationCache} {checked : List UInt64} {key : UInt64}

theorem len_eq_keys (cache : DeduplicationCache) : cache.len = cache.keys.length := by
  rw [len, keys, List.length_map]

theorem tracks_remove (tracks : cache.Tracks checked) (key : UInt64) :
    (cache.remove key).Tracks checked := by
  have keys : (cache.remove key).keys = cache.keys.erase key :=
    Table.keys_delete cache.entries key
  constructor
  · constructor
    · exact tracks.consistent.distinct.erase key
    · rw [keys]
      exact tracks.consistent.sameKeys.erase key
    · have bounded := tracks.consistent.bounded
      have fewer := List.length_erase_le (a := key) (l := cache.keys)
      rw [len_eq_keys] at bounded ⊢
      rw [keys]
      exact Nat.le_trans fewer bounded
  · exact List.Pairwise.sublist List.erase_sublist tracks.ordered

theorem tracks_remove_all (keys : List UInt64) (start : DeduplicationCache)
    (tracks : start.Tracks checked) :
    (keys.foldl remove start).Tracks checked ∧
      (keys.foldl remove start).maxSize = start.maxSize := by
  induction keys generalizing start with
  | nil => exact ⟨tracks, rfl⟩
  | cons key rest ih => exact ih (start.remove key) (tracks_remove tracks key)

theorem find_remove_all (keys : List UInt64) (start : DeduplicationCache) (key : UInt64) :
    (keys.foldl remove start).entries.find key =
      if key ∈ keys then none else start.entries.find key := by
  induction keys generalizing start with
  | nil => rfl
  | cons first rest ih =>
      have removed : (start.remove first).entries.find key =
          if key = first then none else start.entries.find key :=
        Table.find_delete start.entries first key
      rw [List.foldl_cons, ih, removed]
      by_cases same : key = first <;> simp [same]

/-- `remove_expired` leaves exactly the entries that expire later. -/
theorem find_remove_expired (cache : DeduplicationCache) (now : Int) (key : UInt64) :
    (cache.removeExpired now).entries.find key =
      (cache.entries.find key).filter fun row => decide (now < row.2.expiresAt) := by
  unfold removeExpired
  rw [find_remove_all]
  cases found : cache.entries.find key with
  | none => simp
  | some row =>
      have isKey : row.1 = key := Table.find_some_key found
      have stored := List.mem_of_find?_eq_some found
      have expired : key ∈ (cache.entries.rows.filter fun row =>
          decide (row.2.expiresAt ≤ now)).map Prod.fst ↔ row.2.expiresAt ≤ now := by
        rw [List.mem_map]
        constructor
        · intro ⟨other, isOther, sameKey⟩
          obtain ⟨member, past⟩ := List.mem_filter.mp isOther
          have same := List.inj_on_of_nodup_map cache.entries.unique member stored
            (sameKey.trans isKey.symm)
          rw [← same]
          exact of_decide_eq_true past
        · intro past
          exact ⟨row, List.mem_filter.mpr ⟨stored, decide_eq_true past⟩, isKey⟩
      simp only [expired, Option.filter_some, decide_eq_true_eq]
      by_cases past : row.2.expiresAt ≤ now
      · rw [if_pos past, if_neg (by omega)]
      · rw [if_neg past, if_pos (by omega)]

theorem mem_keys_iff (cache : DeduplicationCache) (key : UInt64) :
    key ∈ cache.keys ↔ ∃ row, cache.entries.find key = some row := by
  have absent := Table.find_none_iff cache.entries key
  rw [← Option.ne_none_iff_exists', ne_eq, absent, not_not]
  rfl

theorem accessed_kept (cache : DeduplicationCache) (key : UInt64) :
    (cache.accessed key).entries = cache.entries ∧
      (cache.accessed key).maxSize = cache.maxSize := by
  unfold accessed
  split_ifs <;> exact ⟨rfl, rfl⟩

theorem accessed_of_not_mem (absent : key ∉ cache.accessOrder) : cache.accessed key = cache := by
  rw [accessed, if_neg absent]

theorem tracks_accessed (tracks : cache.Tracks checked) (present : key ∈ cache.accessOrder) :
    (cache.accessed key).Tracks (checked ++ [key]) := by
  obtain ⟨⟨distinct, sameKeys, bounded⟩, ordered⟩ := tracks
  rw [accessed, if_pos present]
  exact ⟨⟨nodup_touch distinct, (perm_touch present).trans sameKeys, bounded⟩,
    by_last_use_touch distinct ordered⟩

/-- Reading the entry again does not change the order. -/
theorem accessed_accessed (distinct : cache.accessOrder.Nodup) :
    (cache.accessed key).accessed key = cache.accessed key := by
  by_cases present : key ∈ cache.accessOrder
  · have order : (cache.accessed key).accessOrder = touch cache.accessOrder key := by
      rw [accessed, if_pos present]
    have again : key ∈ (cache.accessed key).accessOrder := by
      rw [order]
      exact List.mem_append_right _ List.mem_cons_self
    rw [accessed, if_pos again, order, touch_touch distinct]
    rw [← order]
  · rw [accessed_of_not_mem present, accessed_of_not_mem present]

theorem oldest_key_some {oldest : UInt64} (evicts : cache.oldestKey = some oldest) :
    cache.maxSize ≤ cache.len ∧ ∃ rest, cache.accessOrder = oldest :: rest := by
  unfold oldestKey at evicts
  split_ifs at evicts with full
  · obtain ⟨rest, order⟩ := List.head?_eq_some_iff.mp evicts
    exact ⟨full.1, rest, order⟩

theorem room_of_oldest_key_none (tracks : cache.Tracks checked) (room : 1 ≤ cache.maxSize)
    (nothing : cache.oldestKey = none) : cache.len < cache.maxSize := by
  by_contra full
  have size := tracks.consistent.sameKeys.length_eq
  rw [← len_eq_keys] at size
  have listed : cache.accessOrder ≠ [] := by
    intro empty
    rw [empty, List.length_nil] at size
    omega
  rw [oldestKey, if_pos ⟨by omega, listed⟩, List.head?_eq_none_iff] at nothing
  exact listed nothing

theorem evict_of_none (nothing : cache.oldestKey = none) : cache.evict = cache := by
  rw [evict, nothing]

/-- The evicted key is the one whose last check is the oldest. -/
theorem evict_of_some {oldest : UInt64} (evicts : cache.oldestKey = some oldest) :
    cache.evict = cache.remove oldest := by
  obtain ⟨-, rest, order⟩ := oldest_key_some evicts
  rw [evict, evicts, remove, order, List.erase_cons_head, List.tail_cons]

theorem least_recently_checked {oldest : UInt64} (tracks : cache.Tracks checked)
    (evicts : cache.oldestKey = some oldest) :
    LeastRecentlyUsed checked cache.keys oldest := by
  obtain ⟨-, rest, order⟩ := oldest_key_some evicts
  have ordered := tracks.ordered
  have sameKeys := tracks.consistent.sameKeys
  rw [order] at ordered sameKeys
  exact least_recently_used_head ordered sameKeys

theorem tracks_evict (tracks : cache.Tracks checked) (room : 1 ≤ cache.maxSize) :
    cache.evict.Tracks checked ∧ cache.evict.maxSize = cache.maxSize ∧
      cache.evict.len < cache.maxSize ∧ ∀ key ∈ cache.evict.keys, key ∈ cache.keys := by
  cases evicts : cache.oldestKey with
  | none =>
      rw [evict_of_none evicts]
      exact ⟨tracks, rfl, room_of_oldest_key_none tracks room evicts, fun _ => id⟩
  | some oldest =>
      have keys : (cache.remove oldest).keys = cache.keys.erase oldest :=
        Table.keys_delete cache.entries oldest
      have present := (least_recently_checked tracks evicts).1
      have bounded := tracks.consistent.bounded
      have fewer := List.length_erase_of_mem present
      rw [evict_of_some evicts]
      refine ⟨tracks_remove tracks oldest, rfl, ?_, ?_⟩
      · rw [len_eq_keys] at bounded ⊢
        rw [keys, fewer]
        omega
      · rw [keys]
        intro key
        exact List.mem_of_mem_erase

theorem tracks_insert (tracks : cache.Tracks checked) (room : 1 ≤ cache.maxSize)
    (absent : key ∉ cache.keys) (entry : DeduplicationEntry) :
    (cache.insert key entry).Tracks (checked ++ [key]) ∧
      (cache.insert key entry).maxSize = cache.maxSize := by
  obtain ⟨evicted, sameSize, fits, subset⟩ := tracks_evict tracks room
  have unlisted : key ∉ cache.evict.keys := fun present => absent (subset key present)
  have unordered : key ∉ cache.evict.accessOrder := by
    intro present
    exact unlisted (evicted.consistent.sameKeys.subset present)
  have keys : (cache.insert key entry).keys = cache.evict.keys ++ [key] :=
    Table.keys_upsert_of_absent cache.evict.entries (key, entry) unlisted
  have order : (cache.insert key entry).accessOrder = touch cache.evict.accessOrder key :=
    (touch_of_not_mem unordered).symm
  refine ⟨⟨⟨?_, ?_, ?_⟩, ?_⟩, sameSize⟩
  · rw [order]
    exact nodup_touch evicted.consistent.distinct
  · rw [order, touch_of_not_mem unordered, keys]
    exact evicted.consistent.sameKeys.append_right [key]
  · have size : (cache.insert key entry).maxSize = cache.maxSize := sameSize
    rw [len_eq_keys] at fits ⊢
    rw [keys, List.length_append, List.length_singleton, size]
    exact fits
  · rw [order]
    exact by_last_use_touch evicted.consistent.distinct evicted.ordered

theorem tracks_get_mut (tracks : cache.Tracks checked) (listed : key ∈ cache.accessOrder)
    (change : DeduplicationEntry → DeduplicationEntry) :
    ((cache.accessed key).getMut key change).Tracks (checked ++ [key]) ∧
      ((cache.accessed key).getMut key change).maxSize = cache.maxSize := by
  obtain ⟨⟨distinct, sameKeys, bounded⟩, ordered⟩ := tracks_accessed tracks listed
  have size := (accessed_kept cache key).2
  have keys : ((cache.accessed key).getMut key change).keys = (cache.accessed key).keys := by
    unfold getMut DeduplicationCache.keys
    rw [accessed_accessed tracks.consistent.distinct]
    exact Table.keys_update (cache.accessed key).entries key
      (fun row => (row.1, change row.2)) fun _ => rfl
  have order : ((cache.accessed key).getMut key change).accessOrder =
      (cache.accessed key).accessOrder := by
    unfold getMut
    rw [accessed_accessed tracks.consistent.distinct]
  have sameSize : ((cache.accessed key).getMut key change).maxSize =
      (cache.accessed key).maxSize := by
    unfold getMut
    rw [accessed_accessed tracks.consistent.distinct]
  refine ⟨⟨⟨?_, ?_, ?_⟩, ?_⟩, sameSize.trans size⟩
  · rw [order]
    exact distinct
  · rw [order, keys]
    exact sameKeys
  · rw [len_eq_keys] at bounded ⊢
    rw [keys, sameSize]
    exact bounded
  · rw [order]
    exact ordered

/-- An entry inserted for a key that has one and is not evicted lists the key twice. -/
theorem insert_present_repeats (listed : key ∈ cache.accessOrder)
    (nothing : cache.oldestKey = none) (entry : DeduplicationEntry) :
    ¬(cache.insert key entry).accessOrder.Nodup := by
  have order : (cache.insert key entry).accessOrder = cache.accessOrder ++ [key] := by
    rw [insert, evict_of_none nothing]
  rw [order, List.nodup_append]
  intro ⟨_, _, apart⟩
  exact apart key listed key List.mem_cons_self rfl

end DeduplicationCache

/-! ## What a check does to the cache -/

namespace EventDeduplicator

section

variable (service : EventDeduplicator) (eventHash : UInt64) (reads : ClockReads)

/-- The cache in which a check looks the event up. -/
def swept : DeduplicationCache := service.cache.removeExpired reads.expiry

/-- The entry of the event expires between the first two reads of the clock. -/
def RunsOut : Prop :=
  ∃ row, service.cache.entries.find eventHash = some row ∧
    reads.expiry < row.2.expiresAt ∧ row.2.expiresAt < reads.second

instance : Decidable (service.RunsOut eventHash reads) :=
  decidable_of_iff ((service.cache.entries.find eventHash).any fun row =>
      reads.expiry < row.2.expiresAt ∧ row.2.expiresAt < reads.second)
    (by simp only [RunsOut, Option.any_eq_true, decide_eq_true_eq])

theorem runs_out_iff :
    service.RunsOut eventHash reads ↔ ∃ row,
      (service.swept reads).entries.find eventHash = some row ∧ row.2.expiresAt < reads.second := by
  rw [swept, DeduplicationCache.find_remove_expired]
  constructor
  · intro ⟨row, found, alive, past⟩
    exact ⟨row, by rw [found, Option.filter_some, if_pos (decide_eq_true alive)], past⟩
  · intro ⟨row, found, past⟩
    obtain ⟨stored, alive⟩ := Option.filter_eq_some_iff.mp found
    exact ⟨row, stored, of_decide_eq_true alive, past⟩

theorem check_disabled (off : service.config.enabled = false) :
    (service.check eventHash reads).1 = service ∧ service.evicted eventHash reads = none := by
  simp [check, evicted, insertedInto, off]

variable {service eventHash reads}

theorem check_new (on : service.config.enabled = true)
    (missing : (service.swept reads).entries.find eventHash = none) :
    (∃ entry, (service.check eventHash reads).1.cache =
        ((service.swept reads).accessed eventHash).insert eventHash entry) ∧
      service.evicted eventHash reads =
        ((service.swept reads).accessed eventHash).oldestKey := by
  unfold swept at missing ⊢
  constructor
  · exact ⟨_, by simp [check, DeduplicationCache.get, on, missing]; rfl⟩
  · simp [evicted, insertedInto, DeduplicationCache.get, on, missing]

theorem check_expired (on : service.config.enabled = true) {row : UInt64 × DeduplicationEntry}
    (found : (service.swept reads).entries.find eventHash = some row)
    (past : row.2.expiresAt < reads.second) :
    (∃ entry, (service.check eventHash reads).1.cache =
        ((service.swept reads).accessed eventHash).insert eventHash entry) ∧
      service.evicted eventHash reads =
        ((service.swept reads).accessed eventHash).oldestKey := by
  unfold swept at found ⊢
  have isExpired : row.2.isExpired reads.second = true := decide_eq_true past
  constructor
  · exact ⟨_, by simp [check, DeduplicationCache.get, on, found, isExpired]; rfl⟩
  · simp [evicted, insertedInto, DeduplicationCache.get, on, found, isExpired]

theorem check_duplicate (on : service.config.enabled = true) {row : UInt64 × DeduplicationEntry}
    (found : (service.swept reads).entries.find eventHash = some row)
    (alive : ¬row.2.expiresAt < reads.second) :
    (∃ change, (service.check eventHash reads).1.cache =
        ((service.swept reads).accessed eventHash).getMut eventHash change) ∧
      service.evicted eventHash reads = none := by
  unfold swept at found ⊢
  have isExpired : row.2.isExpired reads.second = false := decide_eq_false alive
  constructor
  · exact ⟨_, by simp [check, DeduplicationCache.get, on, found, isExpired]; rfl⟩
  · simp [evicted, insertedInto, DeduplicationCache.get, on, found, isExpired]

end

end EventDeduplicator

/-! ## Runs -/

inductive DeduplicationMove (Event : Type) where
  | check (event : Event) (reads : ClockReads)
  | clear

/-- The service and the hashes it was asked to look up so far. -/
structure DeduplicationRun where
  service : EventDeduplicator
  checked : List UInt64

namespace DeduplicationRun

variable {Event : Type} (hashEvent : Event → UInt64)

def start (config : EventDeduplicationConfig) : DeduplicationRun :=
  ⟨.withConfig (some config), []⟩

def step (run : DeduplicationRun) : DeduplicationMove Event → DeduplicationRun
  | .check event reads =>
      { service := (run.service.check (hashEvent event) reads).1
        checked :=
          if run.service.config.enabled then run.checked ++ [hashEvent event] else run.checked }
  | .clear => { run with service := run.service.clear }

/-- A move evicts a hash only to insert an absent one into a full cache, and it evicts the
one of the cached hashes whose last check is the oldest. -/
def EvictsLeastRecent (run : DeduplicationRun) : DeduplicationMove Event → Prop
  | .check event reads =>
      ∀ oldest, run.service.evicted (hashEvent event) reads = some oldest →
        let cache := run.service.swept reads
        hashEvent event ∉ cache.keys ∧ cache.len = cache.maxSize ∧
          LeastRecentlyUsed run.checked cache.keys oldest
  | .clear => True

/-- No entry expires while the check that found it is still running. -/
def EntryOutlastsCheck (run : DeduplicationRun) : DeduplicationMove Event → Prop
  | .check event reads =>
      run.service.config.enabled = true → ¬run.service.RunsOut (hashEvent event) reads
  | .clear => True

instance (run : DeduplicationRun) (move : DeduplicationMove Event) :
    Decidable (run.EntryOutlastsCheck hashEvent move) :=
  match move with
  | .check _ _ => inferInstanceAs (Decidable (_ → ¬_))
  | .clear => .isTrue trivial

structure Sound (maxCacheSize : Nat) (run : DeduplicationRun) : Prop where
  size : run.service.cache.maxSize = maxCacheSize
  tracks : run.service.cache.Tracks run.checked

variable {hashEvent} {run : DeduplicationRun} {maxCacheSize : Nat}

theorem Sound.swept (sound : run.Sound maxCacheSize) (reads : ClockReads) :
    (run.service.swept reads).Tracks run.checked ∧
      (run.service.swept reads).maxSize = maxCacheSize := by
  obtain ⟨tracks, size⟩ :=
    DeduplicationCache.tracks_remove_all _ run.service.cache sound.tracks
  exact ⟨tracks, size.trans sound.size⟩

theorem sound_start (config : EventDeduplicationConfig) :
    (start config).Sound config.maxCacheSize := by
  constructor
  · rfl
  · constructor
    · exact ⟨List.nodup_nil, List.Perm.nil, Nat.zero_le _⟩
    · exact List.Pairwise.nil

theorem sound_clear (sound : run.Sound maxCacheSize) :
    (run.step hashEvent .clear).Sound maxCacheSize := by
  constructor
  · exact sound.size
  · constructor
    · exact ⟨List.nodup_nil, List.Perm.nil, Nat.zero_le _⟩
    · exact List.Pairwise.nil

section

variable {event : Event} {reads : ClockReads}

theorem step_of_on (on : run.service.config.enabled = true) :
    run.step hashEvent (.check event reads) =
      ⟨(run.service.check (hashEvent event) reads).1, run.checked ++ [hashEvent event]⟩ := by
  rw [step, if_pos on]

/-- An unknown event is inserted, and what makes room for it is the oldest hash. -/
theorem sound_check_new (sound : run.Sound maxCacheSize) (room : 1 ≤ maxCacheSize)
    (on : run.service.config.enabled = true)
    (missing : (run.service.swept reads).entries.find (hashEvent event) = none) :
    (run.step hashEvent (.check event reads)).Sound maxCacheSize ∧
      run.EvictsLeastRecent hashEvent (.check event reads) := by
  obtain ⟨tracks, size⟩ := sound.swept reads
  obtain ⟨⟨entry, cache⟩, evicted⟩ := EventDeduplicator.check_new on missing
  have absent : hashEvent event ∉ (run.service.swept reads).keys :=
    (Table.find_none_iff _ _).mp missing
  have unlisted : hashEvent event ∉ (run.service.swept reads).accessOrder := by
    intro listed
    exact absent (tracks.consistent.sameKeys.subset listed)
  rw [DeduplicationCache.accessed_of_not_mem unlisted] at cache evicted
  constructor
  · obtain ⟨inserted, sameSize⟩ := DeduplicationCache.tracks_insert tracks
      (le_of_le_of_eq room size.symm) absent entry
    rw [step_of_on on]
    constructor
    · rw [cache, sameSize, size]
    · rw [cache]
      exact inserted
  · intro oldest evicts
    rw [evicted] at evicts
    have full := (DeduplicationCache.oldest_key_some evicts).1
    exact ⟨absent, Nat.le_antisymm tracks.consistent.bounded full,
      DeduplicationCache.least_recently_checked tracks evicts⟩

theorem sound_check_duplicate (sound : run.Sound maxCacheSize)
    (on : run.service.config.enabled = true) {row : UInt64 × DeduplicationEntry}
    (found : (run.service.swept reads).entries.find (hashEvent event) = some row)
    (alive : ¬row.2.expiresAt < reads.second) :
    (run.step hashEvent (.check event reads)).Sound maxCacheSize ∧
      run.EvictsLeastRecent hashEvent (.check event reads) := by
  obtain ⟨tracks, size⟩ := sound.swept reads
  obtain ⟨⟨change, cache⟩, evicted⟩ := EventDeduplicator.check_duplicate on found alive
  have listed : hashEvent event ∈ (run.service.swept reads).accessOrder :=
    tracks.consistent.sameKeys.symm.subset
      ((DeduplicationCache.mem_keys_iff _ _).mpr ⟨row, found⟩)
  constructor
  · obtain ⟨kept, sameSize⟩ :=
      DeduplicationCache.tracks_get_mut tracks listed change
    rw [step_of_on on]
    constructor
    · rw [cache, sameSize, size]
    · rw [cache]
      exact kept
  · intro oldest evicts
    rw [evicted] at evicts
    cases evicts

/-- An entry that expired during the check is inserted once more: that evicts a hash for one
which is present, or lists the hash twice. -/
theorem broken_check_expired (sound : run.Sound maxCacheSize)
    (on : run.service.config.enabled = true) {row : UInt64 × DeduplicationEntry}
    (found : (run.service.swept reads).entries.find (hashEvent event) = some row)
    (past : row.2.expiresAt < reads.second)
    (evicts : run.EvictsLeastRecent hashEvent (.check event reads)) :
    ¬(run.step hashEvent (.check event reads)).service.cache.accessOrder.Nodup := by
  obtain ⟨tracks, -⟩ := sound.swept reads
  obtain ⟨⟨entry, cache⟩, evicted⟩ := EventDeduplicator.check_expired on found past
  have present : hashEvent event ∈ (run.service.swept reads).keys :=
    (DeduplicationCache.mem_keys_iff _ _).mpr ⟨row, found⟩
  have listed := tracks.consistent.sameKeys.symm.subset present
  have moved := DeduplicationCache.tracks_accessed tracks listed
  have stillListed : hashEvent event ∈
      ((run.service.swept reads).accessed (hashEvent event)).accessOrder := by
    rw [DeduplicationCache.accessed, if_pos listed]
    exact List.mem_append_right _ List.mem_cons_self
  have nothing : ((run.service.swept reads).accessed (hashEvent event)).oldestKey = none := by
    rw [Option.eq_none_iff_forall_ne_some]
    intro oldest isOldest
    exact (evicts oldest (evicted.trans isOldest)).1 present
  rw [step_of_on on, cache]
  exact DeduplicationCache.insert_present_repeats stillListed nothing entry

end

theorem check_sound_iff (sound : run.Sound maxCacheSize) (room : 1 ≤ maxCacheSize)
    (move : DeduplicationMove Event) :
    (run.EntryOutlastsCheck hashEvent move →
      (run.step hashEvent move).Sound maxCacheSize ∧ run.EvictsLeastRecent hashEvent move) ∧
    (¬run.EntryOutlastsCheck hashEvent move → run.EvictsLeastRecent hashEvent move →
      ¬(run.step hashEvent move).service.cache.accessOrder.Nodup) := by
  cases move with
  | clear => exact ⟨fun _ => ⟨sound_clear sound, trivial⟩, fun runsOut => absurd trivial runsOut⟩
  | check event reads =>
      cases on : run.service.config.enabled with
      | false =>
          obtain ⟨same, nothing⟩ :=
            EventDeduplicator.check_disabled run.service (hashEvent event) reads on
          have kept : run.step hashEvent (.check event reads) = run := by
            rw [step, same, if_neg (by simp [on])]
          constructor
          · intro _
            rw [kept]
            refine ⟨sound, ?_⟩
            intro oldest evicts
            rw [nothing] at evicts
            cases evicts
          · intro runsOut
            exact absurd (fun enabled => by simp [on] at enabled) runsOut
      | true =>
          have outlasts : run.EntryOutlastsCheck hashEvent (.check event reads) ↔ ¬∃ row,
              (run.service.swept reads).entries.find (hashEvent event) = some row ∧
                row.2.expiresAt < reads.second := by
            rw [← EventDeduplicator.runs_out_iff]
            exact ⟨fun outlasts => outlasts on, fun outlasts _ => outlasts⟩
          rw [outlasts]
          cases found : (run.service.swept reads).entries.find (hashEvent event) with
          | none =>
              refine ⟨fun _ => sound_check_new sound room on found, ?_⟩
              intro runsOut
              simp at runsOut
          | some row =>
              by_cases past : row.2.expiresAt < reads.second
              · refine ⟨fun outlasts => absurd ⟨row, rfl, past⟩ outlasts, ?_⟩
                intro _ evicts
                exact broken_check_expired sound on found past evicts
              · refine ⟨fun _ => sound_check_duplicate sound on found past, ?_⟩
                intro runsOut
                simp [past] at runsOut

/-- The cache stays consistent and evicts the least recently checked hash, exactly in the
runs in which no entry expires while the check that found it is still running. -/
theorem cache_consistent_iff_entries_outlast_checks (config : EventDeduplicationConfig)
    (room : 1 ≤ config.maxCacheSize) (hashEvent : Event → UInt64)
    (moves : List (DeduplicationMove Event)) :
    (Always (step hashEvent) (fun run => run.service.cache.Consistent config.maxCacheSize)
        (start config) moves ∧
      EachMove (step hashEvent) (EvictsLeastRecent hashEvent) (start config) moves) ↔
      EachMove (step hashEvent) (EntryOutlastsCheck hashEvent) (start config) moves := by
  apply always_and_each_move_iff_within (step hashEvent) (Sound config.maxCacheSize)
  · intro run sound
    have consistent := sound.tracks.consistent
    rw [sound.size] at consistent
    exact consistent
  · intro run move sound outlasts
    exact ((check_sound_iff sound room move).1 outlasts).1
  · intro run move sound
    obtain ⟨keeps, breaks⟩ := check_sound_iff sound room move
    constructor
    · intro outlasts
      obtain ⟨next, evicts⟩ := keeps outlasts
      have consistent := next.tracks.consistent
      rw [next.size] at consistent
      exact ⟨consistent, evicts⟩
    · intro ⟨consistent, evicts⟩
      by_contra runsOut
      exact breaks runsOut evicts consistent.distinct
  · exact sound_start config

/-- Events that are their own hashes; a window of ten nanoseconds, room for two. -/
def expiringChecks : List (DeduplicationMove UInt64) :=
  [.check 1 ⟨0, 0, 0⟩, .check 2 ⟨5, 5, 5⟩, .check 1 ⟨9, 11, 11⟩]

def smallConfig : EventDeduplicationConfig := ⟨⟨10⟩, 2, true, false⟩

theorem lasting_entries_keep_the_cache_consistent :
    Always (step id) (fun run => run.service.cache.Consistent 2) (start smallConfig)
        [.check 1 ⟨0, 0, 0⟩, .check (2 : UInt64) ⟨5, 5, 5⟩, .check 3 ⟨6, 7, 8⟩] ∧
      EachMove (step id) (EvictsLeastRecent id) (start smallConfig)
        [.check 1 ⟨0, 0, 0⟩, .check (2 : UInt64) ⟨5, 5, 5⟩, .check 3 ⟨6, 7, 8⟩] := by
  apply (cache_consistent_iff_entries_outlast_checks smallConfig (by decide) id _).mpr
  decide

/-- The third check finds the entry of the first one expired and inserts it again, which
evicts the second event although the inserted one has an entry. -/
theorem expired_entry_evicts_another :
    ¬(Always (step id) (fun run => run.service.cache.Consistent smallConfig.maxCacheSize)
        (start smallConfig) expiringChecks ∧
      EachMove (step id) (EvictsLeastRecent id) (start smallConfig) expiringChecks) := by
  intro ⟨_, _, _, evicts, _⟩
  have present := (evicts 2 (by decide)).1
  exact present (by decide)

end DeduplicationRun

end HodeiJobs.Messaging
