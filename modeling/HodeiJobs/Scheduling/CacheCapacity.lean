import HodeiJobs.Library.Measure
import HodeiJobs.Library.Runs
import HodeiJobs.Scheduling.LruTtlCache

/-!
# The capacity of the caches

`TtlCache`, and how many entries it and `LruTtlCache` hold along a run of calls. The one makes room
by a fifth of its entries, the other by those that have expired; either can make none.
-/

namespace HodeiJobs.Scheduling

open HodeiJobs.Library
open HodeiJobs.Sagas (Duration)

structure CacheEntry (Value : Type) where
  value : Value
  expiresAt : Nat

namespace CacheEntry

variable {Value : Type}

def new (value : Value) (ttl : Duration) (now : Nat) : CacheEntry Value := ⟨value, now + ttl.nanos⟩

def isExpired (entry : CacheEntry Value) (now : Nat) : Bool := decide (entry.expiresAt ≤ now)

/-- `value`, the method. -/
def valueAt (entry : CacheEntry Value) (now : Nat) : Option Value :=
  if entry.isExpired now then none else some entry.value

end CacheEntry

structure TtlCache (Key Value : Type) where
  entries : Table (Prod.fst : Key × CacheEntry Value → Key)
  defaultTtl : Duration
  maxEntries : Nat

/-- The order in which a map yields its keys. -/
structure KeyOrder (Key : Type) where
  ordered : List Key → List Key
  perm : ∀ keys, List.Perm (ordered keys) keys

namespace TtlCache

variable {Key Value : Type} [DecidableEq Key]

def withConfig (defaultTtl : Duration) (maxEntries : Nat) : TtlCache Key Value :=
  ⟨⟨[], List.nodup_nil⟩, defaultTtl, maxEntries⟩

def new (defaultTtl : Duration) : TtlCache Key Value := withConfig defaultTtl 1000

def len (cache : TtlCache Key Value) : Nat := cache.entries.rows.length

def find (cache : TtlCache Key Value) (key : Key) : Option (CacheEntry Value) :=
  (cache.entries.find key).map Prod.snd

/-- A fifth of the keys, the first that the map yields. -/
def toRemove (cache : TtlCache Key Value) (order : KeyOrder Key) : List Key :=
  (order.ordered (cache.entries.rows.map Prod.fst)).take (cache.len / 5)

/-- The entries to which a new one is added. -/
def makeRoom (cache : TtlCache Key Value) (order : KeyOrder Key) (key : Key) :
    Table (Prod.fst : Key × CacheEntry Value → Key) :=
  if cache.maxEntries ≤ cache.len ∧ (cache.find key).isNone then
    (cache.toRemove order).foldl Table.delete cache.entries
  else cache.entries

/-- The value that the key had is returned. -/
def insertWithTtl (cache : TtlCache Key Value) (now : Nat) (order : KeyOrder Key) (key : Key)
    (value : Value) (ttl : Duration) : Option Value × TtlCache Key Value :=
  let entry := CacheEntry.new value ttl now
  let entries := cache.makeRoom order key
  ((entries.find key).map fun row => row.2.value,
    { cache with entries := entries.upsert (key, entry) })

def insert (cache : TtlCache Key Value) (now : Nat) (order : KeyOrder Key) (key : Key)
    (value : Value) : Option Value × TtlCache Key Value :=
  cache.insertWithTtl now order key value cache.defaultTtl

/-- An expired entry is not returned, and stays. -/
def get (cache : TtlCache Key Value) (now : Nat) (key : Key) : Option Value :=
  (cache.find key).bind fun entry => entry.valueAt now

def remove (cache : TtlCache Key Value) (key : Key) : Option Value × TtlCache Key Value :=
  ((cache.find key).map CacheEntry.value, { cache with entries := cache.entries.delete key })

/-- Each entry is looked at with a clock reading of its own. -/
def removeExpired (cache : TtlCache Key Value) (now : Key → Nat) : Nat × TtlCache Key Value :=
  let entries := cache.entries.retain fun row => !row.2.isExpired (now row.1)
  (cache.entries.rows.length - entries.rows.length, { cache with entries := entries })

end TtlCache

/-! ## Runs -/

inductive TtlCacheCall (Key Value : Type) where
  | insert (now : Nat) (order : KeyOrder Key) (key : Key) (value : Value)
  | insertWithTtl (now : Nat) (order : KeyOrder Key) (key : Key) (value : Value) (ttl : Duration)
  | get (now : Nat) (key : Key)
  | remove (key : Key)
  | removeExpired (now : Key → Nat)

inductive LruTtlCacheCall (Key Value : Type) where
  | insert (reads : InsertReads Key) (key : Key) (value : Value)
  | insertWithTtl (reads : InsertReads Key) (key : Key) (value : Value) (ttl : Duration)
  | get (reads : GetReads) (key : Key)
  | remove (key : Key)

section Steps

variable {Key Value : Type} [DecidableEq Key]

def TtlCache.step (cache : TtlCache Key Value) : TtlCacheCall Key Value → TtlCache Key Value
  | .insert now order key value => (cache.insert now order key value).2
  | .insertWithTtl now order key value ttl => (cache.insertWithTtl now order key value ttl).2
  | .get _ _ => cache
  | .remove key => (cache.remove key).2
  | .removeExpired now => (cache.removeExpired now).2

def LruTtlCache.step (cache : LruTtlCache Key Value) :
    LruTtlCacheCall Key Value → LruTtlCache Key Value
  | .insert reads key value => (cache.insert reads key value).2
  | .insertWithTtl reads key value ttl => (cache.insertWithTtl reads key value ttl).2
  | .get reads key => (cache.get reads key).2
  | .remove key => (cache.remove key).2

def TtlCache.WithinCapacity (cache : TtlCache Key Value) : Prop := cache.len ≤ cache.maxEntries

def LruTtlCache.WithinCapacity (cache : LruTtlCache Key Value) : Prop :=
  cache.len ≤ cache.maxEntries

instance (cache : TtlCache Key Value) : Decidable cache.WithinCapacity :=
  inferInstanceAs (Decidable (_ ≤ _))

instance (cache : LruTtlCache Key Value) : Decidable cache.WithinCapacity :=
  inferInstanceAs (Decidable (_ ≤ _))

/-- A full cache that gets a new key has room for five entries at least. -/
def TtlCache.RoomFor (cache : TtlCache Key Value) (key : Key) : Prop :=
  cache.maxEntries ≤ cache.len → cache.find key = none → 5 ≤ cache.maxEntries

/-- A full cache that gets a new key has an entry that is found expired. -/
def LruTtlCache.RoomFor (cache : LruTtlCache Key Value) (reads : InsertReads Key) (key : Key) :
    Prop :=
  cache.maxEntries ≤ cache.len → cache.find key = none →
    ∃ row ∈ cache.entries.rows, row.2.isExpired (reads.evicted row.1) = true

def TtlCache.FindsRoom (cache : TtlCache Key Value) : TtlCacheCall Key Value → Prop
  | .insert _ _ key _ | .insertWithTtl _ _ key _ _ => cache.RoomFor key
  | .get _ _ | .remove _ | .removeExpired _ => True

def LruTtlCache.FindsRoom (cache : LruTtlCache Key Value) : LruTtlCacheCall Key Value → Prop
  | .insert reads key _ | .insertWithTtl reads key _ _ => cache.RoomFor reads key
  | .get _ _ | .remove _ => True

/-! ## `TtlCache` -/

section

variable {cache : TtlCache Key Value}

theorem TtlCache.find_eq_none_iff (key : Key) :
    cache.find key = none ↔ cache.entries.find key = none := by
  unfold TtlCache.find
  exact Option.map_eq_none_iff

/-- The keys to remove are a fifth of those in the map. -/
theorem TtlCache.length_removed (cache : TtlCache Key Value) (order : KeyOrder Key) :
    ((cache.toRemove order).foldl Table.delete cache.entries).rows.length + cache.len / 5 =
      cache.len := by
  have perm := order.perm (cache.entries.rows.map Prod.fst)
  have distinct : (cache.toRemove order).Nodup := by
    apply List.Nodup.sublist (List.take_sublist _ _)
    exact perm.nodup_iff.mpr cache.entries.unique
  have known : ∀ key ∈ cache.toRemove order, cache.entries.find key ≠ none := by
    intro key member absent
    apply (Table.find_none_iff cache.entries key).mp absent
    exact perm.subset (List.mem_of_mem_take member)
  have length : (cache.toRemove order).length = cache.len / 5 := by
    have whole := perm.length_eq
    rw [List.length_map] at whole
    unfold TtlCache.toRemove TtlCache.len
    rw [List.length_take, whole]
    omega
  have removed := Table.length_foldl_delete (cache.toRemove order) cache.entries distinct known
  rw [length] at removed
  exact removed

theorem TtlCache.within_insert_iff (within : cache.WithinCapacity) (now : Nat)
    (order : KeyOrder Key) (key : Key) (value : Value) (ttl : Duration) :
    (cache.insertWithTtl now order key value ttl).2.WithinCapacity ↔ cache.RoomFor key := by
  have length : (cache.insertWithTtl now order key value ttl).2.len =
      ((cache.makeRoom order key).upsert (key, CacheEntry.new value ttl now)).rows.length := rfl
  have sameMax : (cache.insertWithTtl now order key value ttl).2.maxEntries =
      cache.maxEntries := rfl
  unfold TtlCache.WithinCapacity TtlCache.RoomFor at *
  rw [length, sameMax]
  by_cases absent : cache.find key = none
  · have missing := (TtlCache.find_eq_none_iff key).mp absent
    have isNew : (cache.find key).isNone = true := by rw [absent, Option.isNone_none]
    by_cases full : cache.maxEntries ≤ cache.len
    · have removed := TtlCache.length_removed cache order
      have grown := Table.length_upsert_new (key, CacheEntry.new value ttl now)
        (Table.find_foldl_delete_of_none (cache.toRemove order) cache.entries missing)
      rw [TtlCache.makeRoom, if_pos ⟨full, isNew⟩, grown]
      constructor
      · intro fits _ _
        omega
      · intro room
        have five := room full absent
        omega
    · have unfilled : ¬(cache.maxEntries ≤ cache.len ∧ (cache.find key).isNone = true) :=
        fun both => full both.1
      have grown := Table.length_upsert_new (key, CacheEntry.new value ttl now) missing
      rw [TtlCache.makeRoom, if_neg unfilled, grown]
      apply iff_of_true
      · have counted : cache.len = cache.entries.rows.length := rfl
        omega
      · intro filled
        exact absurd filled full
  · have known : ¬(cache.maxEntries ≤ cache.len ∧ (cache.find key).isNone = true) :=
      fun both => absent (Option.isNone_iff_eq_none.mp both.2)
    have kept := Table.length_upsert_known (key, CacheEntry.new value ttl now)
      (fun missing => absent ((TtlCache.find_eq_none_iff key).mpr missing))
    rw [TtlCache.makeRoom, if_neg known, kept]
    apply iff_of_true
    · exact within
    · intro _ missing
      exact absurd missing absent

theorem TtlCache.within_step_iff (within : cache.WithinCapacity) (call : TtlCacheCall Key Value) :
    (cache.step call).WithinCapacity ↔ cache.FindsRoom call := by
  cases call with
  | insert now order key value =>
      exact TtlCache.within_insert_iff within now order key value cache.defaultTtl
  | insertWithTtl now order key value ttl =>
      exact TtlCache.within_insert_iff within now order key value ttl
  | get now key => exact iff_of_true within trivial
  | remove key =>
      apply iff_of_true _ trivial
      exact Nat.le_trans (List.length_filter_le _ _) within
  | removeExpired now =>
      apply iff_of_true _ trivial
      exact Nat.le_trans (List.length_filter_le _ _) within

end

/-! ## `LruTtlCache` -/

section

variable {cache : LruTtlCache Key Value}

theorem LruTtlCache.find_eq_none_iff (key : Key) :
    cache.find key = none ↔ cache.entries.find key = none := by
  unfold LruTtlCache.find
  exact Option.map_eq_none_iff

/-- The entries to which a new one is added. -/
def LruTtlCache.makeRoom (cache : LruTtlCache Key Value) (reads : InsertReads Key) :
    Table (Prod.fst : Key × LruEntry Value → Key) :=
  if cache.maxEntries ≤ cache.len then
    cache.entries.retain fun row => !row.2.isExpired (reads.evicted row.1)
  else cache.entries

theorem LruTtlCache.entries_insert (reads : InsertReads Key) (key : Key) (value : Value)
    (ttl : Duration) :
    (cache.insertWithTtl reads key value ttl).2.entries =
      (cache.makeRoom reads).upsert (key, LruEntry.new value ttl reads.inserted) := rfl

omit [DecidableEq Key] in
/-- Room is made in a full cache that has an expired entry. -/
theorem LruTtlCache.length_makeRoom_lt {reads : InsertReads Key}
    (full : cache.maxEntries ≤ cache.len)
    (expires : ∃ row ∈ cache.entries.rows, row.2.isExpired (reads.evicted row.1) = true) :
    (cache.makeRoom reads).rows.length < cache.len := by
  rcases expires with ⟨row, member, expired⟩
  rw [LruTtlCache.makeRoom, if_pos full]
  apply List.length_filter_lt_length_iff_exists.mpr
  exact ⟨row, member, fun kept => by rw [expired] at kept; cases kept⟩

omit [DecidableEq Key] in
/-- No room is made where no entry has expired. -/
theorem LruTtlCache.makeRoom_eq_self {reads : InsertReads Key}
    (stay : ¬∃ row ∈ cache.entries.rows, row.2.isExpired (reads.evicted row.1) = true) :
    cache.makeRoom reads = cache.entries := by
  unfold LruTtlCache.makeRoom
  split_ifs
  · have all : cache.entries.rows.filter (fun row => !row.2.isExpired (reads.evicted row.1)) =
        cache.entries.rows := by
      apply List.filter_eq_self.mpr
      intro row member
      have live := fun expired => stay ⟨row, member, expired⟩
      rw [Bool.not_eq_true']
      exact Bool.eq_false_iff.mpr live
    cases kept : cache.entries
    simpa [Table.retain, kept] using all
  · rfl

theorem LruTtlCache.within_insert_iff (within : cache.WithinCapacity) (reads : InsertReads Key)
    (key : Key) (value : Value) (ttl : Duration) :
    (cache.insertWithTtl reads key value ttl).2.WithinCapacity ↔ cache.RoomFor reads key := by
  have length : (cache.insertWithTtl reads key value ttl).2.len =
      ((cache.makeRoom reads).upsert (key, LruEntry.new value ttl reads.inserted)).rows.length :=
    rfl
  have sameMax : (cache.insertWithTtl reads key value ttl).2.maxEntries =
      cache.maxEntries := rfl
  have counted : cache.len = cache.entries.rows.length := rfl
  have grown := Table.length_upsert_le (cache.makeRoom reads)
    (key, LruEntry.new value ttl reads.inserted)
  unfold LruTtlCache.WithinCapacity LruTtlCache.RoomFor at *
  rw [length, sameMax]
  by_cases full : cache.maxEntries ≤ cache.len
  · by_cases expires : ∃ row ∈ cache.entries.rows, row.2.isExpired (reads.evicted row.1) = true
    · have fewer := LruTtlCache.length_makeRoom_lt full expires
      apply iff_of_true
      · omega
      · intro _ _
        exact expires
    · rw [LruTtlCache.makeRoom_eq_self expires]
      by_cases absent : cache.find key = none
      · have added := Table.length_upsert_new
          (key, LruEntry.new value ttl reads.inserted)
          ((LruTtlCache.find_eq_none_iff key).mp absent)
        apply iff_of_false
        · omega
        · intro room
          exact expires (room full absent)
      · have kept := Table.length_upsert_known
          (key, LruEntry.new value ttl reads.inserted)
          (fun missing => absent ((LruTtlCache.find_eq_none_iff key).mpr missing))
        apply iff_of_true
        · omega
        · intro _ missing
          exact absurd missing absent
  · have same : cache.makeRoom reads = cache.entries := by
      rw [LruTtlCache.makeRoom, if_neg full]
    rw [same] at grown ⊢
    apply iff_of_true
    · omega
    · intro filled
      exact absurd filled full

/-- An entry that is renewed takes its own place. -/
theorem LruTtlCache.len_get_le (reads : GetReads) (key : Key) :
    (cache.get reads key).2.len ≤ cache.len := by
  unfold LruTtlCache.get
  cases isFound : cache.find key with
  | none => exact Nat.le_refl _
  | some entry =>
      have present : cache.entries.find key ≠ none := by
        intro absent
        rw [(LruTtlCache.find_eq_none_iff key).mpr absent] at isFound
        cases isFound
      rcases Option.ne_none_iff_exists'.mp present with ⟨row, found⟩
      have fewer := Table.length_delete found
      dsimp only
      split_ifs with expired
      · dsimp only [LruTtlCache.len]
        omega
      · have grown := Table.length_upsert_le (cache.entries.delete key)
          (key, LruEntry.new entry.value ⟨entry.expiresAt - reads.remaining⟩ reads.renewed)
        dsimp only [LruTtlCache.len, LruTtlCache.nextAccessOrder]
        omega

theorem LruTtlCache.max_get (reads : GetReads) (key : Key) :
    (cache.get reads key).2.maxEntries = cache.maxEntries := by
  unfold LruTtlCache.get
  cases cache.find key with
  | none => rfl
  | some entry =>
      dsimp only
      split_ifs <;> rfl

theorem LruTtlCache.within_step_iff (within : cache.WithinCapacity)
    (call : LruTtlCacheCall Key Value) :
    (cache.step call).WithinCapacity ↔ cache.FindsRoom call := by
  cases call with
  | insert reads key value =>
      exact LruTtlCache.within_insert_iff within reads key value cache.defaultTtl
  | insertWithTtl reads key value ttl =>
      exact LruTtlCache.within_insert_iff within reads key value ttl
  | get reads key =>
      apply iff_of_true _ trivial
      unfold LruTtlCache.WithinCapacity
      rw [LruTtlCache.step, LruTtlCache.max_get]
      exact Nat.le_trans (LruTtlCache.len_get_le reads key) within
  | remove key =>
      apply iff_of_true _ trivial
      exact Nat.le_trans (List.length_filter_le _ _) within

end

/-- A cache of either kind holds no more than it may along exactly those runs in which every
insertion of a new key into a full cache finds room: in a `TtlCache` that may hold five entries,
in an `LruTtlCache` an entry that has expired. -/
theorem capacity_kept_iff_finds_room (defaultTtl : Duration) (maxEntries : Nat)
    (ttlCalls : List (TtlCacheCall Key Value)) (lruCalls : List (LruTtlCacheCall Key Value)) :
    (Always TtlCache.step TtlCache.WithinCapacity (.withConfig defaultTtl maxEntries) ttlCalls ↔
        EachMove TtlCache.step TtlCache.FindsRoom (.withConfig defaultTtl maxEntries) ttlCalls) ∧
      (Always LruTtlCache.step LruTtlCache.WithinCapacity (.new defaultTtl maxEntries) lruCalls ↔
        EachMove LruTtlCache.step LruTtlCache.FindsRoom (.new defaultTtl maxEntries) lruCalls) := by
  constructor
  · apply always_iff_each_move TtlCache.step TtlCache.WithinCapacity TtlCache.FindsRoom
    · intro cache call within
      exact TtlCache.within_step_iff within call
    · exact Nat.zero_le maxEntries
  · apply always_iff_each_move LruTtlCache.step LruTtlCache.WithinCapacity LruTtlCache.FindsRoom
    · intro cache call within
      exact LruTtlCache.within_step_iff within call
    · exact Nat.zero_le maxEntries

end Steps

def keysAsTheyAre : KeyOrder Nat := ⟨id, List.Perm.refl⟩

/-- Two values for a minute each, where one entry is allowed: both caches hold two. -/
theorem second_entry_exceeds_capacity :
    ¬Always TtlCache.step TtlCache.WithinCapacity
        (TtlCache.withConfig (.fromSecs 60) 1 : TtlCache Nat Nat)
        [.insert 0 keysAsTheyAre 1 10, .insert 1 keysAsTheyAre 2 20] ∧
      ¬Always LruTtlCache.step LruTtlCache.WithinCapacity
        (LruTtlCache.new (.fromSecs 60) 1 : LruTtlCache Nat Nat)
        [.insert ⟨0, fun _ => 0⟩ 1 10, .insert ⟨1, fun _ => 1⟩ 2 20] := by
  constructor
  · intro always
    exact absurd (always_final TtlCache.step _ _ always) (by decide)
  · intro always
    exact absurd (always_final LruTtlCache.step _ _ always) (by decide)

end HodeiJobs.Scheduling
