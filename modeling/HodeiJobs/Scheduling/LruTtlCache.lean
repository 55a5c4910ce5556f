import HodeiJobs.Library.Table
import HodeiJobs.Sagas.Types

/-!
# The cache of the scheduler

`LruTtlCache`, for any keys and values. Its access order is counted but decides nothing. An
instant is a number of nanoseconds, and each read of the clock has its own.
-/

namespace HodeiJobs.Scheduling

open HodeiJobs.Library
open HodeiJobs.Sagas (Duration)

structure LruEntry (Value : Type) where
  value : Value
  expiresAt : Nat

namespace LruEntry

variable {Value : Type}

def new (value : Value) (ttl : Duration) (now : Nat) : LruEntry Value := ⟨value, now + ttl.nanos⟩

def isExpired (entry : LruEntry Value) (now : Nat) : Bool := decide (entry.expiresAt ≤ now)

end LruEntry

structure LruTtlCache (Key Value : Type) where
  entries : Table (Prod.fst : Key × LruEntry Value → Key)
  accessCounter : Nat
  defaultTtl : Duration
  maxEntries : Nat

/-- The clock in a `get`: in `is_expired`, in `duration_since` and for the new entry. -/
structure GetReads where
  found : Nat
  remaining : Nat
  renewed : Nat

/-- The clock in an `insert`: for the new entry, and in `is_expired` of each old one. -/
structure InsertReads (Key : Type) where
  inserted : Nat
  evicted : Key → Nat

namespace LruTtlCache

variable {Key Value : Type} [DecidableEq Key]

def new (defaultTtl : Duration) (maxEntries : Nat) : LruTtlCache Key Value :=
  ⟨⟨[], List.nodup_nil⟩, 0, defaultTtl, maxEntries⟩

def nextAccessOrder (cache : LruTtlCache Key Value) : LruTtlCache Key Value :=
  { cache with accessCounter := cache.accessCounter + 1 }

def len (cache : LruTtlCache Key Value) : Nat := cache.entries.rows.length

def find (cache : LruTtlCache Key Value) (key : Key) : Option (LruEntry Value) :=
  (cache.entries.find key).map Prod.snd

/-- The expired entries make room for the new one; other entries stay, also in a full cache. The
value that the key had is returned. -/
def insertWithTtl (cache : LruTtlCache Key Value) (reads : InsertReads Key) (key : Key)
    (value : Value) (ttl : Duration) : Option Value × LruTtlCache Key Value :=
  let cache := cache.nextAccessOrder
  let entry := LruEntry.new value ttl reads.inserted
  let entries :=
    if cache.maxEntries ≤ cache.len then
      cache.entries.retain fun row => !row.2.isExpired (reads.evicted row.1)
    else cache.entries
  ((entries.find key).map fun row => row.2.value,
    { cache with entries := entries.upsert (key, entry) })

def insert (cache : LruTtlCache Key Value) (reads : InsertReads Key) (key : Key)
    (value : Value) : Option Value × LruTtlCache Key Value :=
  cache.insertWithTtl reads key value cache.defaultTtl

def remove (cache : LruTtlCache Key Value) (key : Key) :
    Option Value × LruTtlCache Key Value :=
  ((cache.find key).map LruEntry.value, { cache with entries := cache.entries.delete key })

def clear (cache : LruTtlCache Key Value) : LruTtlCache Key Value :=
  { cache with entries := ⟨[], List.nodup_nil⟩ }

/-- An entry that is found is inserted again, with the time that it had left. -/
def get (cache : LruTtlCache Key Value) (reads : GetReads) (key : Key) :
    Option Value × LruTtlCache Key Value :=
  match cache.find key with
  | none => (none, cache)
  | some entry =>
      if entry.isExpired reads.found then
        (none, { cache with entries := cache.entries.delete key })
      else
        let cache := cache.nextAccessOrder
        let remaining : Duration := ⟨entry.expiresAt - reads.remaining⟩
        (some entry.value, { cache with
          entries := (cache.entries.delete key).upsert
            (key, .new entry.value remaining reads.renewed) })

/-- The value of an entry that is found and has not expired. -/
def live (cache : LruTtlCache Key Value) (now : Nat) (key : Key) : Option Value :=
  (cache.find key).bind fun entry => if entry.isExpired now then none else some entry.value

/-! ## What the cache holds -/

variable {Answer : Type} (answer : Value → Answer)

/-- Every entry has the answer that its key was last given. -/
def Holds (cache : LruTtlCache Key Value) (last : Key → Option Answer) : Prop :=
  ∀ key entry, cache.find key = some entry → last key = some (answer entry.value)

section

variable {answer} {cache : LruTtlCache Key Value} {last : Key → Option Answer}

theorem find_upsert (entries : Table (Prod.fst : Key × LruEntry Value → Key)) (key wanted : Key)
    (entry : LruEntry Value) :
    ((entries.upsert (key, entry)).find wanted).map Prod.snd =
      if wanted = key then some entry else (entries.find wanted).map Prod.snd := by
  split_ifs with same
  · subst same
    rw [Table.find_upsert_self entries (wanted, entry)]
    rfl
  · rw [Table.find_upsert_other entries (key, entry) fun other => same other.symm]

theorem new_holds (defaultTtl : Duration) (maxEntries : Nat) (last : Key → Option Answer) :
    (new defaultTtl maxEntries : LruTtlCache Key Value).Holds answer last := by
  intro key entry found
  cases found

theorem get_value (cache : LruTtlCache Key Value) (reads : GetReads) (key : Key) :
    (cache.get reads key).1 = cache.live reads.found key := by
  unfold get live
  cases cache.find key with
  | none => rfl
  | some entry =>
      dsimp only [Option.bind_some]
      split_ifs <;> rfl

/-- A live answer is the last one of its key. -/
theorem live_last (holds : cache.Holds answer last) {now : Nat} {key : Key} {value : Value}
    (isLive : cache.live now key = some value) : last key = some (answer value) := by
  obtain ⟨entry, found, kept⟩ := Option.bind_eq_some_iff.mp isLive
  split_ifs at kept
  cases kept
  exact holds key entry found

theorem get_holds (holds : cache.Holds answer last) (reads : GetReads) (key : Key) :
    (cache.get reads key).2.Holds answer last := by
  unfold get
  cases isFound : cache.find key with
  | none => exact holds
  | some entry =>
      have deleted : ∀ wanted, ((cache.entries.delete key).find wanted).map Prod.snd =
          if wanted = key then none else cache.find wanted := by
        intro wanted
        rw [Table.find_delete]
        split_ifs <;> rfl
      dsimp only
      split_ifs with expired
      · intro wanted other found
        rw [find, deleted] at found
        split_ifs at found
        exact holds wanted other found
      · intro wanted other found
        rw [find, find_upsert] at found
        split_ifs at found with same
        · cases found
          rw [same]
          exact holds key entry isFound
        · have before := deleted wanted
          rw [if_neg same] at before
          exact holds wanted other (before.symm.trans found)

/-- An inserted answer is the last one of its key. -/
theorem insert_holds (holds : cache.Holds answer last) (reads : InsertReads Key) (key : Key)
    (value : Value) {next : Key → Option Answer} (isNew : next key = some (answer value))
    (others : ∀ other, other ≠ key → next other = last other) :
    (cache.insert reads key value).2.Holds answer next := by
  intro wanted entry found
  unfold insert insertWithTtl find at found
  dsimp only at found
  rw [find_upsert] at found
  split_ifs at found with same full
  · cases found
    rw [same]
    exact isNew
  · obtain ⟨row, kept, isEntry⟩ := Option.map_eq_some_iff.mp found
    rw [Table.find_retain] at kept
    have before : cache.entries.find wanted = some row := (Option.filter_eq_some_iff.mp kept).1
    rw [others wanted same]
    apply holds wanted entry
    rw [find, before, Option.map_some, isEntry]
  · rw [others wanted same]
    exact holds wanted entry found

end

end LruTtlCache

end HodeiJobs.Scheduling
