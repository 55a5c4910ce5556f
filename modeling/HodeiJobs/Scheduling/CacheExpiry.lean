import Mathlib.Logic.Function.Basic
import HodeiJobs.Scheduling.CacheCapacity

/-!
# The expiry of cached values

`LruTtlCache` under a clock that never goes back. A hit enters its entry again, with the time
that the entry has left by one reading of the clock, counted from another.
-/

namespace HodeiJobs.Scheduling

open HodeiJobs.Library
open HodeiJobs.Sagas (Duration)

/-- How far the clock moves before each of its readings in a `get`. -/
structure GetWaits where
  found : Nat
  remaining : Nat
  renewed : Nat

/-- How far it moves before the reading for a new entry, and from there to that for each old one. -/
structure InsertWaits (Key : Type) where
  inserted : Nat
  evicted : Key → Nat

def GetWaits.reads (waits : GetWaits) (clock : Nat) : GetReads :=
  let found := clock + waits.found
  let remaining := found + waits.remaining
  ⟨found, remaining, remaining + waits.renewed⟩

def InsertWaits.reads {Key : Type} (waits : InsertWaits Key) (clock : Nat) : InsertReads Key :=
  let inserted := clock + waits.inserted
  ⟨inserted, fun key => inserted + waits.evicted key⟩

/-- A cache with the last clock reading and the entry that each key was last inserted with. -/
structure TimedCache (Key Value : Type) where
  cache : LruTtlCache Key Value
  clock : Nat
  inserted : Key → Option (LruEntry Value)

inductive TimedCall (Key Value : Type) where
  | insert (waits : InsertWaits Key) (key : Key) (value : Value)
  | insertWithTtl (waits : InsertWaits Key) (key : Key) (value : Value) (ttl : Duration)
  | get (waits : GetWaits) (key : Key)
  | contains (waits : GetWaits) (key : Key)
  | remove (key : Key)
  | clear

namespace TimedCache

variable {Key Value : Type} [DecidableEq Key]

def new (defaultTtl : Duration) (maxEntries clock : Nat) : TimedCache Key Value :=
  ⟨.new defaultTtl maxEntries, clock, fun _ => none⟩

/-- The old entries are looked at only where the cache is full. -/
def clockAfterInsert (timed : TimedCache Key Value) (reads : InsertReads Key) : Nat :=
  if timed.cache.maxEntries ≤ timed.cache.len then
    timed.cache.entries.rows.foldl (fun clock row => max clock (reads.evicted row.1)) reads.inserted
  else reads.inserted

/-- The clock is read for a key that is there, and read again where its entry is live. -/
def clockAfterGet (timed : TimedCache Key Value) (reads : GetReads) (key : Key) : Nat :=
  match timed.cache.find key with
  | none => timed.clock
  | some entry => if entry.isExpired reads.found then reads.found else reads.renewed

def insertWithTtl (timed : TimedCache Key Value) (waits : InsertWaits Key) (key : Key)
    (value : Value) (ttl : Duration) : TimedCache Key Value :=
  let reads := waits.reads timed.clock
  { cache := (timed.cache.insertWithTtl reads key value ttl).2
    clock := timed.clockAfterInsert reads
    inserted := Function.update timed.inserted key (some (.new value ttl reads.inserted)) }

def get (timed : TimedCache Key Value) (waits : GetWaits) (key : Key) : TimedCache Key Value :=
  let reads := waits.reads timed.clock
  { timed with
    cache := (timed.cache.get reads key).2
    clock := timed.clockAfterGet reads key }

def step (timed : TimedCache Key Value) : TimedCall Key Value → TimedCache Key Value
  | .insert waits key value => timed.insertWithTtl waits key value timed.cache.defaultTtl
  | .insertWithTtl waits key value ttl => timed.insertWithTtl waits key value ttl
  | .get waits key | .contains waits key => timed.get waits key
  | .remove key => { timed with cache := (timed.cache.remove key).2 }
  | .clear => { timed with cache := timed.cache.clear }

/-! ## What readers rely on -/

/-- A value that a `get` returns is the last of its key, and had not expired when the clock was
last read. -/
def Fresh (timed : TimedCache Key Value) : TimedCall Key Value → Prop
  | .get waits key | .contains waits key =>
      ∀ value, (timed.cache.get (waits.reads timed.clock) key).1 = some value →
        ∃ last, timed.inserted key = some last ∧ last.value = value ∧ timed.clock < last.expiresAt
  | .insert _ _ _ | .insertWithTtl _ _ _ _ | .remove _ | .clear => True

/-- No live entry expires later than it was inserted to. -/
def NotPostponed (timed : TimedCache Key Value) : Prop :=
  ∀ key entry last, timed.cache.find key = some entry → timed.inserted key = some last →
    timed.clock < entry.expiresAt → entry.expiresAt ≤ last.expiresAt

/-- A hit that still measures some time left is entered again at the instant of the measurement. -/
def Anchored (timed : TimedCache Key Value) : TimedCall Key Value → Prop
  | .get waits key | .contains waits key =>
      ∀ entry, timed.cache.find key = some entry →
        (waits.reads timed.clock).remaining < entry.expiresAt → waits.renewed = 0
  | .insert _ _ _ | .insertWithTtl _ _ _ _ | .remove _ | .clear => True

/-- Every entry has the value, and while it is live the expiry, that its key was inserted with. -/
def Dated (timed : TimedCache Key Value) : Prop :=
  ∀ key entry, timed.cache.find key = some entry →
    ∃ last, timed.inserted key = some last ∧ last.value = entry.value ∧
      (timed.clock < entry.expiresAt → entry.expiresAt = last.expiresAt)

/-! ## What a call does to the entries -/

section

variable {cache : LruTtlCache Key Value} {reads : GetReads} {key : Key} {entry : LruEntry Value}

theorem find_get_expired (found : cache.find key = some entry)
    (expired : entry.isExpired reads.found = true) (wanted : Key) :
    (cache.get reads key).2.find wanted = if wanted = key then none else cache.find wanted := by
  unfold LruTtlCache.get
  rw [found]
  dsimp only
  rw [if_pos expired, LruTtlCache.find, Table.find_delete]
  split_ifs <;> rfl

theorem find_get_live (found : cache.find key = some entry)
    (live : ¬entry.isExpired reads.found = true) (wanted : Key) :
    (cache.get reads key).2.find wanted =
      if wanted = key then
        some (.new entry.value ⟨entry.expiresAt - reads.remaining⟩ reads.renewed)
      else cache.find wanted := by
  unfold LruTtlCache.get
  rw [found]
  dsimp only
  rw [if_neg live, LruTtlCache.find, LruTtlCache.find_upsert]
  split_ifs with same
  · rfl
  · rw [LruTtlCache.nextAccessOrder, Table.find_delete, if_neg same]
    rfl

/-- An entry of a cache into which another one was inserted was there before. -/
theorem find_insert_other {reads : InsertReads Key} {value : Value} {ttl : Duration}
    {wanted : Key} (other : wanted ≠ key)
    (found : (cache.insertWithTtl reads key value ttl).2.find wanted = some entry) :
    cache.find wanted = some entry := by
  rw [LruTtlCache.find, LruTtlCache.entries_insert, LruTtlCache.find_upsert, if_neg other,
    LruTtlCache.makeRoom] at found
  split_ifs at found with full
  · rcases Option.map_eq_some_iff.mp found with ⟨row, kept, isEntry⟩
    rw [Table.find_retain] at kept
    rw [LruTtlCache.find, (Option.filter_eq_some_iff.mp kept).1, Option.map_some, isEntry]
  · exact found

theorem find_insert_self {reads : InsertReads Key} {value : Value} {ttl : Duration} :
    (cache.insertWithTtl reads key value ttl).2.find key = some (.new value ttl reads.inserted) := by
  rw [LruTtlCache.find, LruTtlCache.entries_insert, LruTtlCache.find_upsert, if_pos rfl]

end

section

variable {timed : TimedCache Key Value}

omit [DecidableEq Key] in
theorem clock_le_after_insert (waits : InsertWaits Key) :
    timed.clock ≤ timed.clockAfterInsert (waits.reads timed.clock) := by
  have start : timed.clock ≤ (waits.reads timed.clock).inserted := Nat.le_add_right _ _
  have grows : ∀ (rows : List (Key × LruEntry Value)) (clock : Nat), clock ≤
      rows.foldl (fun clock row => max clock ((waits.reads timed.clock).evicted row.1)) clock := by
    intro rows
    induction rows with
    | nil => exact Nat.le_refl
    | cons row rest ih =>
        intro clock
        exact Nat.le_trans (Nat.le_max_left _ _) (ih _)
  unfold clockAfterInsert
  split_ifs
  · exact Nat.le_trans start (grows _ _)
  · exact start

theorem clock_le_after_get (timed : TimedCache Key Value) (waits : GetWaits) (key : Key) :
    timed.clock ≤ (timed.get waits key).clock := by
  unfold get clockAfterGet GetWaits.reads
  cases timed.cache.find key with
  | none => exact Nat.le_refl _
  | some entry =>
      dsimp only
      split_ifs <;> omega

/-- A hit ends when its entry is made again. -/
theorem clock_of_hit {waits : GetWaits} {key : Key} {old : LruEntry Value}
    (isFound : timed.cache.find key = some old)
    (live : ¬old.isExpired (waits.reads timed.clock).found = true) :
    (timed.get waits key).clock = (waits.reads timed.clock).renewed := by
  change timed.clockAfterGet (waits.reads timed.clock) key = _
  rw [clockAfterGet, isFound]
  exact if_neg live

/-! ## One call -/

theorem new_dated (defaultTtl : Duration) (maxEntries clock : Nat) :
    (new defaultTtl maxEntries clock : TimedCache Key Value).Dated := by
  intro key entry found
  cases found

theorem dated_not_postponed (dated : timed.Dated) : timed.NotPostponed := by
  intro key entry last found inserted live
  rcases dated key entry found with ⟨other, isLast, _, onTime⟩
  rw [inserted] at isLast
  cases isLast
  exact Nat.le_of_eq (onTime live)

theorem insert_dated (dated : timed.Dated) (waits : InsertWaits Key) (key : Key) (value : Value)
    (ttl : Duration) : (timed.insertWithTtl waits key value ttl).Dated := by
  intro wanted entry found
  by_cases same : wanted = key
  · subst same
    have isNew := find_insert_self.symm.trans found
    cases isNew
    exact ⟨_, Function.update_self .., rfl, fun _ => rfl⟩
  · have before := find_insert_other same found
    rcases dated wanted entry before with ⟨last, inserted, sameValue, onTime⟩
    refine ⟨last, ?_, sameValue, ?_⟩
    · exact (Function.update_of_ne same _ _).trans inserted
    · intro live
      exact onTime (Nat.lt_of_le_of_lt (clock_le_after_insert waits) live)

/-- A later clock and fewer entries. -/
theorem dated_of_fewer (next : TimedCache Key Value) (dated : timed.Dated)
    (fewer : ∀ key entry, next.cache.find key = some entry → timed.cache.find key = some entry)
    (sameInserted : next.inserted = timed.inserted) (later : timed.clock ≤ next.clock) :
    next.Dated := by
  intro key entry found
  rcases dated key entry (fewer key entry found) with ⟨last, inserted, sameValue, onTime⟩
  rw [sameInserted]
  exact ⟨last, inserted, sameValue, fun live => onTime (Nat.lt_of_le_of_lt later live)⟩

theorem get_dated (dated : timed.Dated) (waits : GetWaits) (key : Key)
    (anchored : timed.Anchored (.get waits key)) : (timed.get waits key).Dated := by
  have later := clock_le_after_get timed waits key
  cases isFound : timed.cache.find key with
  | none =>
      apply dated_of_fewer (timed.get waits key) dated _ rfl later
      intro wanted entry found
      have same : (timed.cache.get (waits.reads timed.clock) key).2 = timed.cache := by
        rw [LruTtlCache.get, isFound]
      rw [← same]
      exact found
  | some old =>
      by_cases expired : old.isExpired (waits.reads timed.clock).found = true
      · apply dated_of_fewer (timed.get waits key) dated _ rfl later
        intro wanted entry found
        have removed := (find_get_expired isFound expired wanted).symm.trans found
        split_ifs at removed
        exact removed
      · intro wanted entry found
        have renewed := (find_get_live isFound expired wanted).symm.trans found
        split_ifs at renewed with same
        · subst same
          cases renewed
          rcases dated wanted old isFound with ⟨last, inserted, sameValue, onTime⟩
          refine ⟨last, inserted, sameValue, ?_⟩
          rw [clock_of_hit isFound expired]
          dsimp only [LruEntry.new]
          intro live
          have left : (waits.reads timed.clock).remaining < old.expiresAt := by omega
          have atOnce := anchored old isFound left
          dsimp only [GetWaits.reads] at left ⊢
          have before : timed.clock < old.expiresAt := by omega
          have unchanged := onTime before
          omega
        · rcases dated wanted entry renewed with ⟨last, inserted, sameValue, onTime⟩
          exact ⟨last, inserted, sameValue, fun live => onTime (Nat.lt_of_le_of_lt later live)⟩

/-- A hit that is entered again later, with the time that it had left before, is postponed. -/
theorem anchored_of_not_postponed (dated : timed.Dated) (waits : GetWaits) (key : Key)
    (onTime : (timed.get waits key).NotPostponed) : timed.Anchored (.get waits key) := by
  intro old isFound left
  have notExpired : ¬old.isExpired (waits.reads timed.clock).found = true := by
    rw [LruEntry.isExpired, decide_eq_true_eq]
    dsimp only [GetWaits.reads] at left ⊢
    omega
  have renewed := find_get_live isFound notExpired key
  rw [if_pos rfl] at renewed
  rcases dated key old isFound with ⟨last, inserted, _, same⟩
  have kept := onTime key _ last renewed inserted
  rw [clock_of_hit isFound notExpired] at kept
  dsimp only [LruEntry.new, GetWaits.reads] at left kept
  have before : timed.clock < old.expiresAt := by omega
  have unchanged := same before
  omega

theorem dated_fresh (dated : timed.Dated) (waits : GetWaits) (key : Key) :
    timed.Fresh (.get waits key) := by
  intro value answered
  rw [LruTtlCache.get_value] at answered
  rcases Option.bind_eq_some_iff.mp answered with ⟨entry, found, kept⟩
  split_ifs at kept with expired
  cases kept
  rcases dated key entry found with ⟨last, inserted, sameValue, onTime⟩
  have live : timed.clock < entry.expiresAt := by
    rw [LruEntry.isExpired, decide_eq_true_eq] at expired
    dsimp only [GetWaits.reads] at expired
    omega
  exact ⟨last, inserted, sameValue, onTime live ▸ live⟩

theorem step_dated (timed : TimedCache Key Value) (call : TimedCall Key Value)
    (dated : timed.Dated) (anchored : timed.Anchored call) : (timed.step call).Dated := by
  cases call with
  | insert waits key value => exact insert_dated dated waits key value timed.cache.defaultTtl
  | insertWithTtl waits key value ttl => exact insert_dated dated waits key value ttl
  | get waits key => exact get_dated dated waits key anchored
  | contains waits key => exact get_dated dated waits key anchored
  | remove key =>
      apply dated_of_fewer (timed.step (.remove key)) dated _ rfl (Nat.le_refl _)
      intro wanted entry found
      have removed : (timed.step (.remove key)).cache.find wanted =
          if wanted = key then none else timed.cache.find wanted := by
        change ((timed.cache.entries.delete key).find wanted).map Prod.snd = _
        rw [Table.find_delete]
        split_ifs <;> rfl
      rw [removed] at found
      split_ifs at found
      exact found
  | clear =>
      intro wanted entry found
      cases found

/-- The calls that are answered in time and postpone nothing are the anchored ones. -/
theorem anchored_iff (timed : TimedCache Key Value) (call : TimedCall Key Value)
    (dated : timed.Dated) :
    timed.Anchored call ↔ (timed.step call).NotPostponed ∧ timed.Fresh call := by
  constructor
  · intro anchored
    have next := step_dated timed call dated anchored
    constructor
    · exact dated_not_postponed next
    · cases call with
      | get waits key => exact dated_fresh dated waits key
      | contains waits key => exact dated_fresh dated waits key
      | insert _ _ _ => trivial
      | insertWithTtl _ _ _ _ => trivial
      | remove _ => trivial
      | clear => trivial
  · intro good
    cases call with
    | get waits key => exact anchored_of_not_postponed dated waits key good.1
    | contains waits key => exact anchored_of_not_postponed dated waits key good.1
    | insert _ _ _ => trivial
    | insertWithTtl _ _ _ _ => trivial
    | remove _ => trivial
    | clear => trivial

end

/-- Along a run no entry is postponed and no value is returned after its time, exactly if each hit
with time left is entered again at the instant at which that time was measured. -/
theorem answers_in_time_iff_anchored (defaultTtl : Duration) (maxEntries clock : Nat)
    (calls : List (TimedCall Key Value)) :
    (Always step NotPostponed (new defaultTtl maxEntries clock) calls ∧
        EachMove step Fresh (new defaultTtl maxEntries clock) calls) ↔
      EachMove step Anchored (new defaultTtl maxEntries clock) calls := by
  apply always_and_each_move_iff_within step Dated NotPostponed
  · intro timed
    exact dated_not_postponed
  · exact step_dated
  · exact anchored_iff
  · exact new_dated defaultTtl maxEntries clock

end TimedCache

/-- Inserted for ten nanoseconds and read with a delay of nine: after the tenth the value is still
returned. -/
theorem drifted_value_returned :
    ¬EachMove TimedCache.step TimedCache.Fresh
      (TimedCache.new ⟨10⟩ 5 0 : TimedCache Nat Nat)
      [.insert ⟨0, fun _ => 0⟩ 1 7, .get ⟨0, 0, 9⟩ 1, .get ⟨1, 0, 0⟩ 1, .get ⟨0, 0, 0⟩ 1] := by
  intro fresh
  rcases fresh.2.2.2.1 7 rfl with ⟨last, inserted, _, live⟩
  cases inserted
  exact absurd live (by decide)

end HodeiJobs.Scheduling
