import Mathlib.Data.List.Basic

/-!
# Bounded channels

A channel holds at most as many items as its capacity: a sender that finds it full waits, and
so does a receiver that finds it empty.
-/

namespace HodeiJobs.Library

structure Channel (Item : Type) (capacity : Nat) where
  items : List Item
  bounded : items.length ≤ capacity

namespace Channel

variable {Item : Type} {capacity : Nat}

def empty (Item : Type) (capacity : Nat) : Channel Item capacity := ⟨[], Nat.zero_le _⟩

/-- `none` while there is no room. -/
def send (channel : Channel Item capacity) (item : Item) : Option (Channel Item capacity) :=
  if room : channel.items.length < capacity then
    some ⟨channel.items ++ [item], by rw [List.length_append]; exact room⟩
  else none

/-- `none` while there is no item. -/
def receive (channel : Channel Item capacity) : Option (Item × Channel Item capacity) :=
  match channel with
  | ⟨[], _⟩ => none
  | ⟨item :: rest, bounded⟩ => some (item, ⟨rest, Nat.le_of_succ_le bounded⟩)

variable {channel after : Channel Item capacity} {item : Item}

theorem items_of_send (sent : channel.send item = some after) :
    after.items = channel.items ++ [item] := by
  unfold send at sent
  split at sent
  · cases sent
    rfl
  · cases sent

theorem length_of_send (sent : channel.send item = some after) :
    after.items.length = channel.items.length + 1 := by
  rw [items_of_send sent, List.length_append, List.length_singleton]

theorem send_eq_none_iff : channel.send item = none ↔ capacity ≤ channel.items.length := by
  simp [send]

theorem items_of_receive (received : channel.receive = some (item, after)) :
    channel.items = item :: after.items := by
  obtain ⟨items, bounded⟩ := channel
  cases items with
  | nil => cases received
  | cons first rest =>
      cases received
      rfl

theorem receive_eq_none_iff : channel.receive = none ↔ channel.items = [] := by
  obtain ⟨items, bounded⟩ := channel
  cases items <;> simp [receive]

end Channel

end HodeiJobs.Library
