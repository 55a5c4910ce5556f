import Mathlib.Data.Finset.Card
import Mathlib.Data.List.Perm.Basic

/-!
# Items in the custody of one holder each

A register knows which items are out. `InCustody` says that each of them has exactly one holder;
holders hand items on, take fresh ones and give them back.
-/

namespace HodeiJobs.Library

variable {Item : Type}

/-- `held` lists the items of all holders. -/
structure InCustody (held : List Item) (register : Finset Item) : Prop where
  distinct : held.Nodup
  registered : ∀ item, item ∈ held ↔ item ∈ register

namespace InCustody

variable {held others : List Item} {register : Finset Item} {item : Item}

theorem none_held : InCustody ([] : List Item) ∅ where
  distinct := List.nodup_nil
  registered := by simp

/-- An item goes from one holder to another. -/
theorem handed_on (custody : InCustody held register) (same : others.Perm held) :
    InCustody others register where
  distinct := same.nodup_iff.mpr custody.distinct
  registered item := same.mem_iff.trans (custody.registered item)

theorem taken [DecidableEq Item] (custody : InCustody held register) (fresh : item ∉ register)
    (same : others.Perm (item :: held)) : InCustody others (insert item register) := by
  apply handed_on _ same
  refine ⟨List.nodup_cons.mpr ⟨?_, custody.distinct⟩, ?_⟩
  · rw [custody.registered]
    exact fresh
  · intro other
    rw [List.mem_cons, Finset.mem_insert, custody.registered]

theorem given_back [DecidableEq Item] (custody : InCustody held register)
    (same : held.Perm (item :: others)) : InCustody others (register.erase item) := by
  have before := custody.handed_on same.symm
  obtain ⟨absent, distinct⟩ := List.nodup_cons.mp before.distinct
  refine ⟨distinct, ?_⟩
  intro other
  rw [Finset.mem_erase, ← before.registered, List.mem_cons]
  constructor
  · intro isHeld
    refine ⟨?_, .inr isHeld⟩
    intro isItem
    exact absent (isItem ▸ isHeld)
  · intro ⟨differs, isHeld⟩
    exact isHeld.resolve_left differs

theorem card_register (custody : InCustody held register) : register.card = held.length := by
  classical
  have same : register = held.toFinset := by
    ext item
    rw [List.mem_toFinset, custody.registered]
  rw [same, List.toFinset_card_of_nodup custody.distinct]

end InCustody

end HodeiJobs.Library
