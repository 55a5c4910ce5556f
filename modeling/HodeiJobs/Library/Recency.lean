import Mathlib.Data.List.Nodup

/-!
# Keys ordered by their last use

A list of keys that is kept in the order of their last use by moving a key to the back
when it is used, and the history of uses that this order stands for.
-/

namespace HodeiJobs.Library

variable {Key : Type}

/-- The other key was used after the last use of this one. -/
def UsedBefore (history : List Key) (key other : Key) : Prop :=
  ∃ earlier later, history = earlier ++ other :: later ∧ key ∉ other :: later

theorem used_before_new {history : List Key} {key other : Key} (different : key ≠ other) :
    UsedBefore (history ++ [other]) key other :=
  ⟨history, [], rfl, by simpa using different⟩

theorem used_before_append {history : List Key} {key other used : Key}
    (before : UsedBefore history key other) (different : key ≠ used) :
    UsedBefore (history ++ [used]) key other := by
  obtain ⟨earlier, later, split, unused⟩ := before
  refine ⟨earlier, later ++ [used], by rw [split]; simp, ?_⟩
  rw [← List.cons_append, List.mem_append, List.mem_singleton]
  exact fun used => used.elim unused different

/-- Every other of the keys was used later. -/
def LeastRecentlyUsed (history keys : List Key) (key : Key) : Prop :=
  key ∈ keys ∧ ∀ other ∈ keys, other ≠ key → UsedBefore history key other

def ByLastUse (history order : List Key) : Prop := order.Pairwise (UsedBefore history)

theorem least_recently_used_head {history keys rest : List Key} {oldest : Key}
    (ordered : ByLastUse history (oldest :: rest)) (same : List.Perm (oldest :: rest) keys) :
    LeastRecentlyUsed history keys oldest := by
  constructor
  · exact same.subset List.mem_cons_self
  · intro other isKey different
    rcases List.mem_cons.mp (same.symm.subset isKey) with rfl | inRest
    · exact absurd rfl different
    · exact (List.pairwise_cons.mp ordered).1 other inRest

variable [DecidableEq Key]

/-- The used key goes to the back. -/
def touch (order : List Key) (key : Key) : List Key := order.erase key ++ [key]

theorem touch_of_not_mem {order : List Key} {key : Key} (absent : key ∉ order) :
    touch order key = order ++ [key] := by
  rw [touch, List.erase_of_not_mem absent]

theorem touch_touch {order : List Key} {key : Key} (distinct : order.Nodup) :
    touch (touch order key) key = touch order key := by
  have absent : key ∉ order.erase key := distinct.not_mem_erase
  unfold touch
  rw [List.erase_append_right _ absent, List.erase_cons_head, List.append_nil]

theorem nodup_touch {order : List Key} {key : Key} (distinct : order.Nodup) :
    (touch order key).Nodup := by
  rw [touch, List.nodup_append]
  refine ⟨distinct.erase key, List.nodup_singleton key, ?_⟩
  intro other isOther last isLast same
  rw [List.mem_singleton.mp isLast] at same
  subst same
  exact distinct.not_mem_erase isOther

theorem perm_touch {order : List Key} {key : Key} (present : key ∈ order) :
    List.Perm (touch order key) order := by
  have moved : List.Perm (touch order key) (key :: order.erase key) :=
    List.perm_append_singleton key (order.erase key)
  exact moved.trans (List.perm_cons_erase present).symm

theorem by_last_use_touch {history order : List Key} {key : Key} (distinct : order.Nodup)
    (ordered : ByLastUse history order) : ByLastUse (history ++ [key]) (touch order key) := by
  have others : ∀ other ∈ order.erase key, other ≠ key := by
    intro other inRest same
    exact distinct.not_mem_erase (same ▸ inRest)
  have kept : (order.erase key).Pairwise (UsedBefore history) :=
    List.Pairwise.sublist List.erase_sublist ordered
  unfold ByLastUse touch
  rw [List.pairwise_append]
  refine ⟨?_, List.pairwise_singleton _ _, ?_⟩
  · apply kept.imp_of_mem
    intro first second isFirst _ before
    exact used_before_append before (others first isFirst)
  · intro other inRest last isLast
    rw [List.mem_singleton.mp isLast]
    exact used_before_new (others other inRest)

end HodeiJobs.Library
