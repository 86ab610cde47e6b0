import Mathlib.Data.List.Basic

/-!
A bounded ring: a full ring drops its oldest item for a new one, so it holds the newest
items of all that were pushed. Along a transitive relation it stays ordered as long as
each new item is related to the last one.
-/

namespace Dnsix.BoundedRing

universe u
variable {Item : Type u}

structure RingBuffer (Item : Type u) where
  cap : Nat
  items : List Item
  positive : 0 < cap
  fits : items.length ≤ cap

def RingBuffer.empty (cap : Nat) (positive : 0 < cap) : RingBuffer Item :=
  ⟨cap, [], positive, Nat.zero_le cap⟩

/-- The items that stay when another one is pushed. -/
def RingBuffer.kept (ring : RingBuffer Item) : List Item :=
  if ring.items.length = ring.cap then ring.items.tail else ring.items

theorem kept_length (ring : RingBuffer Item) : ring.kept.length + 1 ≤ ring.cap := by
  have fits := ring.fits
  have positive := ring.positive
  unfold RingBuffer.kept
  split
  · rw [List.length_tail]
    omega
  · omega

def RingBuffer.push (ring : RingBuffer Item) (item : Item) : RingBuffer Item where
  cap := ring.cap
  items := ring.kept ++ [item]
  positive := ring.positive
  fits := by
    rw [List.length_append]
    exact kept_length ring

/-- The last `cap` of the items, or all of them. -/
def newest (cap : Nat) (items : List Item) : List Item := items.drop (items.length - cap)

theorem newest_length (cap : Nat) (items : List Item) :
    (newest cap items).length = min items.length cap := by
  rw [newest, List.length_drop]
  omega

theorem push_newest (ring : RingBuffer Item) (pushed : List Item) (item : Item)
    (holds : ring.items = newest ring.cap pushed) :
    (ring.push item).items = newest ring.cap (pushed ++ [item]) := by
  have positive := ring.positive
  have length := newest_length ring.cap pushed
  have onward : pushed.length + 1 - ring.cap ≤ pushed.length := by omega
  have shape : newest ring.cap (pushed ++ [item]) =
      pushed.drop (pushed.length + 1 - ring.cap) ++ [item] := by
    rw [newest, List.length_append, List.length_singleton, List.drop_append_of_le_length onward]
  have stays : ring.kept = pushed.drop (pushed.length + 1 - ring.cap) := by
    rw [RingBuffer.kept, holds, length]
    by_cases full : min pushed.length ring.cap = ring.cap
    · have later : pushed.length - ring.cap + 1 = pushed.length + 1 - ring.cap := by omega
      rw [if_pos full, newest, List.tail_drop, later]
    · have all : pushed.length - ring.cap = pushed.length + 1 - ring.cap := by omega
      rw [if_neg full, newest, all]
  rw [shape, ← stays]
  rfl

/-! Ordered rings. -/
section Ordered
variable {before : Item → Item → Prop}

/-- Every item stays that is not alone in its ring. -/
theorem last_kept (ring : RingBuffer Item) (wide : ring.cap ≠ 1) (last : Item)
    (found : ring.items.getLast? = some last) : last ∈ ring.kept := by
  obtain ⟨front, shape⟩ := List.getLast?_eq_some_iff.mp found
  have positive := ring.positive
  unfold RingBuffer.kept
  split
  · rename_i full
    rw [shape] at full ⊢
    cases front with
    | nil =>
        rw [List.nil_append, List.length_singleton] at full
        exact absurd full.symm wide
    | cons first rest =>
        rw [List.cons_append, List.tail_cons]
        exact List.mem_append_right _ (List.mem_singleton_self last)
  · rw [shape]
    exact List.mem_append_right _ (List.mem_singleton_self last)

theorem kept_sublist (ring : RingBuffer Item) : ring.kept.Sublist ring.items := by
  unfold RingBuffer.kept
  split
  · exact List.tail_sublist _
  · exact List.Sublist.refl _

theorem ordered_push (ring : RingBuffer Item) (item : Item)
    (ordered : (ring.push item).items.Pairwise before) :
    ring.cap = 1 ∨ ∀ last, ring.items.getLast? = some last → before last item := by
  by_cases narrow : ring.cap = 1
  · exact .inl narrow
  · refine .inr fun last found => ?_
    rw [RingBuffer.push, List.pairwise_append] at ordered
    exact ordered.2.2 last (last_kept ring narrow last found) item (List.mem_singleton_self item)

theorem push_ordered (trans : ∀ a b c, before a b → before b c → before a c)
    (ring : RingBuffer Item) (item : Item) (ordered : ring.items.Pairwise before)
    (follows : ring.cap = 1 ∨ ∀ last, ring.items.getLast? = some last → before last item) :
    (ring.push item).items.Pairwise before := by
  rw [RingBuffer.push, List.pairwise_append]
  refine ⟨ordered.sublist (kept_sublist ring), List.pairwise_singleton _ _, ?_⟩
  intro other stays new listed
  rw [List.mem_singleton.mp listed]
  rcases follows with narrow | follows
  · have short := kept_length ring
    rw [narrow] at short
    have none : ring.kept = [] := List.eq_nil_of_length_eq_zero (Nat.le_zero.mp (by omega))
    rw [none] at stays
    cases stays
  · have inside := (kept_sublist ring).mem stays
    have present := List.ne_nil_of_mem inside
    have last := follows _ (List.getLast?_eq_some_getLast present)
    have shape := List.dropLast_append_getLast present
    rw [← shape] at inside ordered
    rcases List.mem_append.mp inside with early | alone
    · have order := (List.pairwise_append.mp ordered).2.2 other early _
        (List.mem_singleton_self _)
      exact trans _ _ _ order last
    · rw [List.mem_singleton.mp alone]
      exact last

end Ordered

end Dnsix.BoundedRing
