import Mathlib.Data.List.Dedup
import Mathlib.Data.List.Sort

/-!
Occurrences counted in a map and ranked: the most frequent keys first, equal counts in the
order of the keys. The table that is cut off the ranking depends on the occurrences alone,
not on the order the map is walked in.
-/

namespace Dnsix.Ranking
universe u
variable {Key : Type u} [LinearOrder Key]

/-- The map with one more occurrence of a key. -/
def bump (key : Key) : List (Key × Nat) → List (Key × Nat)
  | [] => [(key, 1)]
  | (other, count) :: rest =>
      if other = key then (other, count + 1) :: rest else (other, count) :: bump key rest

def tallyFrom (map : List (Key × Nat)) : List Key → List (Key × Nat)
  | [] => map
  | key :: rest => tallyFrom (bump key map) rest

def tally (keys : List Key) : List (Key × Nat) := tallyFrom [] keys

def Ranked (left right : Key × Nat) : Prop :=
  right.2 < left.2 ∨ left.2 = right.2 ∧ left.1 < right.1

/-- Descending counts, then ascending keys. -/
def noLower (left right : Key × Nat) : Bool :=
  decide (right.2 < left.2) || (decide (left.2 = right.2) && decide (left.1 ≤ right.1))

def ranking (rows : List (Key × Nat)) : List (Key × Nat) := rows.mergeSort noLower

def topOf (limit : Nat) (rows : List (Key × Nat)) : List (Key × Nat) := (ranking rows).take limit

/-! What the map counts. -/
section Counting

/-- One row a key that occurs, with the number of its occurrences. -/
structure Counted (keys : List Key) (rows : List (Key × Nat)) : Prop where
  apart : (rows.map Prod.fst).Nodup
  present : ∀ row, row ∈ rows ↔ row.1 ∈ keys ∧ row.2 = keys.count row.1

theorem bump_keys (key : Key) (map : List (Key × Nat)) :
    (bump key map).map Prod.fst =
      if key ∈ map.map Prod.fst then map.map Prod.fst else map.map Prod.fst ++ [key] := by
  induction map with
  | nil => simp [bump]
  | cons row rest ih =>
      by_cases same : row.1 = key
      · simp [bump, same]
      · simp only [bump, if_neg same, List.map_cons, ih, List.mem_cons, Ne.symm same, false_or]
        split <;> simp

theorem bump_mem (key : Key) (map : List (Key × Nat)) (apart : (map.map Prod.fst).Nodup)
    (row : Key × Nat) :
    row ∈ bump key map ↔
      row.1 ≠ key ∧ row ∈ map ∨
        row.1 = key ∧ ((key, row.2 - 1) ∈ map ∧ 0 < row.2 ∨
          key ∉ map.map Prod.fst ∧ row.2 = 1) := by
  induction map with
  | nil =>
      obtain ⟨other, count⟩ := row
      simp [bump]
  | cons head rest ih =>
      obtain ⟨other, count⟩ := row
      obtain ⟨first, seen⟩ := head
      rw [List.map_cons, List.nodup_cons] at apart
      by_cases same : first = key
      · subst same
        have absent : ∀ number, (first, number) ∉ rest := fun number inside =>
          apart.1 (List.mem_map.mpr ⟨(first, number), inside, rfl⟩)
        rw [bump, if_pos rfl, List.mem_cons]
        by_cases mine : other = first
        · subst mine
          simp only [Prod.mk.injEq, true_and, absent, or_false, ne_eq, not_true_eq_false,
            false_and, false_or, List.mem_cons, List.map_cons, true_or]
          omega
        · simp [mine]
      · have later := ih apart.2
        rw [bump, if_neg same, List.mem_cons, later]
        by_cases mine : other = key
        · subst mine
          simp [Ne.symm same]
        · simp [mine]

theorem counted_bump (keys : List Key) (map : List (Key × Nat)) (counted : Counted keys map)
    (key : Key) : Counted (keys ++ [key]) (bump key map) := by
  have listed : key ∈ map.map Prod.fst ↔ key ∈ keys := by
    constructor
    · intro inside
      rcases List.mem_map.mp inside with ⟨row, held, rfl⟩
      exact ((counted.present row).mp held).1
    · intro inside
      exact List.mem_map.mpr ⟨(key, keys.count key), (counted.present _).mpr ⟨inside, rfl⟩, rfl⟩
  constructor
  · rw [bump_keys]
    split
    · exact counted.apart
    · rename_i absent
      rw [List.nodup_append]
      refine ⟨counted.apart, List.nodup_singleton key, ?_⟩
      intro left held right one same
      rw [List.mem_singleton.mp one] at same
      exact absent (same ▸ held)
  · rintro ⟨other, count⟩
    rw [bump_mem key map counted.apart, counted.present, counted.present, listed,
      List.count_append, List.mem_append, List.mem_singleton, List.count_singleton]
    dsimp only
    by_cases mine : other = key
    · subst mine
      have occurs : 0 < keys.count other ↔ other ∈ keys := List.count_pos_iff
      simp only [ne_eq, not_true_eq_false, false_and, true_and, false_or, or_true, beq_self_eq_true,
        if_true]
      by_cases inside : other ∈ keys
      · have positive := occurs.mpr inside
        simp only [inside, true_and, not_true_eq_false, false_and, or_false]
        omega
      · have zero : keys.count other = 0 := by
          have none := mt occurs.mp inside
          omega
        simp only [inside, false_and, not_false_eq_true, true_and, false_or, zero, Nat.zero_add]
    · simp [mine, Ne.symm mine]

theorem counted_from (keys before : List Key) (map : List (Key × Nat))
    (counted : Counted before map) : Counted (before ++ keys) (tallyFrom map keys) := by
  induction keys generalizing before map with
  | nil => rwa [List.append_nil, tallyFrom]
  | cons key rest ih =>
      have next := ih (before ++ [key]) (bump key map) (counted_bump before map counted key)
      rwa [List.append_assoc, List.singleton_append] at next

theorem tally_counted (keys : List Key) : Counted keys (tally keys) :=
  counted_from keys [] [] ⟨List.nodup_nil, by simp⟩

theorem counted_perm (keys : List Key) (left right : List (Key × Nat)) (counted : Counted keys left)
    (order : left.Perm right) : Counted keys right where
  apart := (order.map Prod.fst).nodup_iff.mp counted.apart
  present row := order.mem_iff.symm.trans (counted.present row)

theorem counted_length (keys : List Key) (rows : List (Key × Nat)) (counted : Counted keys rows) :
    rows.length = keys.dedup.length := by
  have same : (rows.map Prod.fst).Perm keys.dedup := by
    rw [List.perm_ext_iff_of_nodup counted.apart (List.nodup_dedup keys)]
    intro key
    rw [List.mem_dedup, List.mem_map]
    constructor
    · rintro ⟨row, held, rfl⟩
      exact ((counted.present row).mp held).1
    · intro inside
      exact ⟨(key, keys.count key), (counted.present _).mpr ⟨inside, rfl⟩, rfl⟩
  rw [← List.length_map Prod.fst, same.length_eq]

end Counting

/-! The ranking. -/
section Order

theorem ranked_trans (a b c : Key × Nat) (first : Ranked a b) (second : Ranked b c) :
    Ranked a c := by
  rcases first with fewer | ⟨same, before⟩
  · rcases second with again | ⟨equal, _⟩
    · exact .inl (again.trans fewer)
    · exact .inl (equal ▸ fewer)
  · rcases second with again | ⟨equal, after⟩
    · exact .inl (same ▸ again)
    · exact .inr ⟨same.trans equal, before.trans after⟩

theorem ranked_asymm (a b : Key × Nat) (first : Ranked a b) (second : Ranked b a) : False := by
  rcases first with fewer | ⟨same, before⟩
  · rcases second with again | ⟨equal, _⟩ <;> omega
  · rcases second with again | ⟨_, after⟩
    · omega
    · exact lt_asymm before after

theorem no_lower_iff (a b : Key × Nat) : noLower a b = true ↔ Ranked a b ∨ a = b := by
  simp only [noLower, Ranked, Bool.or_eq_true, Bool.and_eq_true, decide_eq_true_eq, Prod.ext_iff,
    le_iff_lt_or_eq]
  tauto

theorem no_lower_trans (a b c : Key × Nat) (first : noLower a b = true)
    (second : noLower b c = true) : noLower a c = true := by
  rw [no_lower_iff] at first second ⊢
  rcases first with first | rfl
  · rcases second with second | rfl
    · exact .inl (ranked_trans a b c first second)
    · exact .inl first
  · exact second

theorem no_lower_total (a b : Key × Nat) : (noLower a b || noLower b a) = true := by
  rw [Bool.or_eq_true, no_lower_iff, no_lower_iff]
  rcases lt_trichotomy a.2 b.2 with fewer | same | more
  · exact .inr (.inl (.inl fewer))
  · rcases lt_trichotomy a.1 b.1 with before | equal | after
    · exact .inl (.inl (.inr ⟨same, before⟩))
    · exact .inl (.inr (Prod.ext equal same))
    · exact .inr (.inl (.inr ⟨same.symm, after⟩))
  · exact .inl (.inl (.inl more))

theorem ranking_perm (rows : List (Key × Nat)) : (ranking rows).Perm rows :=
  List.mergeSort_perm rows noLower

theorem ranking_ranked (rows : List (Key × Nat)) (apart : rows.Nodup) :
    (ranking rows).Pairwise Ranked := by
  have sorted : (ranking rows).Pairwise fun a b => noLower a b = true :=
    List.pairwise_mergeSort no_lower_trans no_lower_total rows
  have distinct : (ranking rows).Pairwise (· ≠ ·) := (ranking_perm rows).nodup_iff.mpr apart
  refine (sorted.and distinct).imp ?_
  rintro a b ⟨before, different⟩
  exact ((no_lower_iff a b).mp before).resolve_right different

theorem ranked_unique (left right : List (Key × Nat)) (first : left.Pairwise Ranked)
    (second : right.Pairwise Ranked) (same : left.Perm right) : left = right :=
  List.Perm.eq_of_pairwise (fun a b _ _ before after => (ranked_asymm a b before after).elim) first
    second same

end Order

/-! The table cut off the ranking. -/
section Table

/-- What the table says of the occurrences: true counts in their order, and no key left out
while there is room or while a row is ranked behind it. -/
structure Top (limit : Nat) (keys : List Key) (rows : List (Key × Nat)) : Prop where
  counted : ∀ row ∈ rows, row.1 ∈ keys ∧ row.2 = keys.count row.1
  ranked : rows.Pairwise Ranked
  full : rows.length = min limit keys.dedup.length
  best : ∀ key ∈ keys, (key, keys.count key) ∉ rows → ∀ row ∈ rows, Ranked row (key, keys.count key)

theorem top_of (limit : Nat) (keys : List Key) (rows : List (Key × Nat))
    (counted : Counted keys rows) : Top limit keys (topOf limit rows) := by
  have same := ranking_perm rows
  have ranked := ranking_ranked rows (List.Nodup.of_map Prod.fst counted.apart)
  constructor
  · intro row inside
    exact (counted.present row).mp (same.mem_iff.mp (List.mem_of_mem_take inside))
  · exact ranked.sublist (List.take_sublist limit _)
  · rw [topOf, List.length_take, same.length_eq, counted_length keys rows counted]
  · intro key inside absent row held
    have whole : (key, keys.count key) ∈ ranking rows :=
      same.mem_iff.mpr ((counted.present _).mpr ⟨inside, rfl⟩)
    rw [← List.take_append_drop limit (ranking rows)] at whole ranked
    have behind := (List.mem_append.mp whole).resolve_left absent
    exact (List.pairwise_append.mp ranked).2.2 row held _ behind

/-- The description has one table. -/
theorem top_exact (limit : Nat) (keys : List Key) (table rows : List (Key × Nat))
    (top : Top limit keys table) (counted : Counted keys rows) : table = topOf limit rows := by
  have whole := ranking_ranked rows (List.Nodup.of_map Prod.fst counted.apart)
  let others := (ranking rows).filter fun row => decide (row ∉ table)
  have ordered : (table ++ others).Pairwise Ranked := by
    rw [List.pairwise_append]
    refine ⟨top.ranked, whole.sublist List.filter_sublist, ?_⟩
    rintro row held ⟨key, count⟩ other
    rw [List.mem_filter, decide_eq_true_eq, (ranking_perm rows).mem_iff, counted.present] at other
    obtain ⟨⟨inside, equal⟩, absent⟩ := other
    rw [show count = keys.count key from equal] at absent ⊢
    exact top.best key inside absent row held
  have distinct : ∀ rows : List (Key × Nat), rows.Pairwise Ranked → rows.Nodup := by
    intro rows ranked
    refine ranked.imp ?_
    rintro a _ before rfl
    exact ranked_asymm a a before before
  have members : (table ++ others).Perm (ranking rows) := by
    rw [List.perm_ext_iff_of_nodup (distinct _ ordered) (distinct _ whole)]
    intro row
    rw [List.mem_append, List.mem_filter, decide_eq_true_eq, (ranking_perm rows).mem_iff,
      counted.present]
    have truth := top.counted row
    tauto
  have shape := ranked_unique _ _ ordered whole members
  have long : table.length = min limit (ranking rows).length := by
    rw [top.full, (ranking_perm rows).length_eq, counted_length keys rows counted]
  rw [topOf, List.take_eq_take_min, ← long, ← shape, List.take_left]

end Table

end Dnsix.Ranking
