import Mathlib.Data.List.Basic

/-!
Computations that may panic. The partial operations on vectors name the panic
they end in, and a computation completes when no branch of it reaches one.
-/

namespace Dnsix.Panics
variable {Item Other : Type}

inductive Panic where
  | index | slice | insert | remove | unwrap | expect
  deriving DecidableEq

abbrev Checked (Item : Type) := Except Panic Item

def Vec.index (items : List Item) (place : Nat) : Checked Item :=
  match items[place]? with
  | some item => .ok item
  | none => .error .index

/-- The indexing `items[n - back]` with `n` the length, whose subtraction
overflows when `back` exceeds it. -/
def Vec.indexBack (items : List Item) (back : Nat) : Checked Item :=
  if back ≤ items.length then Vec.index items (items.length - back) else .error .index

def Vec.assign (items : List Item) (place : Nat) (item : Item) : Checked (List Item) :=
  if place < items.length then .ok (items.set place item) else .error .index

def Vec.assignBack (items : List Item) (back : Nat) (item : Item) : Checked (List Item) :=
  if back ≤ items.length then Vec.assign items (items.length - back) item else .error .index

def Vec.insert (items : List Item) (place : Nat) (item : Item) : Checked (List Item) :=
  if place ≤ items.length then .ok (items.insertIdx place item) else .error .insert

def Vec.insertBack (items : List Item) (back : Nat) (item : Item) : Checked (List Item) :=
  if back ≤ items.length then Vec.insert items (items.length - back) item else .error .insert

def Vec.remove (items : List Item) (place : Nat) : Checked (List Item) :=
  if place < items.length then .ok (items.eraseIdx place) else .error .remove

/-- The slice `items[from..n - back]`. -/
def Vec.sliceBack (items : List Item) (start back : Nat) : Checked (List Item) :=
  if start + back ≤ items.length then .ok ((items.take (items.length - back)).drop start)
  else .error .slice

def Vec.unwrapLast (items : List Item) : Checked Item :=
  match items.getLast? with
  | some item => .ok item
  | none => .error .unwrap

def expect (value : Option Item) : Checked Item :=
  match value with
  | some item => .ok item
  | none => .error .expect

def Vec.backIs [BEq Item] (items : List Item) (back : Nat) (item : Item) : Checked Bool := do
  let found ← Vec.indexBack items back
  .ok (found == item)

/-- The conjunction that looks at its right side only when the left one holds. -/
def andAlso (left right : Checked Bool) : Checked Bool := do
  if ← left then right else .ok false

/-- The disjunction that looks at its right side only when the left one fails. -/
def orElse (left right : Checked Bool) : Checked Bool := do
  if ← left then .ok true else right

/-- The computation returns, with a result that has the property. -/
def Ensures (computation : Checked Item) (property : Item → Prop) : Prop :=
  ∃ result, computation = .ok result ∧ property result

def Completes (computation : Checked Item) : Prop := Ensures computation fun _ => True

/-- Whatever the computation returns has the property. -/
def Yields (computation : Checked Item) (property : Item → Prop) : Prop :=
  ∀ result, computation = .ok result → property result

/-! The rules. -/
section Rules
variable {computation yes no : Checked Item} {next : Item → Checked Other}
variable {between strong weak : Item → Prop} {property : Other → Prop}

theorem ensures_ok (item : Item) (holds : weak item) : Ensures (.ok item) weak :=
  ⟨item, rfl, holds⟩

theorem completes_ok (item : Item) : Completes (.ok item) := ensures_ok item trivial

theorem ensures_bind (first : Ensures computation between)
    (rest : ∀ item, between item → Ensures (next item) property) :
    Ensures (computation >>= next) property := by
  rcases first with ⟨item, returned, holds⟩
  rcases rest item holds with ⟨result, finished, wanted⟩
  refine ⟨result, ?_, wanted⟩
  rw [returned]
  exact finished

theorem bind_ok {result : Other} (returned : computation >>= next = .ok result) :
    ∃ item, computation = .ok item ∧ next item = .ok result := by
  match computation with
  | .ok item => exact ⟨item, rfl, returned⟩
  | .error _ => cases returned

theorem completes_bind (first : Completes computation) (rest : ∀ item, Completes (next item)) :
    Completes (computation >>= next) :=
  ensures_bind first fun item _ => rest item

theorem ensures_weaken (holds : Ensures computation strong)
    (weaker : ∀ item, strong item → weak item) : Ensures computation weak := by
  rcases holds with ⟨result, returned, wanted⟩
  exact ⟨result, returned, weaker result wanted⟩

theorem completes_weaken (holds : Ensures computation strong) : Completes computation :=
  ensures_weaken holds fun _ _ => trivial

theorem ensures_ite {condition : Prop} [Decidable condition]
    (left : condition → Ensures yes weak) (right : ¬condition → Ensures no weak) :
    Ensures (if condition then yes else no) weak := by
  by_cases chosen : condition
  · rw [if_pos chosen]
    exact left chosen
  · rw [if_neg chosen]
    exact right chosen

theorem yields_ok (item : Item) (holds : weak item) : Yields (.ok item) weak := by
  intro result returned
  cases returned
  exact holds

theorem yields_bind (first : Yields computation between)
    (rest : ∀ item, between item → Yields (next item) property) :
    Yields (computation >>= next) property := by
  intro result returned
  rcases bind_ok returned with ⟨item, reached, finished⟩
  exact rest item (first item reached) result finished

theorem yields_any : Yields computation fun _ => True := fun _ _ => trivial

theorem yields_error (panic : Panic) : Yields (.error panic) weak :=
  fun _ impossible => nomatch impossible

theorem yields_ite {condition : Prop} [Decidable condition]
    (left : condition → Yields yes weak) (right : ¬condition → Yields no weak) :
    Yields (if condition then yes else no) weak := by
  by_cases chosen : condition
  · rw [if_pos chosen]
    exact left chosen
  · rw [if_neg chosen]
    exact right chosen

end Rules

/-! The vector operations. -/
section Vectors

theorem ensures_index (items : List Item) (place : Nat) (inside : place < items.length) :
    Ensures (Vec.index items place) fun item => item ∈ items := by
  refine ⟨items[place], ?_, List.getElem_mem inside⟩
  rw [Vec.index, List.getElem?_eq_getElem inside]

theorem ensures_index_back (items : List Item) (back : Nat) (positive : 0 < back)
    (inside : back ≤ items.length) :
    Ensures (Vec.indexBack items back) fun item => item ∈ items := by
  rw [Vec.indexBack, if_pos inside]
  exact ensures_index items _ (by omega)

theorem ensures_assign (items : List Item) (place : Nat) (item : Item)
    (inside : place < items.length) :
    Ensures (Vec.assign items place item) fun result => result.length = items.length := by
  rw [Vec.assign, if_pos inside]
  exact ensures_ok _ (List.length_set ..)

theorem ensures_assign_back (items : List Item) (back : Nat) (item : Item)
    (positive : 0 < back) (inside : back ≤ items.length) :
    Ensures (Vec.assignBack items back item) fun result => result.length = items.length := by
  rw [Vec.assignBack, if_pos inside]
  exact ensures_assign items _ item (by omega)

theorem ensures_insert (items : List Item) (place : Nat) (item : Item)
    (inside : place ≤ items.length) :
    Ensures (Vec.insert items place item) fun result => result.length = items.length + 1 := by
  rw [Vec.insert, if_pos inside]
  exact ensures_ok _ (List.length_insertIdx_of_le_length inside item)

theorem ensures_insert_back (items : List Item) (back : Nat) (item : Item)
    (inside : back ≤ items.length) :
    Ensures (Vec.insertBack items back item) fun result => result.length = items.length + 1 := by
  rw [Vec.insertBack, if_pos inside]
  exact ensures_insert items _ item (Nat.sub_le _ _)

theorem ensures_remove (items : List Item) (place : Nat) (inside : place < items.length) :
    Ensures (Vec.remove items place) fun result => result.length + 1 = items.length := by
  rw [Vec.remove, if_pos inside]
  refine ensures_ok _ ?_
  rw [List.length_eraseIdx_of_lt inside]
  omega

theorem ensures_slice_back (items : List Item) (start back : Nat)
    (inside : start + back ≤ items.length) :
    Ensures (Vec.sliceBack items start back) fun result =>
      result.length = items.length - back - start := by
  rw [Vec.sliceBack, if_pos inside]
  refine ensures_ok _ ?_
  rw [List.length_drop, List.length_take]
  omega

theorem ensures_unwrap_last (items : List Item) (present : items ≠ []) :
    Ensures (Vec.unwrapLast items) fun item => item ∈ items := by
  refine ⟨items.getLast present, ?_, List.getLast_mem present⟩
  rw [Vec.unwrapLast, List.getLast?_eq_some_getLast present]

theorem ensures_back_is [BEq Item] (items : List Item) (back : Nat) (item : Item)
    (positive : 0 < back) (inside : back ≤ items.length) :
    Completes (Vec.backIs items back item) :=
  completes_bind (completes_weaken (ensures_index_back items back positive inside)) fun _ =>
    completes_ok _

/-- Counting from the back looks at the last items only. -/
theorem index_back_append (front items : List Item) (back : Nat) (inside : back ≤ items.length) :
    Vec.indexBack (front ++ items) back = Vec.indexBack items back := by
  have whole : back ≤ (front ++ items).length := by
    rw [List.length_append]
    omega
  have place : (front ++ items).length - back = front.length + (items.length - back) := by
    rw [List.length_append]
    omega
  rw [Vec.indexBack, Vec.indexBack, if_pos inside, if_pos whole, place, Vec.index, Vec.index,
    List.getElem?_append_right (Nat.le_add_right _ _), Nat.add_sub_cancel_left]

theorem back_is_append [BEq Item] (front items : List Item) (back : Nat) (item : Item)
    (inside : back ≤ items.length) :
    Vec.backIs (front ++ items) back item = Vec.backIs items back item := by
  rw [Vec.backIs, Vec.backIs, index_back_append front items back inside]

/-- A label found right before the known end belongs to the end. -/
theorem back_is_suffix [BEq Item] [LawfulBEq Item] (items known : List Item) (item : Item)
    (suffix : known <:+ items) (found : Vec.backIs items (known.length + 1) item = .ok true) :
    (item :: known) <:+ items := by
  rcases suffix with ⟨front, rfl⟩
  rcases List.eq_nil_or_concat front with rfl | ⟨before, last, shape⟩
  · rw [List.nil_append, Vec.backIs, Vec.indexBack, if_neg (Nat.not_succ_le_self _)] at found
    cases found
  · rw [List.concat_eq_append] at shape
    subst shape
    have whole : before ++ [last] ++ known = before ++ last :: known := by simp
    rw [whole, back_is_append before (last :: known) (known.length + 1) item (Nat.le_refl _)]
      at found
    have same : (last == item) = true := by
      rw [Vec.backIs, Vec.indexBack, List.length_cons, if_pos (Nat.le_refl _), Nat.sub_self]
        at found
      exact Except.ok.inj found
    rw [whole, eq_of_beq same]
    exact List.suffix_append _ _

end Vectors

/-! What an edit leaves in place: the items before it, or those behind it when its place
is counted from the back. -/
section Frames

theorem yields_assign (items start : List Item) (place : Nat) (item : Item)
    (kept : start <+: items) (behind : start.length ≤ place) :
    Yields (Vec.assign items place item) fun result => start <+: result := by
  rcases kept with ⟨rest, rfl⟩
  refine yields_ite (fun _ => ?_) fun _ => yields_error _
  rw [List.set_append_right place item behind]
  exact yields_ok _ (List.prefix_append start _)

theorem insert_behind (start rest : List Item) (place : Nat) (item : Item)
    (behind : start.length ≤ place) : start <+: (start ++ rest).insertIdx place item := by
  induction start generalizing place with
  | nil => exact List.nil_prefix
  | cons first others ih =>
      cases place with
      | zero => exact absurd behind (Nat.not_succ_le_zero _)
      | succ place =>
          rw [List.cons_append, List.insertIdx_succ_cons, List.cons_prefix_cons]
          exact ⟨rfl, ih place (Nat.le_of_succ_le_succ behind)⟩

theorem insert_before (front ended : List Item) (place : Nat) (item : Item)
    (before : place ≤ front.length) : ended <:+ (front ++ ended).insertIdx place item := by
  induction front generalizing place with
  | nil =>
      rw [Nat.le_zero.mp before, List.insertIdx_zero]
      exact List.suffix_append [item] ended
  | cons first others ih =>
      cases place with
      | zero =>
          rw [List.insertIdx_zero]
          exact List.suffix_append (item :: first :: others) ended
      | succ place =>
          rw [List.cons_append, List.insertIdx_succ_cons]
          exact (ih place (Nat.le_of_succ_le_succ before)).trans (List.suffix_cons first _)

theorem yields_insert (items start : List Item) (place : Nat) (item : Item)
    (kept : start <+: items) (behind : start.length ≤ place) :
    Yields (Vec.insert items place item) fun result => start <+: result := by
  rcases kept with ⟨rest, rfl⟩
  refine yields_ite (fun _ => ?_) fun _ => yields_error _
  exact yields_ok _ (insert_behind start rest place item behind)

theorem yields_remove (items start : List Item) (place : Nat)
    (kept : start <+: items) (behind : start.length ≤ place) :
    Yields (Vec.remove items place) fun result => start <+: result := by
  rcases kept with ⟨rest, rfl⟩
  refine yields_ite (fun _ => ?_) fun _ => yields_error _
  rw [List.eraseIdx_append_of_length_le behind]
  exact yields_ok _ (List.prefix_append start _)

theorem yields_assign_back (items ended : List Item) (back : Nat) (item : Item)
    (kept : ended <:+ items) (before : ended.length < back) :
    Yields (Vec.assignBack items back item) fun result => ended <:+ result := by
  rcases kept with ⟨front, rfl⟩
  refine yields_ite (fun inside => ?_) fun _ => yields_error _
  refine yields_ite (fun _ => ?_) fun _ => yields_error _
  rw [List.length_append] at inside
  have early : (front ++ ended).length - back < front.length := by
    rw [List.length_append]
    omega
  rw [List.set_append_left _ item early]
  exact yields_ok _ (List.suffix_append _ ended)

theorem yields_insert_back (items ended : List Item) (back : Nat) (item : Item)
    (kept : ended <:+ items) (before : ended.length ≤ back) :
    Yields (Vec.insertBack items back item) fun result => ended <:+ result := by
  rcases kept with ⟨front, rfl⟩
  refine yields_ite (fun inside => ?_) fun _ => yields_error _
  refine yields_ite (fun _ => ?_) fun _ => yields_error _
  rw [List.length_append] at inside
  have early : (front ++ ended).length - back ≤ front.length := by
    rw [List.length_append]
    omega
  exact yields_ok _ (insert_before front ended _ item early)

end Frames

/-! The connectives that may stop early. -/
section Connectives
variable {left right : Checked Bool}

/-- The right side may rely on what the left one has tested. -/
theorem ensures_guarded {tested : Prop} (guard : Ensures left fun holds => holds = true → tested)
    (rest : tested → Completes right) :
    Ensures (andAlso left right) fun holds => holds = true → tested := by
  refine ensures_bind guard ?_
  intro holds known
  cases holds with
  | false => exact ensures_ok _ fun impossible => nomatch impossible
  | true => exact ensures_weaken (rest (known rfl)) fun _ _ _ => known rfl

theorem and_also_true (holds : andAlso left right = .ok true) :
    left = .ok true ∧ right = .ok true := by
  match left with
  | .ok true => exact ⟨rfl, holds⟩
  | .ok false => cases holds
  | .error _ => cases holds

theorem or_else_true (holds : orElse left right = .ok true) :
    left = .ok true ∨ right = .ok true := by
  match left with
  | .ok true => exact .inl rfl
  | .ok false => exact .inr holds
  | .error _ => cases holds

theorem completes_and_also (tested : Completes left) (rest : Completes right) :
    Completes (andAlso left right) := by
  refine completes_bind tested ?_
  intro holds
  cases holds with
  | false => exact completes_ok _
  | true => exact rest

theorem completes_or_else (tested : Completes left) (rest : Completes right) :
    Completes (orElse left right) := by
  refine completes_bind tested ?_
  intro holds
  cases holds with
  | false => exact rest
  | true => exact completes_ok _

end Connectives

end Dnsix.Panics
