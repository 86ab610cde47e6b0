import Dnsix.Ascii

/-!
References to a hierarchical resource and their resolution against a base, component by
component: the scheme, the authority, and a path of segments whose dots are removed. A path
is the list of what follows each of its slashes.
-/

namespace Dnsix.References
open Ascii

/-! Dot segments. -/
section Dots

def Dot (segment : Text) : Prop := segment = ['.'] ∨ segment = ['.', '.']

instance (segment : Text) : Decidable (Dot segment) := inferInstanceAs (Decidable (_ ∨ _))

def Dotless (segments : List Text) : Prop := ∀ segment ∈ segments, ¬Dot segment

/-- The segments so far, after one more that is not the last. -/
def step (out : List Text) (segment : Text) : List Text :=
  if segment = ['.'] then out
  else if segment = ['.', '.'] then out.dropLast
  else out ++ [segment]

/-- A last segment of dots leaves an empty one in its place. -/
def close (out : List Text) (segment : Text) : List Text :=
  if Dot segment then step out segment ++ [[]] else out ++ [segment]

def removeDots (out : List Text) : List Text → List Text
  | [] => out
  | [last] => close out last
  | segment :: next :: rest => removeDots (step out segment) (next :: rest)

/-- The segments above the last one. -/
def climb (segments : List Text) : List Text := segments.foldl step []

theorem step_plain (out : List Text) (segment : Text) (plain : ¬Dot segment) :
    step out segment = out ++ [segment] := by
  rw [Dot, not_or] at plain
  rw [step, if_neg plain.1, if_neg plain.2]

theorem step_dotless (out : List Text) (segment : Text) (dotless : Dotless out) :
    Dotless (step out segment) := by
  unfold step
  split
  · exact dotless
  · split
    · exact fun other listed => dotless other (List.mem_of_mem_dropLast listed)
    · rename_i one two
      intro other listed
      rcases List.mem_append.mp listed with before | last
      · exact dotless other before
      · rw [List.mem_singleton.mp last]
        rintro (same | same)
        · exact one same
        · exact two same

theorem climbed_dotless (segments out : List Text) (dotless : Dotless out) :
    Dotless (segments.foldl step out) := by
  induction segments generalizing out with
  | nil => exact dotless
  | cons segment rest ih => exact ih _ (step_dotless out segment dotless)

theorem close_dotless (out : List Text) (segment : Text) (dotless : Dotless out) :
    Dotless (close out segment) := by
  unfold close
  split
  · intro other listed
    rcases List.mem_append.mp listed with before | last
    · exact step_dotless out segment dotless other before
    · rw [List.mem_singleton.mp last]
      decide
  · rename_i plain
    intro other listed
    rcases List.mem_append.mp listed with before | last
    · exact dotless other before
    · rwa [List.mem_singleton.mp last]

theorem removed_dotless (segments out : List Text) (dotless : Dotless out) :
    Dotless (removeDots out segments) := by
  fun_induction removeDots out segments with
  | case1 out => exact dotless
  | case2 out last => exact close_dotless out last dotless
  | case3 out segment next rest ih => exact ih (step_dotless out segment dotless)

theorem removed_part (holds : Text → Prop) (empty : holds []) (segments out : List Text)
    (before : ∀ segment ∈ out, holds segment) (parts : ∀ segment ∈ segments, holds segment) :
    ∀ segment ∈ removeDots out segments, holds segment := by
  have stepped : ∀ out : List Text, (∀ segment ∈ out, holds segment) → ∀ last, holds last →
      ∀ segment ∈ step out last, holds segment := by
    intro out before last known other listed
    unfold step at listed
    split at listed
    · exact before other listed
    · split at listed
      · exact before other (List.mem_of_mem_dropLast listed)
      · rcases List.mem_append.mp listed with here | there
        · exact before other here
        · rwa [List.mem_singleton.mp there]
  fun_induction removeDots out segments with
  | case1 out => exact before
  | case2 out last =>
      have known := parts last List.mem_cons_self
      intro other listed
      unfold close at listed
      split at listed
      · rcases List.mem_append.mp listed with here | there
        · exact stepped out before last known other here
        · rwa [List.mem_singleton.mp there]
      · rcases List.mem_append.mp listed with here | there
        · exact before other here
        · rwa [List.mem_singleton.mp there]
  | case3 out segment next rest ih =>
      rw [List.forall_mem_cons] at parts
      exact ih (stepped out before segment parts.1) parts.2

theorem removed_present (segments out : List Text) (present : segments ≠ []) :
    removeDots out segments ≠ [] := by
  fun_induction removeDots out segments with
  | case1 out => exact absurd rfl present
  | case2 out last =>
      unfold close
      split <;> simp
  | case3 out segment next rest ih => exact ih (List.cons_ne_nil next rest)

theorem remove_plain (segments out : List Text) (plain : Dotless segments) :
    removeDots out segments = out ++ segments := by
  fun_induction removeDots out segments with
  | case1 out => exact (List.append_nil out).symm
  | case2 out last => rw [close, if_neg (plain last List.mem_cons_self)]
  | case3 out segment next rest ih =>
      rw [Dotless, List.forall_mem_cons] at plain
      rw [ih plain.2, step_plain out segment plain.1, List.append_assoc]
      rfl

/-- What stands above the last part is worked off before it. -/
theorem remove_append (front back out : List Text) (present : back ≠ []) :
    removeDots out (front ++ back) = removeDots (front.foldl step out) back := by
  induction front generalizing out with
  | nil => rfl
  | cons segment rest ih =>
      cases shape : rest ++ back with
      | nil => exact absurd (List.append_eq_nil_iff.mp shape).2 present
      | cons next more =>
          have later := ih (step out segment)
          rw [shape] at later
          rw [List.cons_append, shape, removeDots, later, List.foldl_cons]

/-- The segments stay as they are exactly when there are no dots to remove and nothing is
above them. -/
theorem remove_merged_iff (above segments : List Text) (present : segments ≠ []) :
    removeDots [] (above ++ segments) = segments ↔ Dotless segments ∧ climb above = [] := by
  rw [remove_append above segments [] present]
  constructor
  · intro kept
    have clean : Dotless (above.foldl step []) :=
      climbed_dotless above [] fun _ impossible => nomatch impossible
    have dotless := removed_dotless segments _ clean
    rw [kept] at dotless
    rw [remove_plain segments _ dotless, List.append_left_eq_self] at kept
    exact ⟨dotless, kept⟩
  · rintro ⟨dotless, empty⟩
    rw [climb] at empty
    rw [empty, remove_plain segments [] dotless, List.nil_append]

end Dots

/-! The text of a path. -/
section Paths

def pathText (segments : List Text) : Text := segments.flatMap ('/' :: ·)

theorem path_cons (segment : Text) (rest : List Text) :
    pathText (segment :: rest) = '/' :: (segment ++ pathText rest) := by
  simp [pathText]

theorem path_append (front back : List Text) :
    pathText (front ++ back) = pathText front ++ pathText back := by
  simp [pathText]

theorem path_split (segments : List Text) (whole : ∀ segment ∈ segments, '/' ∉ segment) :
    split '/' (pathText segments) = [] :: segments := by
  induction segments with
  | nil => rfl
  | cons segment rest ih =>
      rw [List.forall_mem_cons] at whole
      rw [path_cons, split_cons, if_pos rfl, split_prepend '/' segment _ whole.1, ih whole.2]
      simp

theorem path_injective (left right : List Text) (wholeLeft : ∀ segment ∈ left, '/' ∉ segment)
    (wholeRight : ∀ segment ∈ right, '/' ∉ segment) :
    pathText left = pathText right ↔ left = right := by
  constructor
  · intro same
    have pieces := congrArg (split '/') same
    rw [path_split left wholeLeft, path_split right wholeRight] at pieces
    exact (List.cons.inj pieces).2
  · rintro rfl
    rfl

theorem dropped_length (out : List Text) :
    (pathText out.dropLast).length ≤ (pathText out).length := by
  obtain ⟨last, shape⟩ := List.dropLast_prefix out
  conv_rhs => rw [← shape, path_append, List.length_append]
  exact Nat.le_add_right _ _

/-- Dots never make a path longer. -/
theorem step_length (out : List Text) (segment : Text) (dots : Dot segment) :
    (pathText (step out segment)).length ≤ (pathText out).length := by
  unfold step
  split
  · exact Nat.le_refl _
  · rename_i other
    rw [if_pos (dots.resolve_left other)]
    exact dropped_length out

theorem removed_length (segments out : List Text) :
    (pathText (removeDots out segments)).length ≤ (pathText (out ++ segments)).length := by
  fun_induction removeDots out segments with
  | case1 out => rw [List.append_nil]
  | case2 out last =>
      unfold close
      split
      · rename_i dots
        have shorter := step_length out last dots
        rw [path_append, path_append, List.length_append, List.length_append]
        simp only [pathText, List.flatMap_cons, List.flatMap_nil, List.append_nil,
          List.length_cons, List.length_nil] at shorter ⊢
        omega
      · exact Nat.le_refl _
  | case3 out segment next rest ih =>
      refine ih.trans ?_
      by_cases dots : Dot segment
      · have shorter := step_length out segment dots
        rw [path_append, path_append, path_cons segment, List.length_append, List.length_append,
          List.length_cons, List.length_append]
        omega
      · rw [step_plain out segment dots, List.append_assoc]
        rfl

end Paths

/-! References. -/
section Kinds

/-- What may stand in a component: no mark that ends it. -/
def Part (text : Text) : Prop := ∀ char ∈ text, char ≠ '/' ∧ char ≠ '?' ∧ char ≠ '#'

theorem part_checked (text : Text)
    (checked : (text.all fun char => char != '/' && char != '?' && char != '#') = true) :
    Part text := by
  intro char inside
  have fine := List.all_eq_true.mp checked char inside
  simpa [and_assoc] using fine

theorem parts_checked (texts : List Text)
    (checked : (texts.all fun text =>
      text.all fun char => char != '/' && char != '?' && char != '#') = true) :
    ∀ text ∈ texts, Part text :=
  fun text listed => part_checked text (List.all_eq_true.mp checked text listed)

/-- `userinfo@host:port`. -/
structure Authority where
  userinfo : Option Text
  host : Text
  port : Option Text
  present : host ≠ []
  part : Part host
  userPart : ∀ text ∈ userinfo, Part text
  portPart : ∀ text ∈ port, Part text

def Authority.text (authority : Authority) : Text :=
  (authority.userinfo.elim [] fun user => user ++ ['@']) ++ authority.host ++
    authority.port.elim [] (':' :: ·)

/-- A path that is empty or starts with a slash, a query and a fragment. -/
structure Tail where
  segments : List Text
  query : Option Text
  fragment : Option Text
  parts : ∀ segment ∈ segments, Part segment
  queryPart : ∀ text ∈ query, '#' ∉ text

def Tail.queryText (tail : Tail) : Text := tail.query.elim [] ('?' :: ·)

/-- The query and the fragment. -/
def Tail.rest (tail : Tail) : Text := tail.queryText ++ tail.fragment.elim [] ('#' :: ·)

def Tail.text (tail : Tail) : Text := pathText tail.segments ++ tail.rest

/-- A base with a host alone for its authority. -/
structure Base where
  host : Text
  segments : List Text
  present : host ≠ []
  part : Part host
  portless : ':' ∉ host
  rooted : segments ≠ []
  parts : ∀ segment ∈ segments, Part segment

/-- An absolute path starts with one slash, and the first segment of a relative one is
neither empty nor taken for a scheme. -/
inductive Reference where
  | absolute (scheme : Text) (authority : Authority) (tail : Tail)
  | network (authority : Authority) (tail : Tail)
  | absolutePath (first : Text) (tail : Tail) (rest : List Text)
      (shape : tail.segments = first :: rest) (single : first ≠ [] ∨ rest = [])
  | relativePath (first : Text) (tail : Tail) (rest : List Text)
      (shape : tail.segments = first :: rest) (present : first ≠ []) (schemeless : ':' ∉ first)

def Reference.text : Reference → Text
  | .absolute scheme authority tail => scheme ++ ':' :: '/' :: '/' :: (authority.text ++ tail.text)
  | .network authority tail => '/' :: '/' :: (authority.text ++ tail.text)
  | .absolutePath _ tail _ _ _ => tail.text
  | .relativePath first tail rest _ _ _ => first ++ (pathText rest ++ tail.rest)

/-- A path and its query, as they are asked for. -/
def target (segments : List Text) (tail : Tail) : Text :=
  (if segments = [] then ['/'] else pathText segments) ++ tail.queryText

/-- The host and the target a reference resolves to. -/
def resolve (base : Base) : Reference → Text × Text
  | .absolute _ authority tail => (authority.host, target (removeDots [] tail.segments) tail)
  | .network authority tail => (authority.host, target (removeDots [] tail.segments) tail)
  | .absolutePath _ tail _ _ _ => (base.host, target (removeDots [] tail.segments) tail)
  | .relativePath _ tail _ _ _ _ =>
      -- The last segment of the base gives way to the reference.
      (base.host, target (removeDots [] (base.segments.dropLast ++ tail.segments)) tail)

variable {tail : Tail}

theorem Authority.part_text (authority : Authority) : Part authority.text := by
  intro char inside
  rcases List.mem_append.mp inside with front | port
  · rcases List.mem_append.mp front with user | host
    · cases shape : authority.userinfo with
      | none =>
          rw [shape] at user
          cases user
      | some text =>
          rw [shape] at user
          rcases List.mem_append.mp user with inText | mark
          · exact authority.userPart text shape char inText
          · rw [List.mem_singleton.mp mark]
            decide
    · exact authority.part char host
  · cases shape : authority.port with
    | none =>
        rw [shape] at port
        cases port
    | some text =>
        rw [shape] at port
        rcases List.mem_cons.mp port with rfl | inText
        · decide
        · exact authority.portPart text shape char inText

theorem part_slashless (text : Text) (part : Part text) : '/' ∉ text :=
  fun inside => (part '/' inside).1 rfl

theorem part_unmarked (text : Text) (part : Part text) : '#' ∉ text :=
  fun inside => (part '#' inside).2.2 rfl

theorem path_unmarked (segments : List Text) (parts : ∀ segment ∈ segments, Part segment) :
    '#' ∉ pathText segments := by
  rw [pathText, List.mem_flatMap]
  rintro ⟨segment, listed, inside⟩
  rcases List.mem_cons.mp inside with mark | inText
  · cases mark
  · exact part_unmarked segment (parts segment listed) inText

theorem Tail.query_unmarked (tail : Tail) : '#' ∉ tail.queryText := by
  unfold Tail.queryText
  cases shape : tail.query with
  | none => exact List.not_mem_nil
  | some text =>
      intro inside
      rcases List.mem_cons.mp inside with mark | inText
      · cases mark
      · exact tail.queryPart text shape inText

/-- Without its fragment a text ends where its query does. -/
theorem unfragmented (front : Text) (tail : Tail) (unmarked : '#' ∉ front) :
    (front ++ tail.rest).takeWhile (· != '#') = front ++ tail.queryText := by
  have plain : ∀ char ∈ front ++ tail.queryText, (char != '#') = true := by
    intro char inside
    rw [bne_iff_ne]
    rintro rfl
    rcases List.mem_append.mp inside with here | there
    · exact unmarked here
    · exact tail.query_unmarked there
  rw [Tail.rest, ← List.append_assoc, List.takeWhile_append_of_pos plain]
  cases tail.fragment with
  | none => exact List.append_nil _
  | some text => exact List.append_nil _

end Kinds

end Dnsix.References
