import Dnsix.Synth

/-!
How the DNS library prints a name: the labels joined by dots, and inside a label a
backslash before whatever is no host character. A dot inside a label is printed with
its backslash, so the text between two dots need not be a whole label.
-/

namespace Dnsix.Presentation
open Ascii Dns Synth

def charOf (byte : UInt8) : Char := Char.ofNat byte.toNat

/-- The bytes that are printed as they are. A hyphen at the front is not. -/
def plainByte (first : Bool) (byte : UInt8) : Bool :=
  (charOf byte).isAlphanum || charOf byte == '_' || (charOf byte == '-' && !first)

def printLabel (escape : Bool → UInt8 → Text) : Bool → Label → Text
  | _, [] => []
  | first, byte :: rest => escape first byte ++ printLabel escape false rest

/-- What is assumed of the library's `to_ascii`; `escape` prints one byte, told whether
it is a label's first. -/
structure Presents (text : NameText) (escape : Bool → UInt8 → Text) : Prop where
  joined : ∀ name, text.toAscii name =
    join "." (name.labels.map (printLabel escape true)) ++
      if name.isFqdn || name.labels.isEmpty then ['.'] else []
  plain : ∀ first byte, plainByte first byte = true → escape first byte = [charOf byte]
  dot : ∀ first, escape first 46 = ['\\', '.']
  special : ∀ first byte, plainByte first byte = false → byte ≠ 46 →
    ∃ mark rest, escape first byte = mark :: rest ∧ (mark = '\\' ∨ mark = '*') ∧ '.' ∉ rest

/-- A label in lower case, one character a byte. -/
def spell (label : Label) : Text := label.map fun byte => (charOf byte).toLower

/-- A lowercase host character other than the dot. -/
def hostChar (char : Char) : Bool := char.isAlphanum || char == '-' || char == '_'

variable {text : NameText} {escape : Bool → UInt8 → Text}

/-! Bytes. -/
section Bytes

theorem char_of_dot (byte : UInt8) : charOf byte = '.' ↔ byte = 46 := by
  have small : byte.toNat < 256 := byte.toNat_lt
  have valid : byte.toNat.isValidChar := .inl (by omega)
  constructor
  · intro same
    have code : (charOf byte).toNat = byte.toNat := by
      rw [charOf, Char.ofNat, dif_pos valid]
      rfl
    rw [same] at code
    exact UInt8.toNat_inj.mp code.symm
  · rintro rfl
    rfl

/-- A byte that spells a host character is printed as it is, unless it is a leading
hyphen. -/
theorem host_plain (first : Bool) (byte : UInt8)
    (host : hostChar (charOf byte).toLower = true)
    (unhyphened : first = true → (charOf byte).toLower ≠ '-') : plainByte first byte = true := by
  unfold hostChar at host
  unfold plainByte
  rw [to_lower_alphanum] at host
  simp only [Bool.or_eq_true, Bool.and_eq_true, beq_iff_eq] at host ⊢
  rw [to_lower_eq_iff _ '-' rfl, to_lower_eq_iff _ '_' rfl] at host
  rw [ne_eq, to_lower_eq_iff _ '-' rfl] at unhyphened
  cases first with
  | true => tauto
  | false => tauto

theorem special_marked (presents : Presents text escape) (first : Bool) (byte : UInt8)
    (special : plainByte first byte = false) :
    ∃ mark ∈ escape first byte, mark = '\\' ∨ mark = '*' := by
  by_cases dot : byte = 46
  · subst dot
    rw [presents.dot]
    exact ⟨'\\', List.mem_cons_self, .inl rfl⟩
  · rcases presents.special first byte special dot with ⟨mark, rest, printed, known, _⟩
    rw [printed]
    exact ⟨mark, List.mem_cons_self, known⟩

theorem escape_present (presents : Presents text escape) (first : Bool) (byte : UInt8) :
    escape first byte ≠ [] := by
  intro empty
  cases kind : plainByte first byte with
  | true =>
      rw [presents.plain first byte kind] at empty
      cases empty
  | false =>
      rcases special_marked presents first byte kind with ⟨mark, inside, _⟩
      rw [empty] at inside
      cases inside

theorem escape_dotless (presents : Presents text escape) (first : Bool) (byte : UInt8)
    (other : byte ≠ 46) : '.' ∉ escape first byte := by
  cases kind : plainByte first byte with
  | true =>
      rw [presents.plain first byte kind, List.mem_singleton, eq_comm, char_of_dot]
      exact other
  | false =>
      rcases presents.special first byte kind other with ⟨mark, rest, printed, known, dotless⟩
      rw [printed, List.mem_cons]
      rintro (same | inside)
      · rcases known with rfl | rfl <;> cases same
      · exact dotless inside

end Bytes

/-! Labels. -/
section Labels

/-- The bytes of a label that are all printed as they are. -/
def verbatim : Bool → Label → Bool
  | _, [] => true
  | first, byte :: rest => plainByte first byte && verbatim false rest

theorem print_verbatim (presents : Presents text escape) (first : Bool) (label : Label)
    (kept : verbatim first label = true) :
    toAsciiLowercase (printLabel escape first label) = spell label := by
  induction label generalizing first with
  | nil => rfl
  | cons byte rest ih =>
      rw [verbatim, Bool.and_eq_true] at kept
      have tail := ih false kept.2
      rw [printLabel, presents.plain first byte kept.1]
      exact congrArg ((charOf byte).toLower :: ·) tail

/-- A printed label without a backslash or a star is the label itself. -/
theorem verbatim_of_unmarked (presents : Presents text escape) (first : Bool) (label : Label)
    (unmarked : ∀ char ∈ toAsciiLowercase (printLabel escape first label), hostChar char = true) :
    verbatim first label = true := by
  induction label generalizing first with
  | nil => rfl
  | cons byte rest ih =>
      rw [verbatim, Bool.and_eq_true]
      constructor
      · by_contra special
        rcases special_marked presents first byte (Bool.eq_false_iff.mpr special) with
          ⟨mark, present, known⟩
        have listed : mark ∈ toAsciiLowercase (printLabel escape first (byte :: rest)) := by
          rw [printLabel, toAsciiLowercase, List.map_append]
          apply List.mem_append_left
          rcases known with rfl | rfl
          · exact List.mem_map.mpr ⟨'\\', present, rfl⟩
          · exact List.mem_map.mpr ⟨'*', present, rfl⟩
        have host := unmarked mark listed
        rcases known with rfl | rfl <;> exact absurd host (by decide)
      · apply ih false
        intro char present
        apply unmarked
        rw [printLabel, toAsciiLowercase, List.map_append]
        exact List.mem_append_right _ present

theorem verbatim_of_spelled (first : Bool) (label : Label)
    (host : ∀ char ∈ spell label, hostChar char = true)
    (unhyphened : first = true → (spell label).head? ≠ some '-') : verbatim first label = true := by
  induction label generalizing first with
  | nil => rfl
  | cons byte rest ih =>
      rw [verbatim, Bool.and_eq_true]
      constructor
      · apply host_plain first byte (host _ List.mem_cons_self)
        intro front same
        exact unhyphened front (congrArg some same)
      · apply ih false
        · intro char present
          exact host char (List.mem_cons_of_mem _ present)
        · intro impossible
          cases impossible

theorem print_dotless (presents : Presents text escape) (first : Bool) (label : Label)
    (dotless : 46 ∉ label) : '.' ∉ printLabel escape first label := by
  induction label generalizing first with
  | nil => exact List.not_mem_nil
  | cons byte rest ih =>
      rw [List.mem_cons, not_or] at dotless
      rw [printLabel, List.mem_append]
      rintro (front | back)
      · exact escape_dotless presents first byte (Ne.symm dotless.1) front
      · exact ih false dotless.2 back

theorem split_dot_byte (presents : Presents text escape) (first : Bool) (rest : Label) :
    split '.' (printLabel escape first (46 :: rest)) =
      ['\\'] :: split '.' (printLabel escape false rest) := by
  rw [printLabel, presents.dot]
  exact split_append '.' ['\\'] (printLabel escape false rest)

/-- The text of a label between its dots: all pieces but the last end with the backslash
of an escaped dot, and the last prints what stands behind the last dot byte. -/
theorem print_pieces (presents : Presents text escape) (first : Bool) (label : Label) :
    (46 ∉ label ∧ split '.' (printLabel escape first label) = [printLabel escape first label]) ∨
      ∃ before after marked, label = before ++ 46 :: after ∧ 46 ∉ after ∧ marked ≠ [] ∧
        (∀ piece ∈ marked, '\\' ∈ piece) ∧
        split '.' (printLabel escape first label) =
          marked ++ [printLabel escape false after] := by
  by_cases inside : 46 ∈ label
  · right
    induction label generalizing first with
    | nil => cases inside
    | cons byte rest ih =>
        by_cases dot : byte = 46
        · subst dot
          have cut := split_dot_byte presents first rest
          by_cases deeper : 46 ∈ rest
          · rcases ih false deeper with ⟨before, after, marked, shape, last, _, all, pieces⟩
            refine ⟨46 :: before, after, ['\\'] :: marked, ?_, last, List.cons_ne_nil _ _, ?_, ?_⟩
            · rw [shape, List.cons_append]
            · intro piece listed
              rcases List.mem_cons.mp listed with rfl | later
              · exact List.mem_cons_self
              · exact all piece later
            · rw [cut, pieces, List.cons_append]
          · refine ⟨[], rest, [['\\']], rfl, deeper, List.cons_ne_nil _ _, ?_, ?_⟩
            · intro piece listed
              rw [List.mem_singleton.mp listed]
              exact List.mem_cons_self
            · rw [cut, split_whole '.' _ (print_dotless presents false rest deeper)]
              rfl
        · have later := (List.mem_cons.mp inside).resolve_left (Ne.symm dot)
          rcases ih false later with ⟨before, after, marked, shape, last, present, all, pieces⟩
          cases marked with
          | nil => exact absurd rfl present
          | cons head others =>
              refine ⟨byte :: before, after, (escape first byte ++ head) :: others, ?_, last,
                List.cons_ne_nil _ _, ?_, ?_⟩
              · rw [shape, List.cons_append]
              · intro piece listed
                rcases List.mem_cons.mp listed with rfl | other
                · exact List.mem_append_right _ (all head List.mem_cons_self)
                · exact all piece (List.mem_cons_of_mem _ other)
              · rw [printLabel, split_prepend '.' _ _ (escape_dotless presents first byte dot),
                  pieces]
                rfl
  · exact .inl ⟨inside, split_whole '.' _ (print_dotless presents first label inside)⟩

def Host (piece : Text) : Prop := ∀ char ∈ piece, hostChar char = true

theorem verbatim_head (label : Label) (kept : verbatim true label = true) :
    (spell label).head? ≠ some '-' := by
  cases label with
  | nil => exact fun impossible => nomatch impossible
  | cons byte rest =>
      rw [verbatim, Bool.and_eq_true] at kept
      intro hyphen
      have same := (to_lower_eq_iff _ '-' rfl).mp (Option.some.inj hyphen)
      have plain := kept.1
      rw [plainByte, same] at plain
      exact absurd plain (by decide)

/-- A whole label is printed as a piece of host characters exactly when it spells it and
does not start with a hyphen. -/
theorem label_piece_iff (presents : Presents text escape) (label : Label) (piece : Text)
    (host : Host piece) :
    toAsciiLowercase (printLabel escape true label) = piece ↔
      spell label = piece ∧ piece.head? ≠ some '-' := by
  constructor
  · rintro rfl
    have kept := verbatim_of_unmarked presents true label host
    rw [print_verbatim presents true label kept]
    exact ⟨rfl, verbatim_head label kept⟩
  · rintro ⟨rfl, unhyphened⟩
    exact print_verbatim presents true label
      (verbatim_of_spelled true label host fun _ => unhyphened)

/-- Behind a dot byte a leading hyphen is printed too. -/
theorem rest_piece_iff (presents : Presents text escape) (rest : Label) (piece : Text)
    (host : Host piece) :
    toAsciiLowercase (printLabel escape false rest) = piece ↔ spell rest = piece := by
  constructor
  · rintro rfl
    rw [print_verbatim presents false rest (verbatim_of_unmarked presents false rest host)]
  · rintro rfl
    exact print_verbatim presents false rest
      (verbatim_of_spelled false rest host fun impossible => Bool.noConfusion impossible)

theorem marked_not_host (piece : Text) (marked : '\\' ∈ piece) :
    ¬ Host (toAsciiLowercase piece) := by
  intro host
  have listed : '\\' ∈ toAsciiLowercase piece := List.mem_map.mpr ⟨'\\', marked, rfl⟩
  exact absurd (host '\\' listed) (by decide)

theorem host_dotless (label : Label) (host : Host (spell label)) : 46 ∉ label := by
  intro inside
  have listed : '.' ∈ spell label := List.mem_map.mpr ⟨46, inside, rfl⟩
  exact absurd (host '.' listed) (by decide)

end Labels

/-! Names. -/
section Names

/-- The pieces of a printed name between its dots, in lower case. -/
def piecesOf (escape : Bool → UInt8 → Text) (labels : List Label) : List Text :=
  (labels.flatMap fun label => split '.' (printLabel escape true label)).map toAsciiLowercase

/-- Trailing labels that spell the pieces, one each. -/
def Trails (labels : List Label) (pieces : List Text) : Prop :=
  ∃ back, back <:+ labels ∧ back.map spell = pieces

/-- The same with the first piece spelled by the end of a label, behind a dot in it. -/
def Cut (labels : List Label) (pieces : List Text) : Prop :=
  ∃ before after back, (before ++ 46 :: after) :: back <:+ labels ∧
    spell after :: back.map spell = pieces

def Unhyphened (pieces : List Text) : Prop := ∀ piece ∈ pieces, piece.head? ≠ some '-'

theorem unhyphened_cons (piece : Text) (pieces : List Text) :
    Unhyphened (piece :: pieces) ↔ piece.head? ≠ some '-' ∧ Unhyphened pieces :=
  List.forall_mem_cons

theorem pieces_cons (presents : Presents text escape) (label : Label) (rest : List Label) :
    (46 ∉ label ∧ piecesOf escape (label :: rest) =
        toAsciiLowercase (printLabel escape true label) :: piecesOf escape rest) ∨
      ∃ before after marked, label = before ++ 46 :: after ∧ 46 ∉ after ∧ marked ≠ [] ∧
        (∀ piece ∈ marked, ¬ Host piece) ∧ piecesOf escape (label :: rest) =
          marked ++ toAsciiLowercase (printLabel escape false after) :: piecesOf escape rest := by
  have parted : piecesOf escape (label :: rest) =
      (split '.' (printLabel escape true label)).map toAsciiLowercase ++ piecesOf escape rest := by
    rw [piecesOf, List.flatMap_cons, List.map_append]
    rfl
  rw [parted]
  rcases print_pieces presents true label with ⟨dotless, whole⟩ |
    ⟨before, after, marked, shape, last, present, all, pieces⟩
  · left
    rw [whole]
    exact ⟨dotless, rfl⟩
  · refine .inr ⟨before, after, marked.map toAsciiLowercase, shape, last, ?_, ?_, ?_⟩
    · exact fun empty => present (List.map_eq_nil_iff.mp empty)
    · intro piece listed
      rcases List.mem_map.mp listed with ⟨source, inMarked, rfl⟩
      exact marked_not_host source (all source inMarked)
    · rw [pieces, List.map_append, List.append_assoc]
      rfl

/-- A name prints as the given host pieces exactly when its labels spell them and none
starts with a hyphen. -/
theorem whole_iff (presents : Presents text escape) (labels : List Label) (pieces : List Text)
    (host : ∀ piece ∈ pieces, Host piece) :
    piecesOf escape labels = pieces ↔ labels.map spell = pieces ∧ Unhyphened pieces := by
  induction labels generalizing pieces with
  | nil =>
      constructor
      · rintro rfl
        exact ⟨rfl, fun _ listed => nomatch listed⟩
      · rintro ⟨rfl, _⟩
        rfl
  | cons label rest ih =>
      cases pieces with
      | nil =>
          rcases pieces_cons presents label rest with ⟨_, shape⟩ | ⟨_, _, _, _, _, _, _, shape⟩
          · simp [shape]
          · simp [shape]
      | cons piece more =>
          have headHost := host piece List.mem_cons_self
          have tailHost : ∀ other ∈ more, Host other :=
            fun other listed => host other (List.mem_cons_of_mem piece listed)
          rw [unhyphened_cons, List.map_cons, List.cons.injEq]
          rcases pieces_cons presents label rest with ⟨_, shape⟩ |
            ⟨before, after, marked, cut, _, present, all, shape⟩
          · rw [shape, List.cons.injEq, label_piece_iff presents label piece headHost,
              ih more tailHost]
            tauto
          -- A printed dot byte leaves its backslash in a piece.
          · constructor
            · intro same
              rw [shape] at same
              cases marked with
              | nil => exact absurd rfl present
              | cons first others =>
                  rw [List.cons_append, List.cons.injEq] at same
                  rw [same.1] at all
                  exact absurd headHost (all piece List.mem_cons_self)
            · rintro ⟨⟨spelled, _⟩, _⟩
              rw [← spelled] at headHost
              refine absurd ?_ (host_dotless label headHost)
              rw [cut]
              exact List.mem_append_right _ List.mem_cons_self

theorem suffix_past (marked rest pieces : List Text) (all : ∀ piece ∈ marked, ¬ Host piece)
    (host : ∀ piece ∈ pieces, Host piece) : pieces <:+ marked ++ rest ↔ pieces <:+ rest := by
  induction marked with
  | nil => rfl
  | cons first others ih =>
      rw [List.cons_append, List.suffix_cons_iff,
        ih fun piece listed => all piece (List.mem_cons_of_mem first listed)]
      constructor
      · rintro (rfl | suffix)
        · exact absurd (host first List.mem_cons_self) (all first List.mem_cons_self)
        · exact suffix
      · exact .inr

theorem trails_cons (label : Label) (rest : List Label) (pieces : List Text) :
    Trails (label :: rest) pieces ↔
      (label :: rest).map spell = pieces ∨ Trails rest pieces := by
  constructor
  · rintro ⟨back, suffix, spelled⟩
    rcases List.suffix_cons_iff.mp suffix with rfl | later
    · exact .inl spelled
    · exact .inr ⟨back, later, spelled⟩
  · rintro (spelled | ⟨back, suffix, spelled⟩)
    · exact ⟨_, List.suffix_rfl, spelled⟩
    · exact ⟨back, suffix.trans (List.suffix_cons label rest), spelled⟩

theorem cut_cons (label : Label) (rest : List Label) (pieces : List Text) :
    Cut (label :: rest) pieces ↔
      (∃ before after, label = before ++ 46 :: after ∧
        spell after :: rest.map spell = pieces) ∨ Cut rest pieces := by
  constructor
  · rintro ⟨before, after, back, suffix, spelled⟩
    rcases List.suffix_cons_iff.mp suffix with same | later
    · rw [List.cons.injEq] at same
      rcases same with ⟨rfl, rfl⟩
      exact .inl ⟨before, after, rfl, spelled⟩
    · exact .inr ⟨before, after, back, later, spelled⟩
  · rintro (⟨before, after, rfl, spelled⟩ | ⟨before, after, back, suffix, spelled⟩)
    · exact ⟨before, after, rest, List.suffix_rfl, spelled⟩
    · exact ⟨before, after, back, suffix.trans (List.suffix_cons label rest), spelled⟩

theorem behind_last_dot (before after : Label) (dotless : 46 ∉ after) :
    (before ++ 46 :: after).reverse.takeWhile (· != 46) = after.reverse := by
  rw [List.reverse_append, List.reverse_cons, List.append_assoc, List.takeWhile_append_of_pos]
  · simp
  · intro byte listed
    rw [bne_iff_ne]
    rintro rfl
    exact dotless (List.mem_reverse.mp listed)

/-- The pieces a printed name ends with: those its trailing labels spell, less the
hyphened ones, and those that begin behind a dot byte inside a label. -/
theorem suffix_pieces_iff (presents : Presents text escape) (labels : List Label)
    (pieces : List Text) (present : pieces ≠ []) (host : ∀ piece ∈ pieces, Host piece) :
    pieces <:+ piecesOf escape labels ↔
      (Trails labels pieces ∧ Unhyphened pieces) ∨
        (Cut labels pieces ∧ Unhyphened pieces.tail) := by
  induction labels with
  | nil =>
      constructor
      · intro suffix
        exact absurd (List.suffix_nil.mp suffix) present
      · rintro (⟨⟨back, suffix, rfl⟩, _⟩ | ⟨⟨_, _, back, suffix, _⟩, _⟩)
        · exact absurd (congrArg (List.map spell) (List.suffix_nil.mp suffix)) present
        · cases List.suffix_nil.mp suffix
  | cons label rest ih =>
      rw [trails_cons, cut_cons]
      rcases pieces_cons presents label rest with ⟨dotless, shape⟩ |
        ⟨before, after, marked, cut, last, _, all, shape⟩
      · have whole := whole_iff presents (label :: rest) pieces host
        rw [shape] at whole ⊢
        have uncut : ¬ ∃ before after, label = before ++ 46 :: after ∧
            spell after :: rest.map spell = pieces := by
          rintro ⟨before, after, rfl, _⟩
          exact dotless (List.mem_append_right _ List.mem_cons_self)
        rw [List.suffix_cons_iff, eq_comm, whole, ih]
        simp only [uncut, false_or, or_and_right, or_assoc]
      · have untrailed : (label :: rest).map spell ≠ pieces := by
          rintro rfl
          refine absurd ?_ (host_dotless label (host _ List.mem_cons_self))
          rw [cut]
          exact List.mem_append_right _ List.mem_cons_self
        have front : (∃ before after, label = before ++ 46 :: after ∧
            spell after :: rest.map spell = pieces) ↔
            spell after :: rest.map spell = pieces := by
          constructor
          · rintro ⟨other, tail, shaped, rfl⟩
            -- Only one dot byte of a label has no other behind it.
            have tailDotless := host_dotless tail (host _ List.mem_cons_self)
            have one := behind_last_dot other tail tailDotless
            rw [← shaped, cut, behind_last_dot before after last, List.reverse_inj] at one
            rw [one]
          · intro spelled
            exact ⟨before, after, cut, spelled⟩
        rw [shape, suffix_past marked _ pieces all host, List.suffix_cons_iff, ih, front]
        cases pieces with
        | nil => exact absurd rfl present
        | cons piece more =>
            have headHost := host piece List.mem_cons_self
            have tailHost : ∀ other ∈ more, Host other :=
              fun other listed => host other (List.mem_cons_of_mem piece listed)
            rw [eq_comm, List.cons.injEq, List.cons.injEq,
              rest_piece_iff presents after piece headHost,
              whole_iff presents rest more tailHost, List.tail_cons]
            simp only [untrailed, false_or, or_and_right, and_assoc]
            exact or_left_comm

/-- A label is printed with a dot at its end only behind that dot's backslash. -/
theorem print_last_dot (presents : Presents text escape) (first : Bool) (label : Label)
    (last : (printLabel escape first label).getLast? = some '.') :
    ∃ front, printLabel escape first label = front ++ ['\\', '.'] := by
  induction label generalizing first with
  | nil => cases last
  | cons byte rest ih =>
      rw [printLabel] at last ⊢
      cases tail : printLabel escape false rest with
      | nil =>
          rw [tail, List.append_nil] at last
          rw [List.append_nil]
          have dot : byte = 46 := by
            by_contra other
            exact escape_dotless presents first byte other (List.mem_of_getLast? last)
          subst dot
          exact ⟨[], presents.dot first⟩
      | cons char more =>
          have inTail : (printLabel escape false rest).getLast? = some '.' := by
            rw [tail] at last ⊢
            rwa [List.getLast?_append_of_ne_nil _ (List.cons_ne_nil char more)] at last
          rcases ih false inTail with ⟨front, shape⟩
          rw [tail] at shape
          exact ⟨escape first byte ++ front, by rw [shape, List.append_assoc]⟩

theorem join_last (parts : List Text) (last : Text) :
    ∃ front, join "." (parts ++ [last]) = front ++ last := by
  induction parts with
  | nil => exact ⟨[], by simp [join]⟩
  | cons first rest ih =>
      rcases ih with ⟨front, shape⟩
      refine ⟨first ++ '.' :: front, ?_⟩
      cases rest with
      | nil =>
          have alone : join "." [last] = last := by simp [join]
          rw [List.nil_append, alone] at shape
          have joined : join "." [first, last] = first ++ '.' :: last := by
            simp [join, List.intercalate_cons_cons]
          rw [List.cons_append, List.nil_append, joined, List.append_assoc, List.cons_append,
            ← shape]
      | cons second others =>
          have joined : join "." (first :: (second :: others) ++ [last]) =
              first ++ '.' :: join "." (second :: others ++ [last]) := by
            simp [join, List.intercalate_cons_cons]
          rw [joined, shape, List.append_assoc, List.cons_append]

/-- The body of a printed name, before the dot of an absolute one. -/
def body (escape : Bool → UInt8 → Text) (name : Name) : Text :=
  join "." (name.labels.map (printLabel escape true))

theorem body_last_dot (presents : Presents text escape) (name : Name)
    (proper : ∀ label ∈ name.labels, label ≠ [])
    (last : (body escape name).getLast? = some '.') :
    ∃ front, body escape name = front ++ ['\\', '.'] := by
  rcases List.eq_nil_or_concat name.labels with empty | ⟨labels, label, shape⟩
  · rw [body, empty] at last
    cases last
  · rw [List.concat_eq_append] at shape
    have printed : body escape name =
        join "." (labels.map (printLabel escape true) ++ [printLabel escape true label]) := by
      rw [body, shape, List.map_append, List.map_singleton]
    rcases join_last (labels.map (printLabel escape true)) (printLabel escape true label) with
      ⟨front, joined⟩
    rw [printed, joined] at last ⊢
    have present : printLabel escape true label ≠ [] := by
      cases label with
      | nil =>
          refine absurd rfl (proper [] ?_)
          rw [shape]
          exact List.mem_append_right _ List.mem_cons_self
      | cons byte rest =>
          intro empty
          rw [printLabel, List.append_eq_nil_iff] at empty
          exact escape_present presents true byte empty.1
    rw [List.getLast?_append_of_ne_nil _ present] at last
    rcases print_last_dot presents true label last with ⟨before, ended⟩
    exact ⟨front ++ before, by rw [ended, List.append_assoc]⟩

theorem body_pieces (name : Name) (present : name.labels ≠ []) :
    split '.' (toAsciiLowercase (body escape name)) = piecesOf escape name.labels := by
  have flat : split '.' (body escape name) =
      (name.labels.map (printLabel escape true)).flatMap (split '.') :=
    split_join '.' _ fun empty => present (List.map_eq_nil_iff.mp empty)
  rw [split_lowercase, flat, List.flatMap_map]
  rfl

end Names

/-! Empty pieces. -/
section Empty

/-- Nothing is between two dots only where the first of them is escaped. -/
def Escaped (piece next : Text) : Prop := next = [] → piece.getLast? = some '\\'

theorem label_chain (presents : Presents text escape) (first : Bool) (label : Label) :
    (split '.' (printLabel escape first label)).IsChain Escaped := by
  induction label generalizing first with
  | nil => exact List.isChain_singleton _
  | cons byte rest ih =>
      have tail := ih false
      by_cases dot : byte = 46
      · subst dot
        rw [split_dot_byte presents]
        cases pieces : split '.' (printLabel escape false rest) with
        | nil => exact List.isChain_singleton _
        | cons head others =>
            rw [pieces] at tail
            exact List.isChain_cons_cons.mpr ⟨fun _ => rfl, tail⟩
      · rw [printLabel, split_prepend '.' _ _ (escape_dotless presents first byte dot)]
        match pieces : split '.' (printLabel escape false rest) with
        | [] => exact List.isChain_nil
        | [_] => exact List.isChain_singleton _
        | head :: next :: others =>
            rw [pieces, List.isChain_cons_cons] at tail
            refine List.isChain_cons_cons.mpr ⟨?_, tail.2⟩
            intro empty
            have ended := tail.1 empty
            have present : head ≠ [] := by
              rintro rfl
              cases ended
            rw [List.getLast?_append_of_ne_nil _ present, ended]

theorem label_head (presents : Presents text escape) (first : Bool) (label : Label)
    (proper : label ≠ []) :
    ∃ head others, split '.' (printLabel escape first label) = head :: others ∧ head ≠ [] := by
  cases label with
  | nil => exact absurd rfl proper
  | cons byte rest =>
      by_cases dot : byte = 46
      · subst dot
        exact ⟨_, _, split_dot_byte presents first rest, List.cons_ne_nil _ _⟩
      · rw [printLabel, split_prepend '.' _ _ (escape_dotless presents first byte dot)]
        cases pieces : split '.' (printLabel escape false rest) with
        | nil => exact absurd pieces (split_ne_nil '.' _)
        | cons head others =>
            refine ⟨_, others, rfl, ?_⟩
            intro empty
            exact escape_present presents first byte (List.append_eq_nil_iff.mp empty).1

theorem pieces_chain (presents : Presents text escape) (labels : List Label)
    (proper : ∀ label ∈ labels, label ≠ []) :
    (piecesOf escape labels).IsChain Escaped := by
  have lowered : ∀ piece next : Text, Escaped piece next →
      Escaped (toAsciiLowercase piece) (toAsciiLowercase next) := by
    intro piece next escaped empty
    rw [toAsciiLowercase, List.getLast?_map, escaped (List.map_eq_nil_iff.mp empty)]
    rfl
  refine List.isChain_map_of_isChain _ lowered ?_
  induction labels with
  | nil => exact List.isChain_nil
  | cons label rest ih =>
      rw [List.forall_mem_cons] at proper
      rw [List.flatMap_cons]
      refine List.isChain_append.mpr ⟨label_chain presents true label, ih proper.2, ?_⟩
      intro piece _ next front empty
      cases rest with
      | nil => cases front
      | cons label more =>
          obtain ⟨head, others, shape, present⟩ :=
            label_head presents true label (proper.2 label List.mem_cons_self)
          rw [List.flatMap_cons, shape, List.cons_append, List.head?_cons] at front
          rw [← Option.mem_some.mp front] at empty
          exact absurd empty present

end Empty

/-! The library's own escapes: a backslash before a printable character, three octal
digits for any other byte, and a star kept at the front. -/
section Library

def escapeByte (first : Bool) (byte : UInt8) : Text :=
  if plainByte first byte || (first && byte == 42) then [charOf byte]
  else if 32 < byte ∧ byte < 127 then ['\\', charOf byte]
  else
    ['\\', Nat.digitChar (byte.toNat / 64), Nat.digitChar (byte.toNat / 8 % 8),
      Nat.digitChar (byte.toNat % 8)]

def escapedText : NameText where
  toAscii name := join "." (name.labels.map (printLabel escapeByte true)) ++
    if name.isFqdn || name.labels.isEmpty then ['.'] else []
  fromAscii := plainText.fromAscii

theorem octal_digit (digit : Nat) (small : digit < 8) : '.' ≠ Nat.digitChar digit := by
  revert digit
  decide

theorem escaped_presents : Presents escapedText escapeByte where
  joined _ := rfl
  plain first byte plain := by simp [escapeByte, plain]
  dot first := by cases first <;> decide
  special first byte special other := by
    unfold escapeByte
    rw [special, Bool.false_or]
    split
    · rename_i star
      rw [Bool.and_eq_true, beq_iff_eq] at star
      rw [star.2]
      exact ⟨'*', [], rfl, .inr rfl, List.not_mem_nil⟩
    split
    · refine ⟨'\\', [charOf byte], rfl, .inl rfl, ?_⟩
      rw [List.mem_singleton, eq_comm, char_of_dot]
      exact other
    · refine ⟨'\\', _, rfl, .inl rfl, ?_⟩
      have small : byte.toNat < 256 := byte.toNat_lt
      simp only [List.mem_cons, List.not_mem_nil, or_false, not_or]
      exact ⟨octal_digit _ (by omega), octal_digit _ (by omega), octal_digit _ (by omega)⟩

example : escapedText.toAscii ⟨[[120, 46, 97], [45, 98]], true⟩ = "x\\.a.\\-b.".toList := by decide

end Library

end Dnsix.Presentation
