import Dnsix.Ascii

/-!
Markup as trees of elements and texts. What is written of a tree is read back as this
tree, whatever its texts and attribute values hold: none of it is taken for markup.
-/

namespace Dnsix.Markup
open Ascii

abbrev Attributes := List (Text × Text)

inductive Node where
  | text (chars : Text)
  | element (tag : Text) (attributes : Attributes) (children : List Node)

/-! Writing. -/
section Writing

def quote : Char := '\x22'

/-- The spelling of a text; `escape` spells one character. -/
def spell (escape : Char → Text) (chars : Text) : Text := chars.flatMap escape

def attributeText (escape : Char → Text) (entry : Text × Text) : Text :=
  ' ' :: entry.1 ++ '=' :: quote :: spell escape entry.2 ++ [quote]

mutual
def Node.write (escape : Char → Text) : Node → Text
  | .text chars => spell escape chars
  | .element tag attributes children =>
      '<' :: tag ++ attributes.flatMap (attributeText escape) ++ '>' :: writeAll escape children ++
        '<' :: '/' :: tag ++ ['>']

def writeAll (escape : Char → Text) : List Node → Text
  | [] => []
  | node :: rest => node.write escape ++ writeAll escape rest
end

end Writing

/-! Reading. -/
section Reading

inductive Token where
  | start (tag : Text) (attributes : Attributes)
  | finish (tag : Text)
  | chars (chars : Text)
  deriving DecidableEq

/-- The four characters that are written by name. -/
def unescape : Text → Option Text
  | [] => some []
  | '&' :: 'a' :: 'm' :: 'p' :: ';' :: rest => (unescape rest).map ('&' :: ·)
  | '&' :: 'l' :: 't' :: ';' :: rest => (unescape rest).map ('<' :: ·)
  | '&' :: 'g' :: 't' :: ';' :: rest => (unescape rest).map ('>' :: ·)
  | '&' :: 'q' :: 'u' :: 'o' :: 't' :: ';' :: rest => (unescape rest).map (quote :: ·)
  | '&' :: _ => none
  | char :: rest => (unescape rest).map (char :: ·)

/-- Names and values, cut at the quotes. -/
def readAttributes : List Text → Option Attributes
  | [[]] => some []
  | name :: value :: rest => do
      let (blank, bare) ← splitOnce ' ' name
      let (key, behind) ← splitOnce '=' bare
      if blank ≠ [] ∨ behind ≠ [] then none
      else some ((key, ← unescape value) :: (← readAttributes rest))
  | _ => none

def readStart (inside : Text) : Option Token := do
  let tag := inside.takeWhile (· != ' ')
  some (.start tag (← readAttributes (split quote (inside.dropWhile (· != ' ')))))

/-- What stands between two angle brackets. -/
def readTag (inside : Text) : Option Token :=
  match stripPrefix inside "/" with
  | some tag => some (.finish tag)
  | none => readStart inside

def lex : Text → Option (List Token)
  | [] => some []
  | first :: rest =>
      if first = '<' then
        let inside := rest.takeWhile (· != '>')
        match _found : rest.dropWhile (· != '>') with
        | [] => none
        | _ :: behind =>
            (readTag inside).bind fun token => (lex behind).map (token :: ·)
      else
        (unescape (first :: rest.takeWhile (· != '<'))).bind fun chars =>
          (lex (rest.dropWhile (· != '<'))).map (.chars chars :: ·)
termination_by text => text.length
decreasing_by
  · have shorter := List.length_dropWhile_le (· != '>') rest
    rw [_found, List.length_cons] at shorter
    rw [List.length_cons]
    omega
  · have shorter := List.length_dropWhile_le (· != '<') rest
    rw [List.length_cons]
    omega

/-- The elements still open stand on the stack, each with its siblings so far. -/
def assemble : List Token → List (Text × Attributes × List Node) → List Node →
    Option (List Node)
  | [], [], done => some done
  | [], _ :: _, _ => none
  | .chars chars :: rest, stack, done => assemble rest stack (done ++ [.text chars])
  | .start tag attributes :: rest, stack, done =>
      assemble rest ((tag, attributes, done) :: stack) []
  | .finish tag :: rest, (open_, attributes, before) :: stack, done =>
      if open_ = tag then assemble rest stack (before ++ [.element tag attributes done]) else none
  | .finish _ :: _, [], _ => none

def read (text : Text) : Option (List Node) := do
  assemble (← lex text) [] []

end Reading

/-! Walking a tree. -/
section Walking

mutual
/-- The text shown of a tree. -/
def Node.content : Node → Text
  | .text chars => chars
  | .element _ _ children => contents children

def contents : List Node → Text
  | [] => []
  | node :: rest => node.content ++ contents rest
end

mutual
/-- The outermost elements of a kind. -/
def Node.select (wanted : Text → Attributes → Bool) : Node → List Node
  | .text _ => []
  | .element tag attributes children =>
      if wanted tag attributes then [.element tag attributes children]
      else selectAll wanted children

def selectAll (wanted : Text → Attributes → Bool) : List Node → List Node
  | [] => []
  | node :: rest => node.select wanted ++ selectAll wanted rest
end

def Node.children : Node → List Node
  | .text _ => []
  | .element _ _ children => children

theorem select_append (wanted : Text → Attributes → Bool) (front back : List Node) :
    selectAll wanted (front ++ back) = selectAll wanted front ++ selectAll wanted back := by
  induction front with
  | nil => rfl
  | cons node rest ih => rw [List.cons_append, selectAll, selectAll, ih, List.append_assoc]

end Walking

/-! What is written reads back. -/
section RoundTrip

/-- What is assumed of the escapes: none spells a mark, and each is read as its character. -/
structure Escapes (escape : Char → Text) : Prop where
  unmarked : ∀ char mark, mark ∈ escape char → mark ≠ '<' ∧ mark ≠ '>' ∧ mark ≠ quote
  read : ∀ char rest, unescape (escape char ++ rest) = (unescape rest).map (char :: ·)

/-- A name that ends where a mark, a blank or an equals sign stands. -/
structure Named (name : Text) : Prop where
  present : name ≠ []
  plain : ∀ char ∈ name, char.isAlphanum = true

def isText : Node → Bool
  | .text _ => true
  | .element _ _ _ => false

/-- Texts stand apart and say something, and the names are names. -/
inductive Proper : List Node → Prop where
  | nil : Proper []
  | text {chars : Text} {rest : List Node} (present : chars ≠ [])
      (apart : rest.head?.map isText ≠ some true) (later : Proper rest) :
      Proper (.text chars :: rest)
  | element {tag : Text} {attributes : Attributes} {children rest : List Node} (named : Named tag)
      (keys : ∀ entry ∈ attributes, Named entry.1) (inside : Proper children)
      (later : Proper rest) : Proper (.element tag attributes children :: rest)

mutual
def Node.tokens : Node → List Token
  | .text chars => [.chars chars]
  | .element tag attributes children =>
      .start tag attributes :: (allTokens children ++ [.finish tag])

def allTokens : List Node → List Token
  | [] => []
  | node :: rest => node.tokens ++ allTokens rest
end

variable {escape : Char → Text}

theorem spell_read (escapes : Escapes escape) (chars : Text) :
    unescape (spell escape chars) = some chars := by
  induction chars with
  | nil => rfl
  | cons char rest ih =>
      rw [spell, List.flatMap_cons, escapes.read]
      change Option.map (char :: ·) (unescape (spell escape rest)) = _
      rw [ih]
      rfl

theorem spell_unmarked (escapes : Escapes escape) (chars : Text) (mark : Char)
    (inside : mark ∈ spell escape chars) : mark ≠ '<' ∧ mark ≠ '>' ∧ mark ≠ quote := by
  rcases List.mem_flatMap.mp inside with ⟨char, _, within⟩
  exact escapes.unmarked char mark within

theorem spell_present (escapes : Escapes escape) (chars : Text) (present : chars ≠ []) :
    spell escape chars ≠ [] := by
  intro empty
  have back := spell_read escapes chars
  rw [empty] at back
  exact present (Option.some.inj back).symm

theorem named_of (name : Text) (checked : (!name.isEmpty && name.all Char.isAlphanum) = true) :
    Named name := by
  rw [Bool.and_eq_true, List.all_eq_true] at checked
  exact ⟨by simpa using checked.1, checked.2⟩

theorem Named.other {name : Text} (named : Named name) (mark : Char)
    (strange : mark.isAlphanum = false) : mark ∉ name := by
  intro inside
  rw [named.plain mark inside] at strange
  cases strange

theorem assembled {nodes : List Node} (proper : Proper nodes) (rest : List Token)
    (stack : List (Text × Attributes × List Node)) (done : List Node) :
    assemble (allTokens nodes ++ rest) stack done = assemble rest stack (done ++ nodes) := by
  induction proper generalizing rest stack done with
  | nil => rw [allTokens, List.nil_append, List.append_nil]
  | text present apart later ih =>
      rw [allTokens, Node.tokens, List.singleton_append, List.cons_append, assemble, ih]
      simp
  | element named keys inside later ihInside ihLater =>
      rw [allTokens, Node.tokens, List.cons_append, List.cons_append, assemble, List.append_assoc,
        List.append_assoc, ihInside, List.singleton_append, assemble, if_pos rfl, ihLater]
      simp

/-- A text is cut at the first mark. -/
theorem cut_mark (front rest : Text) (mark : Char) (free : mark ∉ front) :
    (front ++ mark :: rest).takeWhile (· != mark) = front ∧
      (front ++ mark :: rest).dropWhile (· != mark) = mark :: rest := by
  have other : ∀ char ∈ front, (char != mark) = true := by
    intro char inside
    rw [bne_iff_ne]
    rintro rfl
    exact free inside
  constructor
  · rw [List.takeWhile_append_of_pos other, List.takeWhile_cons_of_neg (by simp), List.append_nil]
  · rw [List.dropWhile_append_of_pos other, List.dropWhile_cons_of_neg (by simp)]

theorem cut_whole (text : Text) (mark : Char) (free : mark ∉ text) :
    text.takeWhile (· != mark) = text ∧ text.dropWhile (· != mark) = [] := by
  have other : ∀ char ∈ text, (char != mark) = true := by
    intro char inside
    rw [bne_iff_ne]
    rintro rfl
    exact free inside
  exact ⟨List.takeWhile_eq_self_iff.mpr other, List.dropWhile_eq_nil_iff.mpr other⟩

theorem attributes_read (escapes : Escapes escape) (attributes : Attributes)
    (keys : ∀ entry ∈ attributes, Named entry.1) :
    readAttributes (split quote (attributes.flatMap (attributeText escape))) = some attributes := by
  induction attributes with
  | nil => rfl
  | cons entry rest ih =>
      rw [List.forall_mem_cons] at keys
      obtain ⟨key, value⟩ := entry
      have unquoted : quote ∉ ' ' :: (key ++ ['=']) := by
        have absent := keys.1.other quote (by decide)
        simp only [List.mem_cons, List.mem_append, List.not_mem_nil, or_false, not_or]
        exact ⟨by decide, absent, by decide⟩
      have valued : quote ∉ spell escape value := fun inside =>
        (spell_unmarked escapes value quote inside).2.2 rfl
      have shape : (((key, value) :: rest).flatMap (attributeText escape)) =
          (' ' :: (key ++ ['='])) ++ quote :: (spell escape value ++ quote ::
            rest.flatMap (attributeText escape)) := by
        simp [attributeText]
      have cut : split quote (((key, value) :: rest).flatMap (attributeText escape)) =
          (' ' :: (key ++ ['='])) :: spell escape value ::
            split quote (rest.flatMap (attributeText escape)) := by
        rw [shape, split_append, split_append, split_whole quote _ unquoted,
          split_whole quote _ valued]
        rfl
      have blank : splitOnce ' ' (' ' :: (key ++ ['='])) = some ([], key ++ ['=']) :=
        split_once_append ' ' [] (key ++ ['=']) List.not_mem_nil
      have equals : splitOnce '=' (key ++ ['=']) = some (key, []) :=
        split_once_append '=' key [] (keys.1.other '=' (by decide))
      rw [cut, readAttributes]
      simp [blank, equals, spell_read escapes, ih keys.2]

theorem attributes_unmarked (escapes : Escapes escape) (attributes : Attributes)
    (keys : ∀ entry ∈ attributes, Named entry.1) :
    '>' ∉ attributes.flatMap (attributeText escape) := by
  intro inside
  rcases List.mem_flatMap.mp inside with ⟨entry, listed, within⟩
  have absent := (keys entry listed).other '>' (by decide)
  have valued : '>' ∉ spell escape entry.2 := fun held =>
    (spell_unmarked escapes entry.2 '>' held).2.1 rfl
  have apart : ('>' : Char) ≠ quote := by decide
  simp [attributeText, absent, valued, apart] at within

theorem start_read (escapes : Escapes escape) (tag : Text) (attributes : Attributes)
    (named : Named tag) (keys : ∀ entry ∈ attributes, Named entry.1) :
    readStart (tag ++ attributes.flatMap (attributeText escape)) =
      some (.start tag attributes) := by
  have back := attributes_read escapes attributes keys
  have bare := named.other ' ' (by decide)
  cases attributes with
  | nil =>
      rw [List.flatMap_nil] at back
      rw [readStart, List.flatMap_nil, List.append_nil, (cut_whole tag ' ' bare).1,
        (cut_whole tag ' ' bare).2, back]
      rfl
  | cons entry rest =>
      have shape : (entry :: rest).flatMap (attributeText escape) =
          ' ' :: (entry.1 ++ '=' :: quote :: spell escape entry.2 ++ [quote] ++
            rest.flatMap (attributeText escape)) := by
        simp [attributeText]
      rw [shape] at back ⊢
      rw [readStart, (cut_mark tag _ ' ' bare).1, (cut_mark tag _ ' ' bare).2, back]
      rfl

theorem lex_tag (inside behind : Text) (free : '>' ∉ inside) :
    lex ('<' :: (inside ++ '>' :: behind)) =
      (readTag inside).bind fun token => (lex behind).map (token :: ·) := by
  rcases cut_mark inside behind '>' free with ⟨front, rest⟩
  rw [lex, if_pos rfl]
  split
  · rename_i found
    rw [rest] at found
    cases found
  · rename_i mark more found
    rw [rest, List.cons.injEq] at found
    rw [← found.2, front]

theorem lex_start (escapes : Escapes escape) (tag : Text) (attributes : Attributes)
    (named : Named tag) (keys : ∀ entry ∈ attributes, Named entry.1) (rest : Text) :
    lex ('<' :: (tag ++ attributes.flatMap (attributeText escape) ++ '>' :: rest)) =
      (lex rest).map (.start tag attributes :: ·) := by
  have free : '>' ∉ tag ++ attributes.flatMap (attributeText escape) := by
    rw [List.mem_append, not_or]
    exact ⟨named.other '>' (by decide), attributes_unmarked escapes attributes keys⟩
  have opening : stripPrefix (tag ++ attributes.flatMap (attributeText escape)) "/" = none := by
    cases shape : tag with
    | nil => exact absurd shape named.present
    | cons char more =>
        have other : char ≠ '/' := by
          rintro rfl
          exact named.other '/' (by decide) (shape ▸ List.mem_cons_self)
        simp [stripPrefix, startsWith, List.isPrefixOf, Ne.symm other]
  rw [lex_tag _ rest free, readTag, opening]
  dsimp only
  rw [start_read escapes tag attributes named keys]
  rfl

theorem lex_finish (tag : Text) (named : Named tag) (rest : Text) :
    lex ('<' :: '/' :: (tag ++ '>' :: rest)) = (lex rest).map (.finish tag :: ·) := by
  have free : '>' ∉ '/' :: tag := by
    rw [List.mem_cons, not_or]
    exact ⟨by decide, named.other '>' (by decide)⟩
  have closing : stripPrefix ('/' :: tag) "/" = some tag := by
    simp [stripPrefix, startsWith, List.isPrefixOf]
  have tagged := lex_tag ('/' :: tag) rest free
  rw [readTag, closing] at tagged
  exact tagged

/-- A text ends where markup begins or nothing is left. -/
def Ended (rest : Text) : Prop := ∀ char ∈ rest.head?, char = '<'

theorem lex_chars (escapes : Escapes escape) (chars rest : Text) (present : chars ≠ [])
    (ended : Ended rest) :
    lex (spell escape chars ++ rest) = (lex rest).map (.chars chars :: ·) := by
  have free : '<' ∉ spell escape chars := fun inside =>
    (spell_unmarked escapes chars '<' inside).1 rfl
  have cut : (spell escape chars ++ rest).takeWhile (· != '<') = spell escape chars ∧
      (spell escape chars ++ rest).dropWhile (· != '<') = rest := by
    cases rest with
    | nil =>
        rw [List.append_nil]
        exact cut_whole _ '<' free
    | cons first more =>
        rw [ended first rfl]
        exact cut_mark _ more '<' free
  cases shape : spell escape chars with
  | nil => exact absurd shape (spell_present escapes chars present)
  | cons first more =>
      rw [shape, List.mem_cons, not_or] at free
      rw [shape, List.cons_append, List.takeWhile_cons_of_pos (by simpa using Ne.symm free.1),
        List.dropWhile_cons_of_pos (by simpa using Ne.symm free.1)] at cut
      have back := spell_read escapes chars
      rw [List.cons_append, lex, if_neg (Ne.symm free.1), cut.2, cut.1, ← shape, back]
      rfl

theorem write_ended {nodes : List Node} (proper : Proper nodes)
    (apart : nodes.head?.map isText ≠ some true) (rest : Text) (ended : Ended rest) :
    Ended (writeAll escape nodes ++ rest) := by
  cases proper with
  | nil => exact ended
  | text present _ later => exact absurd rfl apart
  | element named keys inside later =>
      intro char first
      rw [writeAll, Node.write] at first
      simpa using first.symm

theorem lexed (escapes : Escapes escape) {nodes : List Node} (proper : Proper nodes) (rest : Text)
    (ended : Ended rest) :
    lex (writeAll escape nodes ++ rest) = (lex rest).map (allTokens nodes ++ ·) := by
  induction proper generalizing rest with
  | nil => simp [writeAll, allTokens]
  | text present apart later ih =>
      rw [writeAll, Node.write, List.append_assoc,
        lex_chars escapes _ _ present (write_ended later apart rest ended), ih rest ended,
        allTokens, Node.tokens]
      simp [Function.comp_def]
  | @element tag attributes children others named keys inside later ihInside ihLater =>
      have shape : writeAll escape (.element tag attributes children :: others) ++ rest =
          '<' :: (tag ++ attributes.flatMap (attributeText escape) ++ '>' ::
            (writeAll escape children ++ '<' :: '/' :: (tag ++ '>' ::
              (writeAll escape others ++ rest)))) := by
        simp [writeAll, Node.write]
      have closing : Ended ('<' :: '/' :: (tag ++ '>' :: (writeAll escape others ++ rest))) := by
        intro char first
        exact (Option.some.inj first).symm
      rw [shape, lex_start escapes tag attributes named keys, ihInside _ closing,
        lex_finish tag named, ihLater rest ended, allTokens, Node.tokens]
      simp [Function.comp_def]

/-- What is written of proper nodes is read back. -/
theorem read_written (escapes : Escapes escape) (nodes : List Node) (proper : Proper nodes) :
    read (writeAll escape nodes) = some nodes := by
  have tokens := lexed escapes proper [] nofun
  rw [List.append_nil, lex, Option.map_some, List.append_nil] at tokens
  have whole := assembled proper [] [] []
  rw [List.append_nil, List.nil_append] at whole
  rw [read, tokens]
  exact whole

end RoundTrip

end Dnsix.Markup
