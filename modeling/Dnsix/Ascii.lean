import Mathlib.Data.List.DropRight
import Mathlib.Data.Nat.Digits.Lemmas

/-!
Texts as lists of characters, with the string operations the resolver uses on
host names and addresses.
-/

namespace Dnsix.Ascii

abbrev Text := List Char

instance : Coe String Text := ⟨String.toList⟩

def toAsciiLowercase (text : Text) : Text := text.map Char.toLower

def eqIgnoreAsciiCase (left right : Text) : Bool :=
  toAsciiLowercase left == toAsciiLowercase right

def trimEndMatches (char : Char) (text : Text) : Text := text.rdropWhile (· == char)

def split (separator : Char) (text : Text) : List Text := text.splitOn separator

def join (separator : Text) (parts : List Text) : Text := separator.intercalate parts

def contains (text pattern : Text) : Bool := decide (pattern <:+: text)

def startsWith (text pattern : Text) : Bool := pattern.isPrefixOf text

def stripPrefix (text pattern : Text) : Option Text :=
  if startsWith text pattern then some (text.drop pattern.length) else none

def splitOnce (separator : Char) (text : Text) : Option (Text × Text) :=
  if separator ∈ text then
    some (text.takeWhile (· != separator), (text.dropWhile (· != separator)).drop 1)
  else none

/-- The characters with the White_Space property. -/
def isWhitespace (char : Char) : Bool :=
  let code := char.toNat
  (decide (9 ≤ code) && decide (code ≤ 13)) || code == 32 || code == 0x85 || code == 0xa0 ||
    code == 0x1680 || (decide (0x2000 ≤ code) && decide (code ≤ 0x200a)) || code == 0x2028 ||
    code == 0x2029 || code == 0x202f || code == 0x205f || code == 0x3000

def trim (text : Text) : Text := (text.dropWhile isWhitespace).rdropWhile isWhitespace

def splitWhitespace (text : Text) : List Text :=
  (text.splitOnP isWhitespace).filter fun token => !token.isEmpty

def stripCarriageReturn (line : Text) : Text :=
  if line.getLast? == some '\r' then line.dropLast else line

/-- Only a terminated line loses its carriage return, and a last empty piece is no
line. -/
def lines (text : Text) : List Text :=
  let parts := split '\n' text
  parts.dropLast.map stripCarriageReturn ++
    (parts.getLast?.filter fun last => !last.isEmpty).toList

def toDigit (radix : Nat) (char : Char) : Option Nat :=
  let digit :=
    if '0' ≤ char ∧ char ≤ '9' then char.toNat - '0'.toNat
    else if 'a' ≤ char ∧ char ≤ 'z' then char.toNat - 'a'.toNat + 10
    else if 'A' ≤ char ∧ char ≤ 'Z' then char.toNat - 'A'.toNat + 10
    else radix
  if digit < radix then some digit else none

/-- An unsigned integer below `limit`, with an optional plus sign. -/
def parseUnsigned (radix limit : Nat) (text : Text) : Option Nat := do
  let digits := (stripPrefix text "+").getD text
  if digits.isEmpty then none
  else
    let values ← digits.mapM (toDigit radix)
    let number := values.foldl (fun number digit => number * radix + digit) 0
    if number < limit then some number else none

/-- The decimal digits of a number, read in base sixteen. -/
def decimalAsHex (number : Nat) : Nat := Nat.ofDigits 16 (Nat.digits 10 number)

theorem trimmed_last (char : Char) (text : Text) :
    (trimEndMatches char text).getLast? ≠ some char := by
  intro last
  have present : trimEndMatches char text ≠ [] := by
    intro empty
    rw [empty] at last
    cases last
  rw [List.getLast?_eq_some_getLast present, Option.some.injEq] at last
  exact List.rdropWhile_last_not _ _ present (beq_iff_eq.mpr last)

theorem split_ne_nil (separator : Char) (text : Text) : split separator text ≠ [] :=
  List.splitOnP_ne_nil _ text

theorem split_length_pos (separator : Char) (text : Text) : 0 < (split separator text).length :=
  List.length_pos_of_ne_nil (split_ne_nil separator text)

theorem split_cons (separator char : Char) (rest : Text) :
    split separator (char :: rest) =
      if char = separator then [] :: split separator rest
      else (split separator rest).modifyHead (char :: ·) := by
  unfold split
  rw [List.splitOn_cons_eq_if_modifyHead]
  simp only [beq_iff_eq]

theorem split_append (separator : Char) (front back : Text) :
    split separator (front ++ separator :: back) = split separator front ++ split separator back :=
  List.splitOn_append_cons_self front back

theorem split_whole (separator : Char) (text : Text) (none : separator ∉ text) :
    split separator text = [text] := List.splitOn_eq_singleton none

theorem split_prepend (separator : Char) (front rest : Text) (none : separator ∉ front) :
    split separator (front ++ rest) = (split separator rest).modifyHead (front ++ ·) := by
  induction front with
  | nil =>
      rw [List.nil_append]
      cases split separator rest <;> rfl
  | cons char more ih =>
      rw [List.mem_cons, not_or] at none
      rw [List.cons_append, split_cons, if_neg (Ne.symm none.1), ih none.2]
      cases split separator rest <;> rfl

theorem join_split (separator : Char) (text : Text) :
    join [separator] (split separator text) = text := List.intercalate_splitOn separator

theorem split_injective (separator : Char) : Function.Injective (split separator) := by
  intro left right same
  rw [← join_split separator left, same, join_split]

theorem separator_not_in_part (separator : Char) (text : Text) :
    ∀ part ∈ split separator text, separator ∉ part := by
  induction text with
  | nil =>
      intro part listed
      rw [List.mem_singleton.mp listed]
      exact List.not_mem_nil
  | cons char rest ih =>
      rw [split_cons]
      cases parts : split separator rest with
      | nil => exact absurd parts (split_ne_nil separator rest)
      | cons head tail =>
          rw [parts] at ih
          split
          · intro part listed
            rcases List.mem_cons.mp listed with rfl | later
            · exact List.not_mem_nil
            · exact ih part later
          · rename_i other
            intro part listed
            rcases List.mem_cons.mp listed with rfl | later
            · intro inside
              rcases List.mem_cons.mp inside with same | deeper
              · exact other same.symm
              · exact ih head List.mem_cons_self deeper
            · exact ih part (List.mem_cons_of_mem head later)

theorem part_mem (separator : Char) (text : Text) :
    ∀ part ∈ split separator text, ∀ char ∈ part, char ∈ text := by
  induction text with
  | nil =>
      intro part listed char inside
      rw [List.mem_singleton.mp listed] at inside
      cases inside
  | cons first rest ih =>
      rw [split_cons]
      cases parts : split separator rest with
      | nil => exact absurd parts (split_ne_nil separator rest)
      | cons head tail =>
          rw [parts] at ih
          intro part listed char inside
          split at listed
          · rcases List.mem_cons.mp listed with rfl | later
            · cases inside
            · exact List.mem_cons_of_mem first (ih part later char inside)
          · rcases List.mem_cons.mp listed with rfl | later
            · rcases List.mem_cons.mp inside with rfl | deeper
              · exact List.mem_cons_self
              · exact List.mem_cons_of_mem first (ih head List.mem_cons_self char deeper)
            · exact List.mem_cons_of_mem first
                (ih part (List.mem_cons_of_mem head later) char inside)

/-- A joined text splits into the pieces of its parts. -/
theorem split_join (separator : Char) (parts : List Text) (present : parts ≠ []) :
    split separator (join [separator] parts) = parts.flatMap (split separator) := by
  induction parts with
  | nil => exact absurd rfl present
  | cons first rest ih =>
      cases rest with
      | nil => simp [join]
      | cons second others =>
          have joined : join [separator] (first :: second :: others) =
              first ++ separator :: join [separator] (second :: others) := by
            simp [join, List.intercalate_cons_cons]
          rw [joined, split_append, ih (List.cons_ne_nil second others)]
          rfl

theorem mem_join (separator : Char) (parts : List Text) (char : Char)
    (inside : char ∈ join [separator] parts) :
    char = separator ∨ ∃ part ∈ parts, char ∈ part := by
  induction parts with
  | nil => cases inside
  | cons first rest ih =>
      cases rest with
      | nil =>
          have alone : join [separator] [first] = first := by simp [join]
          rw [alone] at inside
          exact .inr ⟨first, List.mem_cons_self, inside⟩
      | cons second others =>
          have joined : join [separator] (first :: second :: others) =
              first ++ separator :: join [separator] (second :: others) := by
            simp [join, List.intercalate_cons_cons]
          rw [joined, List.mem_append, List.mem_cons] at inside
          rcases inside with front | mark | back
          · exact .inr ⟨first, List.mem_cons_self, front⟩
          · exact .inl mark
          · rcases ih back with mark | ⟨part, listed, deeper⟩
            · exact .inl mark
            · exact .inr ⟨part, List.mem_cons_of_mem first listed, deeper⟩

/-- A character is a separator or stands in a part. -/
theorem char_cases (separator : Char) (text : Text) (char : Char) (inside : char ∈ text) :
    char = separator ∨ ∃ part ∈ split separator text, char ∈ part :=
  mem_join separator (split separator text) char (by rwa [join_split])

theorem to_lower_cases (char : Char) :
    (char.isUpper = false ∧ char.toLower = char) ∨
      (char.isUpper = true ∧ char.toLower.isLower = true) := by
  by_cases within : char.val ≥ 'A'.val ∧ char.val ≤ 'Z'.val
  · refine .inr ⟨decide_eq_true within, ?_⟩
    have lowered : char.toLower.val = char.val + ('a'.val - 'A'.val) :=
      congrArg Char.val (dif_pos within)
    have low : char.toLower.val ≥ 'a'.val ∧ char.toLower.val ≤ 'z'.val := by
      rw [lowered]
      grind [UInt32.le_iff_toNat_le, UInt32.toNat_add]
    exact Bool.and_eq_true_iff.mpr ⟨decide_eq_true low.1, decide_eq_true low.2⟩
  · exact .inl ⟨decide_eq_false within, dif_neg within⟩

theorem to_lower_eq_iff (char mark : Char) (plain : mark.isAlpha = false) :
    char.toLower = mark ↔ char = mark := by
  have both := Bool.or_eq_false_iff.mp plain
  rcases to_lower_cases char with ⟨_, same⟩ | ⟨upper, lower⟩
  · rw [same]
  · constructor
    · rintro rfl
      rw [lower] at both
      cases both.2
    · rintro rfl
      rw [upper] at both
      cases both.1

theorem to_lower_alphanum (char : Char) : char.toLower.isAlphanum = char.isAlphanum := by
  rcases to_lower_cases char with ⟨_, same⟩ | ⟨upper, lower⟩
  · rw [same]
  · have low : char.toLower.isAlpha = true := Bool.or_eq_true_iff.mpr (.inr lower)
    have high : char.isAlpha = true := Bool.or_eq_true_iff.mpr (.inl upper)
    simp only [Char.isAlphanum, low, high, Bool.true_or]

theorem split_lowercase (text : Text) :
    split '.' (toAsciiLowercase text) = (split '.' text).map toAsciiLowercase := by
  induction text with
  | nil => rfl
  | cons char rest ih =>
      have lowered : toAsciiLowercase (char :: rest) = char.toLower :: toAsciiLowercase rest := rfl
      rw [lowered, split_cons, split_cons, ih]
      simp only [to_lower_eq_iff char '.' rfl]
      split
      · rfl
      · cases split '.' rest <;> rfl

theorem decimal_as_hex_injective : Function.Injective decimalAsHex := by
  have back : ∀ number, Nat.digits 16 (decimalAsHex number) = Nat.digits 10 number := by
    intro number
    apply Nat.digits_ofDigits 16 (by decide)
    · intro digit listed
      exact (Nat.digits_lt_base (by decide) listed).trans (by decide)
    · intro present
      exact Nat.getLast_digit_ne_zero 10 (Nat.digits_ne_nil_iff_ne_zero.mp present)
  intro left right same
  have digits := (back left).symm.trans ((congrArg (Nat.digits 16) same).trans (back right))
  exact Nat.digits_inj_iff.mp digits

theorem decimal_as_hex_lt (number : Nat) (small : number < 10000) :
    decimalAsHex number < 65536 := by
  have short : (Nat.digits 10 number).length ≤ 4 :=
    (Nat.digits_length_le_iff (by decide) number).mpr small
  have below : decimalAsHex number < 16 ^ (Nat.digits 10 number).length :=
    Nat.ofDigits_lt_base_pow_length (by decide) fun digit listed =>
      (Nat.digits_lt_base (by decide) listed).trans (by decide)
  exact below.trans_le (Nat.pow_le_pow_right (by decide) short)

/-! Digits. -/
section Digits

theorem digit_range (char : Char) : char.isDigit = true ↔ '0' ≤ char ∧ char ≤ '9' := by
  simp only [Char.isDigit, Bool.and_eq_true, decide_eq_true_eq]
  rfl

theorem lower_range (char : Char) : char.isLower = true ↔ 'a' ≤ char ∧ char ≤ 'z' :=
  Bool.and_eq_true_iff.trans (and_congr decide_eq_true_iff decide_eq_true_iff)

theorem upper_range (char : Char) : char.isUpper = true ↔ 'A' ≤ char ∧ char ≤ 'Z' :=
  decide_eq_true_iff

theorem alphanum_cases (char : Char) :
    char.isAlphanum = true ↔
      (char.isUpper = true ∨ char.isLower = true) ∨ char.isDigit = true :=
  Bool.or_eq_true_iff.trans (or_congr_left Bool.or_eq_true_iff)

theorem decimal_iff (char : Char) : (toDigit 10 char).isSome ↔ char.isDigit = true := by
  rw [digit_range]
  unfold toDigit
  dsimp only
  by_cases digit : '0' ≤ char ∧ char ≤ '9'
  · have small : char.toNat ≤ '9'.toNat := digit.2
    rw [if_pos digit, if_pos (by simp at small ⊢; omega)]
    simp [digit]
  · rw [if_neg digit]
    simp only [digit, iff_false]
    split
    · simp
    · split <;> simp

theorem digit_alphanum (radix : Nat) (char : Char) (digit : (toDigit radix char).isSome) :
    char.isAlphanum = true := by
  unfold toDigit at digit
  dsimp only at digit
  split at digit
  · rename_i within
    exact (alphanum_cases char).mpr (.inr ((digit_range char).mpr within))
  split at digit
  · rename_i within
    exact (alphanum_cases char).mpr (.inl (.inr ((lower_range char).mpr within)))
  split at digit
  · rename_i within
    exact (alphanum_cases char).mpr (.inl (.inl ((upper_range char).mpr within)))
  · simp at digit

theorem decimal_hexadecimal (char : Char) (decimal : (toDigit 10 char).isSome) :
    (toDigit 16 char).isSome := by
  have range := (digit_range char).mp ((decimal_iff char).mp decimal)
  have small : char.toNat ≤ '9'.toNat := range.2
  unfold toDigit
  dsimp only
  rw [if_pos range, if_pos (by simp at small ⊢; omega)]
  rfl

end Digits

/-! A text cut once. -/
section Cutting

theorem split_once_append (separator : Char) (front back : Text) (absent : separator ∉ front) :
    splitOnce separator (front ++ separator :: back) = some (front, back) := by
  have other : ∀ char ∈ front, (char != separator) = true := by
    intro char inside
    rw [bne_iff_ne]
    rintro rfl
    exact absent inside
  simp [splitOnce, List.takeWhile_append_of_pos other, List.dropWhile_append_of_pos other]

theorem split_once_some (separator : Char) (text front back : Text)
    (cut : splitOnce separator text = some (front, back)) : text = front ++ separator :: back := by
  unfold splitOnce at cut
  split at cut
  · rename_i present
    cases cut
    induction text with
    | nil => cases present
    | cons char rest ih =>
        by_cases same : char = separator
        · simp [same]
        · have later := (List.mem_cons.mp present).resolve_left (Ne.symm same)
          simp only [List.takeWhile_cons, List.dropWhile_cons, bne_iff_ne.mpr same, if_true,
            List.cons_append]
          exact congrArg (char :: ·) (ih later)
  · cases cut

theorem split_once_front (separator : Char) (text front back : Text)
    (cut : splitOnce separator text = some (front, back)) : separator ∉ front := by
  unfold splitOnce at cut
  split at cut
  · cases cut
    intro inside
    have other := List.mem_takeWhile_imp inside
    simp at other
  · cases cut

theorem split_once_none (separator : Char) (text : Text) :
    splitOnce separator text = none ↔ separator ∉ text := by
  unfold splitOnce
  split <;> simp_all

end Cutting

/-! Words and the whitespace around them. -/
section Words

theorem words_append (front back : Text) (char : Char) (blank : isWhitespace char = true) :
    splitWhitespace (front ++ char :: back) = splitWhitespace front ++ splitWhitespace back := by
  rw [splitWhitespace, List.splitOnP_append_cons front back blank, List.filter_append]
  rfl

theorem words_blank (char : Char) (rest : Text) (blank : isWhitespace char = true) :
    splitWhitespace (char :: rest) = splitWhitespace rest := words_append [] rest char blank

theorem words_blank_end (front : Text) (char : Char) (blank : isWhitespace char = true) :
    splitWhitespace (front ++ [char]) = splitWhitespace front := by
  rw [words_append front [] char blank]
  exact List.append_nil _

theorem words_gap (front space back : Text) (gap : space ≠ [])
    (blank : ∀ char ∈ space, isWhitespace char = true) :
    splitWhitespace (front ++ space ++ back) = splitWhitespace front ++ splitWhitespace back := by
  induction space generalizing front with
  | nil => exact absurd rfl gap
  | cons char rest ih =>
      rw [List.forall_mem_cons] at blank
      cases rest with
      | nil => rw [List.append_assoc, List.singleton_append, words_append front back char blank.1]
      | cons next more =>
          have moved := ih (front ++ [char]) (List.cons_ne_nil next more) blank.2
          rwa [words_blank_end front char blank.1, List.append_assoc front] at moved

/-- A text whose first character is no whitespace starts with a word. -/
theorem words_head (first : Char) (rest : Text) (dark : isWhitespace first = false) :
    ∃ more others, splitWhitespace (first :: rest) = (first :: more) :: others := by
  have cut : (first :: rest).splitOnP isWhitespace =
      (rest.splitOnP isWhitespace).modifyHead (first :: ·) := by
    rw [List.splitOnP_cons_eq_if_modifyHead, if_neg (by simp [dark])]
  rw [splitWhitespace, cut]
  cases pieces : rest.splitOnP isWhitespace with
  | nil => exact absurd pieces (List.splitOnP_ne_nil _ rest)
  | cons head others => exact ⟨head, others.filter fun token => !token.isEmpty, rfl⟩

theorem words_trim (text : Text) : splitWhitespace (trim text) = splitWhitespace text := by
  have front : ∀ text : Text,
      splitWhitespace (text.dropWhile isWhitespace) = splitWhitespace text := by
    intro text
    induction text with
    | nil => rfl
    | cons char rest ih =>
        cases blank : isWhitespace char with
        | true => rw [List.dropWhile_cons_of_pos blank, ih, words_blank char rest blank]
        | false => rw [List.dropWhile_cons_of_neg (by simp [blank])]
  have back : ∀ text : Text,
      splitWhitespace (text.rdropWhile isWhitespace) = splitWhitespace text := by
    intro text
    induction text using List.reverseRecOn with
    | nil => rfl
    | append_singleton rest char ih =>
        cases blank : isWhitespace char with
        | true =>
            rw [List.rdropWhile_concat_pos _ _ _ blank, ih, words_blank_end rest char blank]
        | false => rw [List.rdropWhile_concat_neg _ _ _ (by simp [blank])]
  rw [trim, back, front]

theorem trim_head (text : Text) (first : Char) (rest : Text) (shape : trim text = first :: rest) :
    isWhitespace first = false := by
  obtain ⟨more, kept⟩ : trim text <+: text.dropWhile isWhitespace := List.rdropWhile_prefix _ _
  rw [shape, List.cons_append] at kept
  have dark := List.head?_dropWhile_not isWhitespace text
  rw [← kept] at dark
  simpa using dark

/-- The first word begins the trimmed text. -/
theorem trim_words (text : Text) (first : Char) (more : Text) (rest : List Text)
    (words : splitWhitespace text = (first :: more) :: rest) :
    ∃ others, trim text = first :: others := by
  rw [← words_trim] at words
  cases shape : trim text with
  | nil =>
      rw [shape] at words
      cases words
  | cons char others =>
      obtain ⟨tail, behind, same⟩ := words_head char others (trim_head text char others shape)
      rw [shape, same] at words
      cases words
      exact ⟨others, rfl⟩

/-- Trimming takes nothing but what it trims. -/
theorem mem_rdropWhile (blank : Char → Bool) (text : Text) (char : Char)
    (dark : blank char = false) : char ∈ text.rdropWhile blank ↔ char ∈ text := by
  induction text using List.reverseRecOn with
  | nil => rfl
  | append_singleton rest last ih =>
      cases ending : blank last with
      | true =>
          have other : char ≠ last := by
            rintro rfl
            rw [ending] at dark
            cases dark
          rw [List.rdropWhile_concat_pos _ _ _ ending, ih]
          simp [other]
      | false => rw [List.rdropWhile_concat_neg _ _ _ (by simp [ending])]

theorem mem_dropWhile (blank : Char → Bool) (text : Text) (char : Char)
    (dark : blank char = false) : char ∈ text.dropWhile blank ↔ char ∈ text := by
  induction text with
  | nil => rfl
  | cons first rest ih =>
      cases starting : blank first with
      | true =>
          have other : char ≠ first := by
            rintro rfl
            rw [starting] at dark
            cases dark
          rw [List.dropWhile_cons_of_pos starting, ih]
          simp [other]
      | false => rw [List.dropWhile_cons_of_neg (by simp [starting])]

theorem mem_trim (text : Text) (char : Char) (dark : isWhitespace char = false) :
    char ∈ trim text ↔ char ∈ text := by
  rw [trim, mem_rdropWhile isWhitespace _ char dark, mem_dropWhile isWhitespace text char dark]

end Words

/-! Whitespace around a text. -/
section Padding

def Blank (space : Text) : Prop := ∀ char ∈ space, isWhitespace char = true

theorem drop_blank (front text : Text) (blank : Blank front) :
    (front ++ text).dropWhile isWhitespace = text.dropWhile isWhitespace := by
  induction front with
  | nil => rfl
  | cons char rest ih =>
      obtain ⟨here, later⟩ := List.forall_mem_cons.mp blank
      rw [List.cons_append, List.dropWhile_cons_of_pos here, ih later]

theorem rdrop_blank (text back : Text) (blank : Blank back) :
    (text ++ back).rdropWhile isWhitespace = text.rdropWhile isWhitespace := by
  have turned : Blank back.reverse := fun char inside => blank char (List.mem_reverse.mp inside)
  rw [List.rdropWhile, List.rdropWhile, List.reverse_append, drop_blank _ _ turned]

/-- A text of at least one character, none of them whitespace at either end. -/
structure Trimmed (text : Text) : Prop where
  first : ∃ char rest, text = char :: rest ∧ isWhitespace char = false
  last : ∀ char, text.getLast? = some char → isWhitespace char = false

theorem trim_padded (front text back : Text) (leading : Blank front) (trailing : Blank back)
    (trimmed : Trimmed text) : trim (front ++ text ++ back) = text := by
  obtain ⟨char, rest, rfl, dark⟩ := trimmed.first
  rw [trim, List.append_assoc, drop_blank front _ leading, List.cons_append,
    List.dropWhile_cons_of_neg (by simp [dark]), ← List.cons_append, rdrop_blank _ back trailing,
    List.rdropWhile_eq_self_iff]
  intro present blank
  rw [trimmed.last _ (List.getLast?_eq_some_getLast present)] at blank
  cases blank

/-- Trimming finds nothing to take off a word. -/
theorem trim_trimmed (text : Text) (trimmed : Trimmed text) : trim text = text := by
  have padded := trim_padded [] text [] (fun _ impossible => nomatch impossible)
    (fun _ impossible => nomatch impossible) trimmed
  rwa [List.nil_append, List.append_nil] at padded

theorem words_padded (front text back : Text) (leading : Blank front) (trailing : Blank back) :
    splitWhitespace (front ++ text ++ back) = splitWhitespace text := by
  have before : splitWhitespace (front ++ text) = splitWhitespace text := by
    by_cases empty : front = []
    · rw [empty, List.nil_append]
    · exact words_gap [] front text empty leading
  have behind : splitWhitespace (front ++ text ++ back) = splitWhitespace (front ++ text) := by
    by_cases empty : back = []
    · rw [empty, List.append_nil]
    · have parted := words_gap (front ++ text) back [] empty trailing
      rw [List.append_nil] at parted
      rw [parted]
      exact List.append_nil _
  rw [behind, before]

theorem dark_trimmed (word : Text) (present : word ≠ [])
    (dark : ∀ char ∈ word, isWhitespace char = false) : Trimmed word := by
  constructor
  · cases word with
    | nil => exact absurd rfl present
    | cons char rest => exact ⟨char, rest, rfl, dark char List.mem_cons_self⟩
  · exact fun char last => dark char (List.mem_of_getLast? last)

theorem words_single (word : Text) (present : word ≠ [])
    (dark : ∀ char ∈ word, isWhitespace char = false) : splitWhitespace word = [word] := by
  have whole : word.splitOnP isWhitespace = [word] :=
    List.splitOnP_eq_singleton fun char inside => by simp [dark char inside]
  simpa [splitWhitespace, whole] using present

/-- The codes of the ASCII letters and digits. -/
theorem alphanum_range (char : Char) (known : char.isAlphanum = true) :
    (48 ≤ char.toNat ∧ char.toNat ≤ 57) ∨ (65 ≤ char.toNat ∧ char.toNat ≤ 90) ∨
      (97 ≤ char.toNat ∧ char.toNat ≤ 122) := by
  have ordered : ∀ first last : Char, first ≤ char ∧ char ≤ last →
      first.toNat ≤ char.toNat ∧ char.toNat ≤ last.toNat := fun _ _ within => within
  rcases (alphanum_cases char).mp known with (upper | lower) | digit
  · exact .inr (.inl (ordered 'A' 'Z' ((upper_range char).mp upper)))
  · exact .inr (.inr (ordered 'a' 'z' ((lower_range char).mp lower)))
  · exact .inl (ordered '0' '9' ((digit_range char).mp digit))

theorem alphanum_dark (char : Char) (known : char.isAlphanum = true) :
    isWhitespace char = false := by
  have range := alphanum_range char known
  simp only [isWhitespace, Bool.or_eq_false_iff, Bool.and_eq_false_iff, decide_eq_false_iff_not,
    beq_eq_false_iff_ne]
  omega

end Padding

end Dnsix.Ascii
