import Dnsix.Ascii
import Mathlib.Data.List.Nodup

/-!
The text exposition of counters, version 0.0.4: families of samples, each behind a line of
help and a line with its type. A sample is a metric name, labels and a value. What is
written from families of plain names and labels reads back as these families; escapes in
label values and timestamps are not read.
-/

namespace Dnsix.Exposition
open Ascii

abbrev Labels := List (Text × Text)

/-- What tells one time series from another. -/
structure Series where
  name : Text
  labels : Labels
  deriving DecidableEq

structure Sample where
  series : Series
  value : Nat
  deriving DecidableEq

structure Family where
  name : Text
  help : Text
  points : List (Labels × Nat)
  deriving DecidableEq

def Family.samples (family : Family) : List Sample :=
  family.points.map fun point => ⟨⟨family.name, point.1⟩, point.2⟩

/-! Writing. -/
section Writing

def quote : Char := '\x22'

def labelText (label : Text × Text) : Text := label.1 ++ '=' :: quote :: label.2 ++ [quote]

def labelsText : Labels → Text
  | [] => []
  | labels => '{' :: join [','] (labels.map labelText) ++ ['}']

def Sample.text (sample : Sample) : Text :=
  sample.series.name ++ labelsText sample.series.labels ++ ' ' :: Nat.toDigits 10 sample.value

def helpMark : Text := ['#', ' ', 'H', 'E', 'L', 'P', ' ']

def typeMark : Text := ['#', ' ', 'T', 'Y', 'P', 'E', ' ']

def counterMark : Text := [' ', 'c', 'o', 'u', 'n', 't', 'e', 'r']

def helpLine (name help : Text) : Text := helpMark ++ name ++ ' ' :: help

def typeLine (name : Text) : Text := typeMark ++ name ++ counterMark

def Family.lines (family : Family) : List Text :=
  helpLine family.name family.help :: typeLine family.name :: family.samples.map Sample.text

def writeln (line : Text) : Text := line ++ ['\n']

def Family.text (family : Family) : Text := family.lines.flatMap writeln

end Writing

/-! Reading. -/
section Reading

def nameChar (char : Char) : Bool := char.isAlphanum || char == '_' || char == ':'

def bareChar (char : Char) : Bool :=
  !(['\n', '\\', quote, ',', '}'].contains char)

def readValue (digits : Text) : Option Nat :=
  if digits ≠ [] ∧ digits.all Char.isDigit then some (Nat.ofDigitChars 10 digits 0) else none

def readLabel (text : Text) : Option (Text × Text) := do
  let (name, quoted) ← splitOnce '=' text
  if quoted.head? = some quote ∧ 2 ≤ quoted.length ∧ quoted.getLast? = some quote then
    some (name, quoted.tail.dropLast)
  else none

def readSample (line : Text) : Option Sample :=
  let name := line.takeWhile nameChar
  match line.dropWhile nameChar with
  | '{' :: rest => do
      let (inside, behind) ← splitOnce '}' rest
      let labels ← (split ',' inside).mapM readLabel
      match behind with
      | ' ' :: digits => some ⟨⟨name, labels⟩, ← readValue digits⟩
      | _ => none
  | ' ' :: digits => do some ⟨⟨name, []⟩, ← readValue digits⟩
  | _ => none

def readHelp (line : Text) : Option (Text × Text) := do
  splitOnce ' ' (← stripPrefix line helpMark)

def comment (line : Text) : Bool := line.head? == some '#'

/-- Every family stands in one piece, and all its samples have its name. -/
def readLines : List Text → Option (List Family)
  | [] => some []
  | [_] => none
  | first :: second :: rest => do
      let (name, help) ← readHelp first
      let samples ← (rest.takeWhile fun line => !comment line).mapM readSample
      let more ← readLines (rest.dropWhile fun line => !comment line)
      if second = typeLine name ∧ samples.all fun sample => sample.series.name == name then
        some (⟨name, help, samples.map fun sample => (sample.series.labels, sample.value)⟩ :: more)
      else none
termination_by lines => lines.length
decreasing_by
  have shorter := List.length_dropWhile_le (fun line => !comment line) rest
  simp only [List.length_cons]
  omega

/-- Every line ends with a newline. -/
def read (text : Text) : Option (List Family) :=
  let parts := split '\n' text
  if parts.getLast? = some [] then readLines parts.dropLast else none

end Reading

/-- A label that needs no escapes. -/
def Plain (label : Text × Text) : Prop :=
  label.1.all nameChar = true ∧ label.2.all bareChar = true

/-- A name and a help that fit on a line, and plain labels. -/
structure Family.Proper (family : Family) : Prop where
  present : family.name ≠ []
  name : family.name.all nameChar = true
  help : family.help.all (· != '\n') = true
  labels : ∀ point ∈ family.points, ∀ label ∈ point.1, Plain label

theorem other_mem (allowed : Char → Bool) (text : Text) (all : text.all allowed = true)
    (mark : Char) (other : allowed mark = false) : mark ∉ text := by
  intro inside
  have good := List.all_eq_true.mp all mark inside
  rw [other] at good
  cases good

/-! What is written reads back. -/
section RoundTrip

theorem value_read (value : Nat) : readValue (Nat.toDigits 10 value) = some value := by
  have digits : (Nat.toDigits 10 value).all Char.isDigit = true :=
    List.all_eq_true.mpr fun char inside =>
      Nat.isDigit_of_mem_toDigits (by decide) (by decide) inside
  rw [readValue, if_pos ⟨Nat.toDigits_ne_nil, digits⟩, Nat.ofDigitChars_ten_toDigits]

theorem label_read (label : Text × Text) (name : label.1.all nameChar = true) :
    readLabel (labelText label) = some label := by
  obtain ⟨key, value⟩ := label
  have absent : '=' ∉ key := other_mem nameChar key name '=' (by decide)
  have cut : splitOnce '=' (labelText (key, value)) = some (key, quote :: value ++ [quote]) := by
    rw [labelText, List.append_assoc, List.cons_append]
    exact split_once_append '=' key _ absent
  simp [readLabel, cut, List.getLast?_cons]

theorem labels_read (labels : Labels)
    (names : ∀ label ∈ labels, label.1.all nameChar = true) :
    (labels.map labelText).mapM readLabel = some labels := by
  induction labels with
  | nil => rfl
  | cons first rest ih =>
      rw [List.forall_mem_cons] at names
      rw [List.map_cons, List.mapM_cons, label_read first names.1, ih names.2]
      rfl

/-- A character that is in no name and in no value is in no label, unless it is a mark. -/
theorem label_free (label : Text × Text) (plain : Plain label) (mark : Char)
    (unnamed : nameChar mark = false) (unvalued : bareChar mark = false)
    (apart : mark ≠ '=' ∧ mark ≠ quote) :
    mark ∉ labelText label := by
  have key := other_mem nameChar label.1 plain.1 mark unnamed
  have value := other_mem bareChar label.2 plain.2 mark unvalued
  simp [labelText, key, value, apart]

theorem joined_free (labels : Labels) (plain : ∀ label ∈ labels, Plain label) (mark : Char)
    (unnamed : nameChar mark = false) (unvalued : bareChar mark = false)
    (apart : mark ≠ '=' ∧ mark ≠ quote) (other : mark ≠ ',') :
    mark ∉ join [','] (labels.map labelText) := by
  intro inside
  rcases mem_join ',' (labels.map labelText) mark inside with same | ⟨part, listed, within⟩
  · exact other same
  · obtain ⟨label, present, rfl⟩ := List.mem_map.mp listed
    exact label_free label (plain label present) mark unnamed unvalued apart within

theorem joined_split (labels : Labels) (present : labels ≠ [])
    (plain : ∀ label ∈ labels, Plain label) :
    split ',' (join [','] (labels.map labelText)) = labels.map labelText := by
  refine List.splitOn_intercalate ',' ?_ (by simpa using present)
  intro part listed
  obtain ⟨label, within, rfl⟩ := List.mem_map.mp listed
  exact label_free label (plain label within) ',' (by decide) (by decide) (by decide)

theorem name_cut (name rest : Text) (mark : Char) (plain : name.all nameChar = true)
    (other : nameChar mark = false) :
    (name ++ mark :: rest).takeWhile nameChar = name ∧
      (name ++ mark :: rest).dropWhile nameChar = mark :: rest := by
  have all := List.all_eq_true.mp plain
  constructor
  · simp [List.takeWhile_append_of_pos all, other]
  · simp [List.dropWhile_append_of_pos all, other]

theorem sample_read (sample : Sample) (name : sample.series.name.all nameChar = true)
    (plain : ∀ label ∈ sample.series.labels, Plain label) :
    readSample sample.text = some sample := by
  obtain ⟨⟨key, labels⟩, value⟩ := sample
  dsimp only at name plain
  cases labels with
  | nil =>
      obtain ⟨front, back⟩ := name_cut key (Nat.toDigits 10 value) ' ' name (by decide)
      have shape : Sample.text ⟨⟨key, []⟩, value⟩ = key ++ ' ' :: Nat.toDigits 10 value := by
        simp [Sample.text, labelsText]
      rw [readSample, shape]
      simp [front, back, value_read]
  | cons first rest =>
      have shape : Sample.text ⟨⟨key, first :: rest⟩, value⟩ = key ++ '{' ::
          (join [','] ((first :: rest).map labelText) ++ '}' :: ' ' :: Nat.toDigits 10 value) := by
        simp [Sample.text, labelsText]
      obtain ⟨front, back⟩ := name_cut key
        (join [','] ((first :: rest).map labelText) ++ '}' :: ' ' :: Nat.toDigits 10 value) '{'
        name (by decide)
      have closed := joined_free (first :: rest) plain '}' (by decide) (by decide) (by decide)
        (by decide)
      have cut := split_once_append '}' (join [','] ((first :: rest).map labelText))
        (' ' :: Nat.toDigits 10 value) closed
      have parts := joined_split (first :: rest) (List.cons_ne_nil first rest) plain
      have labels := labels_read (first :: rest) fun label within => (plain label within).1
      rw [readSample, shape]
      simp only [front, back, cut, Option.bind_eq_bind, Option.bind_some, parts, labels,
        value_read]

theorem samples_read (samples : List Sample)
    (plain : ∀ sample ∈ samples, sample.series.name.all nameChar = true ∧
      ∀ label ∈ sample.series.labels, Plain label) :
    (samples.map Sample.text).mapM readSample = some samples := by
  induction samples with
  | nil => rfl
  | cons first rest ih =>
      rw [List.forall_mem_cons] at plain
      rw [List.map_cons, List.mapM_cons, sample_read first plain.1.1 plain.1.2, ih plain.2]
      rfl

theorem help_read (name help : Text) (plain : name.all nameChar = true) :
    readHelp (helpLine name help) = some (name, help) := by
  have spaced : ' ' ∉ name := other_mem nameChar name plain ' ' (by decide)
  have stripped : stripPrefix (helpLine name help) helpMark = some (name ++ ' ' :: help) := by
    rw [stripPrefix, helpLine, List.append_assoc, startsWith, if_pos, List.drop_left]
    exact List.isPrefixOf_iff_prefix.mpr (List.prefix_append _ _)
  rw [readHelp, stripped]
  exact split_once_append ' ' name help spaced

theorem sample_no_comment (sample : Sample) (present : sample.series.name ≠ [])
    (name : sample.series.name.all nameChar = true) : comment sample.text = false := by
  obtain ⟨⟨key, labels⟩, value⟩ := sample
  cases key with
  | nil => exact absurd rfl present
  | cons first rest =>
      have apart : first ≠ '#' := by
        rintro rfl
        exact other_mem nameChar ('#' :: rest) name '#' (by decide) List.mem_cons_self
      have other : (first == '#') = false := beq_false_of_ne apart
      simp only [comment, Sample.text, List.cons_append, List.head?_cons, Option.some_beq_some,
        other]

/-- The lines of one family are taken off the front. -/
theorem family_cut (family : Family) (proper : family.Proper) (others : List Family) :
    (family.samples.map Sample.text ++ others.flatMap Family.lines).takeWhile
        (fun line => !comment line) = family.samples.map Sample.text ∧
      (family.samples.map Sample.text ++ others.flatMap Family.lines).dropWhile
        (fun line => !comment line) = others.flatMap Family.lines := by
  have all : ∀ line ∈ family.samples.map Sample.text, (!comment line) = true := by
    intro line listed
    obtain ⟨sample, within, rfl⟩ := List.mem_map.mp listed
    obtain ⟨point, _, rfl⟩ := List.mem_map.mp within
    rw [sample_no_comment _ proper.present proper.name]
    rfl
  cases others with
  | nil =>
      rw [List.flatMap_nil, List.append_nil]
      exact ⟨List.takeWhile_eq_self_iff.mpr all, List.dropWhile_eq_nil_iff.mpr all⟩
  | cons next more =>
      have marked : comment (helpLine next.name next.help) = true := rfl
      simp [List.takeWhile_append_of_pos all, List.dropWhile_append_of_pos all, Family.lines,
        marked]

theorem lines_read (families : List Family) (proper : ∀ family ∈ families, family.Proper) :
    readLines (families.flatMap Family.lines) = some families := by
  induction families with
  | nil => simp [readLines]
  | cons family others ih =>
      rw [List.forall_mem_cons] at proper
      obtain ⟨taken, left⟩ := family_cut family proper.1 others
      have samples : (family.samples.map Sample.text).mapM readSample = some family.samples := by
        refine samples_read family.samples fun sample listed => ?_
        obtain ⟨point, within, rfl⟩ := List.mem_map.mp listed
        exact ⟨proper.1.name, proper.1.labels point within⟩
      have named : (family.samples.all fun sample => sample.series.name == family.name) = true := by
        simp [Family.samples]
      have points : (family.samples.map fun sample => (sample.series.labels, sample.value)) =
          family.points := by
        simp [Family.samples, Function.comp_def]
      have shape : (family :: others).flatMap Family.lines =
          helpLine family.name family.help :: typeLine family.name ::
            (family.samples.map Sample.text ++ others.flatMap Family.lines) := rfl
      rw [shape, readLines, help_read family.name family.help proper.1.name, taken, left, samples,
        ih proper.2]
      simp only [Option.bind_eq_bind, Option.bind_some, named, points, and_self, if_true]

theorem sample_unbroken (sample : Sample) (name : sample.series.name.all nameChar = true)
    (plain : ∀ label ∈ sample.series.labels, Plain label) : '\n' ∉ sample.text := by
  obtain ⟨⟨key, labels⟩, value⟩ := sample
  have keyFree : '\n' ∉ key := other_mem nameChar key name '\n' (by decide)
  have digitsFree : '\n' ∉ Nat.toDigits 10 value := by
    intro inside
    have digit := Nat.isDigit_of_mem_toDigits (by decide) (by decide) inside
    revert digit
    decide
  cases labels with
  | nil => simp [Sample.text, labelsText, keyFree, digitsFree]
  | cons first rest =>
      have joinedFree := joined_free (first :: rest) plain '\n' (by decide) (by decide) (by decide)
        (by decide)
      simp only [Sample.text, labelsText, List.mem_append, List.mem_cons, List.not_mem_nil,
        keyFree, joinedFree, digitsFree]
      decide

theorem line_unbroken (family : Family) (proper : family.Proper) :
    ∀ line ∈ family.lines, '\n' ∉ line := by
  have name := other_mem nameChar family.name proper.name '\n' (by decide)
  have help := other_mem (· != '\n') family.help proper.help '\n' (by decide)
  intro line listed
  rcases List.mem_cons.mp listed with rfl | later
  · have front : '\n' ∉ helpMark := by decide
    rw [helpLine, List.mem_append, List.mem_append, List.mem_cons]
    simp only [front, name, help]
    decide
  rcases List.mem_cons.mp later with rfl | last
  · have front : '\n' ∉ typeMark := by decide
    have back : '\n' ∉ counterMark := by decide
    rw [typeLine, List.mem_append, List.mem_append]
    simp only [front, name, back, or_self, not_false_eq_true]
  · obtain ⟨sample, within, rfl⟩ := List.mem_map.mp last
    obtain ⟨point, present, rfl⟩ := List.mem_map.mp within
    exact sample_unbroken _ proper.name (proper.labels point present)

theorem text_lines (lines : List Text) (unbroken : ∀ line ∈ lines, '\n' ∉ line) :
    split '\n' (lines.flatMap writeln) = lines ++ [[]] := by
  induction lines with
  | nil => rfl
  | cons first rest ih =>
      rw [List.forall_mem_cons] at unbroken
      have shape : (first :: rest).flatMap writeln = first ++ '\n' :: rest.flatMap writeln := by
        simp [writeln]
      rw [shape, split_append, split_whole '\n' first unbroken.1, ih unbroken.2]
      rfl

/-- What is written reads back. -/
theorem families_read (families : List Family) (proper : ∀ family ∈ families, family.Proper) :
    read (families.flatMap Family.text) = some families := by
  have unbroken : ∀ line ∈ families.flatMap Family.lines, '\n' ∉ line := by
    intro line listed
    obtain ⟨family, within, present⟩ := List.mem_flatMap.mp listed
    exact line_unbroken family (proper family within) line present
  have joined : families.flatMap Family.text = (families.flatMap Family.lines).flatMap writeln := by
    rw [List.flatMap_assoc]
    rfl
  rw [read, joined, text_lines _ unbroken]
  simp [lines_read families proper]

end RoundTrip

/-! Each series once. -/
section Unique

/-- A key that no two items share picks its item. -/
theorem filter_key {Item Key : Type} [DecidableEq Key] (key : Item → Key) (items : List Item)
    (apart : (items.map key).Nodup) (item : Item) (listed : item ∈ items) :
    (items.filter fun other => decide (key other = key item)) = [item] := by
  induction items with
  | nil => cases listed
  | cons first rest ih =>
      rw [List.map_cons, List.nodup_cons] at apart
      rcases List.mem_cons.mp listed with rfl | later
      · have none : (rest.filter fun other => decide (key other = key item)) = [] := by
          rw [List.filter_eq_nil_iff]
          intro other within same
          rw [decide_eq_true_eq] at same
          exact apart.1 (same ▸ List.mem_map_of_mem within)
        rw [List.filter_cons, decide_eq_true rfl, if_pos rfl, none]
      · have other : decide (key first = key item) ≠ true := by
          rw [ne_eq, decide_eq_true_eq]
          intro same
          exact apart.1 (same ▸ List.mem_map_of_mem later)
        rw [List.filter_cons, if_neg other]
        exact ih apart.2 later

def seriesOf (families : List Family) : List Series :=
  (families.flatMap Family.samples).map Sample.series

/-- Where no two families share a name, a series repeats only inside a family. -/
theorem series_nodup_iff (families : List Family) (named : (families.map Family.name).Nodup) :
    (seriesOf families).Nodup ↔ ∀ family ∈ families, (family.points.map Prod.fst).Nodup := by
  have inside : ∀ family : Family, (family.samples.map Sample.series) =
      (family.points.map Prod.fst).map (Series.mk family.name) := by
    intro family
    simp [Family.samples, Function.comp_def]
  have injective : ∀ name, Function.Injective (Series.mk name) := by
    intro name left right same
    exact (Series.mk.inj same).2
  have apart : List.Pairwise (Function.onFun List.Disjoint fun family : Family =>
      family.samples.map Sample.series) families := by
    refine (List.pairwise_map.mp named).imp ?_
    intro left right differ series first second
    dsimp only at first second
    rw [inside] at first second
    obtain ⟨_, _, rfl⟩ := List.mem_map.mp first
    obtain ⟨_, _, same⟩ := List.mem_map.mp second
    exact differ (Series.mk.inj same).1.symm
  unfold seriesOf
  rw [List.map_flatMap, List.nodup_flatMap]
  constructor
  · rintro ⟨each, _⟩ family listed
    have one := each family listed
    rw [inside] at one
    exact one.of_map _
  · intro each
    refine ⟨fun family listed => ?_, apart⟩
    rw [inside]
    exact (each family listed).map (injective family.name)

end Unique

end Dnsix.Exposition
