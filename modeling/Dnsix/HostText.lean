import Dnsix.Presentation

/-!
Labels put together are read back as a name by the DNS library. What a rewrite relies
on there is stated once: host labels within the length limits are a name, and a name
read from labels prints as these labels. A reader of host names is the instance.
-/

namespace Dnsix.HostText
open Ascii Dns Presentation Synth

/-- A label the library prints and reads as it stands. -/
structure HostLabel (label : Text) : Prop where
  present : label ≠ []
  host : Host label
  unhyphened : label.head? ≠ some '-'
  lower : toAsciiLowercase label = label

/-- A label as it is listed, unless an escape was printed in it. -/
structure Unescaped (label : Text) : Prop where
  present : label ≠ []
  whole : '.' ∉ label
  bare : '\\' ∉ label
  lower : toAsciiLowercase label = label

/-- The length limits of a name: 63 octets a label, 255 with every length octet. -/
def Fits (labels : List Text) : Prop :=
  (∀ label ∈ labels, label.length ≤ 63) ∧ (labels.map fun label => label.length + 1).sum < 255

instance (labels : List Text) : Decidable (Fits labels) :=
  inferInstanceAs (Decidable (_ ∧ _))

/-- What is assumed of the library's `from_ascii` beside `to_ascii`. -/
structure Reads (text : NameText) : Prop where
  accepts : ∀ parts, parts ≠ [] → (∀ part ∈ parts, HostLabel part) → Fits parts →
    ∃ name, nameFromLabels text parts = some name
  recovers : ∀ parts name, (∀ part ∈ parts, Unescaped part) →
    nameFromLabels text parts = some name → labels text name = parts
  /-- Host labels at the end are the name's last labels, whatever stands before. -/
  trails : ∀ front back name, (∀ part ∈ back, HostLabel part) →
    nameFromLabels text (front ++ back) = some name → back <:+ labels text name
  /-- Labels taken from a name are read as as many labels. -/
  counts : ∀ source parts name, List.Sublist parts (labels text source) →
    nameFromLabels text parts = some name → (labels text name).length = parts.length

variable {text : NameText}

/-! The labels of a name. -/
section Labels

theorem lowercase_twice (s : Text) :
    toAsciiLowercase (toAsciiLowercase s) = toAsciiLowercase s := by
  have each : ∀ char : Char, char.toLower.toLower = char.toLower := by
    intro char
    rcases to_lower_cases char.toLower with ⟨_, same⟩ | ⟨upper, _⟩
    · exact same
    · rcases to_lower_cases char with ⟨_, same⟩ | ⟨_, lower⟩
      · rw [same, same]
      · have low : char.toLower.val ≥ 'a'.val :=
          of_decide_eq_true (Bool.and_eq_true_iff.mp lower).1
        have high : char.toLower.val ≤ 'Z'.val := (of_decide_eq_true upper).2
        exact absurd (UInt32.le_trans low high) (by decide)
  simp only [toAsciiLowercase, List.map_map]
  exact List.map_congr_left fun char _ => each char

theorem lowercase_dot (s : Text) : '.' ∈ toAsciiLowercase s ↔ '.' ∈ s := by
  rw [toAsciiLowercase, List.mem_map]
  constructor
  · rintro ⟨char, listed, dot⟩
    rwa [(to_lower_eq_iff char '.' rfl).mp dot] at listed
  · exact fun listed => ⟨'.', listed, rfl⟩

/-- What is listed for a name is neither empty nor dotted, and in lower case. -/
theorem labels_listed (name : Name) (label : Text) (listed : label ∈ labels text name) :
    label ≠ [] ∧ '.' ∉ label ∧ toAsciiLowercase label = label := by
  rcases List.mem_map.mp listed with ⟨part, kept, rfl⟩
  rcases List.mem_filter.mp kept with ⟨cut, full⟩
  refine ⟨?_, ?_, lowercase_twice part⟩
  · intro empty
    rw [List.map_eq_nil_iff.mp empty] at full
    cases full
  · rw [lowercase_dot]
    exact separator_not_in_part '.' _ part cut

theorem listed_unescaped (name : Name) (label : Text) (listed : label ∈ labels text name)
    (bare : '\\' ∉ label) : Unescaped label := by
  rcases labels_listed name label listed with ⟨present, whole, lower⟩
  exact ⟨present, whole, bare, lower⟩

theorem HostLabel.unescaped {label : Text} (host : HostLabel label) : Unescaped label where
  present := host.present
  whole := fun dot => absurd (host.host '.' dot) (by decide)
  bare := fun slash => absurd (host.host '\\' slash) (by decide)
  lower := host.lower

theorem lowercase_iff (s : Text) :
    toAsciiLowercase s = s ↔ ∀ char ∈ s, char.toLower = char := by
  rw [toAsciiLowercase]
  conv_lhs => rhs; rw [← List.map_id s]
  exact List.map_inj_left

/-- A label is told by its characters. -/
theorem unescaped_of_chars (label : Text) (present : label ≠ [])
    (plain : ∀ char ∈ label, char ≠ '.' ∧ char ≠ '\\' ∧ char.toLower = char) :
    Unescaped label where
  present := present
  whole := fun dot => (plain '.' dot).1 rfl
  bare := fun slash => (plain '\\' slash).2.1 rfl
  lower := (lowercase_iff label).mpr fun char inside => (plain char inside).2.2

theorem Unescaped.chars {label : Text} (plain : Unescaped label) :
    ∀ char ∈ label, char ≠ '.' ∧ char ≠ '\\' ∧ char.toLower = char := by
  intro char inside
  refine ⟨?_, ?_, (lowercase_iff label).mp plain.lower char inside⟩
  · rintro rfl
    exact plain.whole inside
  · rintro rfl
    exact plain.bare inside

end Labels

/-! Joined labels. -/
section Joined

theorem trim_dot (s : Text) : trimEndMatches '.' (s ++ ['.']) = trimEndMatches '.' s :=
  List.rdropWhile_concat_pos _ _ _ rfl

theorem trim_whole (s : Text) (last : s.getLast? ≠ some '.') : trimEndMatches '.' s = s := by
  apply List.rdropWhile_eq_self_iff.mpr
  intro present dotted
  apply last
  rw [List.getLast?_eq_some_getLast present, beq_iff_eq.mp dotted]

theorem join_last_char (front : List Text) (last : Text) (present : last ≠ []) :
    (join "." (front ++ [last])).getLast? = last.getLast? := by
  rcases join_last front last with ⟨before, shape⟩
  rw [shape, List.getLast?_append_of_ne_nil _ present]

theorem trim_joined (front : List Text) (last : Text) (present : last ≠ []) (whole : '.' ∉ last) :
    trimEndMatches '.' (join "." (front ++ [last])) = join "." (front ++ [last]) := by
  apply trim_whole
  rw [join_last_char front last present]
  exact fun dotted => whole (List.mem_of_getLast? dotted)

theorem parse_joined (front : List Text) (last : Text) (present : last ≠ [])
    (whole : '.' ∉ last) :
    parseName text (join "." (front ++ [last])) = nameFromLabels text (front ++ [last]) :=
  congrArg (fun s => text.fromAscii (s ++ ['.'])) (trim_joined front last present whole)

theorem split_each (separator : Char) (parts : List Text)
    (whole : ∀ part ∈ parts, separator ∉ part) : parts.flatMap (split separator) = parts := by
  induction parts with
  | nil => rfl
  | cons part rest ih =>
      rw [List.forall_mem_cons] at whole
      rw [List.flatMap_cons, split_whole separator part whole.1, ih whole.2, List.singleton_append]

theorem split_joined (separator : Char) (parts : List Text) (present : parts ≠ [])
    (whole : ∀ part ∈ parts, separator ∉ part) :
    split separator (join [separator] parts) = parts :=
  (split_join separator parts present).trans (split_each separator parts whole)

end Joined

/-! A reader of host names. -/
section Reader

def readable (part : Text) : Bool :=
  !part.isEmpty && part.all hostChar && part.head? != some '-'

def byteOf (char : Char) : UInt8 := UInt8.ofNat char.toNat

/-- The absolute name of these labels. -/
def named (parts : List Text) : Name := ⟨parts.map fun part => part.map byteOf, true⟩

/-- The library's printing beside a reader that refuses every text but host names. -/
def hostText : NameText where
  toAscii := escapedText.toAscii
  fromAscii s :=
    let parts := split '.' (trimEndMatches '.' s)
    if parts.all readable = true ∧ Fits parts then
      some ⟨parts.map fun part => part.map byteOf, s.getLast? == some '.'⟩
    else none

theorem readable_iff (part : Text) :
    readable part = true ↔ part ≠ [] ∧ Host part ∧ part.head? ≠ some '-' := by
  unfold readable Host
  simp [and_assoc]

theorem char_of_byte (char : Char) (host : hostChar char = true) : charOf (byteOf char) = char := by
  have small : char.toNat < 256 := by
    rcases Bool.or_eq_true_iff.mp host with known | under
    · rcases Bool.or_eq_true_iff.mp known with alphanum | hyphen
      · have range := alphanum_range char alphanum
        omega
      · rw [beq_iff_eq.mp hyphen]
        decide
    · rw [beq_iff_eq.mp under]
      decide
  have kept : (byteOf char).toNat = char.toNat := by
    rw [byteOf, UInt8.toNat_ofNat']
    exact Nat.mod_eq_of_lt small
  rw [charOf, kept, Char.ofNat_toNat]

theorem host_label (part : Text) (read : readable part = true)
    (lower : toAsciiLowercase part = part) : HostLabel part := by
  rcases (readable_iff part).mp read with ⟨present, host, unhyphened⟩
  exact ⟨present, host, unhyphened, lower⟩

/-- The labels of a list of constants, by one evaluation. -/
theorem hosts_checked (labels : List Text)
    (checked : (labels.all fun label => readable label && toAsciiLowercase label == label &&
      decide (label.length ≤ 63)) = true) :
    ∀ label ∈ labels, HostLabel label ∧ label.length ≤ 63 := by
  intro label listed
  have fine := List.all_eq_true.mp checked label listed
  rw [Bool.and_eq_true, Bool.and_eq_true, beq_iff_eq, decide_eq_true_iff] at fine
  exact ⟨host_label label fine.1.1 fine.1.2, fine.2⟩

theorem print_bytes (first : Bool) (part : Text) (host : Host part)
    (unhyphened : first = true → part.head? ≠ some '-') :
    printLabel escapeByte first (part.map byteOf) = part := by
  induction part generalizing first with
  | nil => rfl
  | cons char rest ih =>
      rw [Host, List.forall_mem_cons] at host
      have spelled := char_of_byte char host.1
      have plain : plainByte first (byteOf char) = true := by
        have kind := host.1
        unfold hostChar at kind
        unfold plainByte
        rw [spelled]
        cases first with
        | false => simpa [or_assoc, or_comm, or_left_comm] using kind
        | true =>
            have other : char ≠ '-' := fun same => unhyphened rfl (congrArg some same)
            simpa [other, or_assoc, or_comm, or_left_comm] using kind
      have tail := ih false host.2 (fun impossible => Bool.noConfusion impossible)
      rw [List.map_cons, printLabel, escaped_presents.plain first _ plain, spelled, tail,
        List.singleton_append]

theorem readable_printed (parts : List Text) (all : parts.all readable = true) :
    (parts.map fun part => part.map byteOf).map (printLabel escapeByte true) = parts := by
  rw [List.all_eq_true] at all
  rw [List.map_map]
  conv_rhs => rw [← List.map_id parts]
  apply List.map_congr_left
  intro part listed
  rcases (readable_iff part).mp (all part listed) with ⟨_, host, unhyphened⟩
  exact print_bytes true part host fun _ => unhyphened

theorem read_parts (s : Text) (name : Name) (read : hostText.fromAscii (s ++ ['.']) = some name) :
    (split '.' (trimEndMatches '.' s)).all readable = true ∧
      name = named (split '.' (trimEndMatches '.' s)) := by
  have unfolded : (if (split '.' (trimEndMatches '.' (s ++ ['.']))).all readable = true ∧
      Fits (split '.' (trimEndMatches '.' (s ++ ['.']))) then
        some ⟨(split '.' (trimEndMatches '.' (s ++ ['.']))).map fun part => part.map byteOf,
          (s ++ ['.']).getLast? == some '.'⟩
      else none) = some name := read
  rw [trim_dot, List.getLast?_concat] at unfolded
  split at unfolded
  · rename_i good
    exact ⟨good.1, (Option.some.inj unfolded).symm⟩
  · cases unfolded

/-- What is read is printed back, so a name's labels are the parts of its text. -/
theorem read_labels (s : Text) (name : Name) (read : hostText.fromAscii (s ++ ['.']) = some name) :
    labels hostText name = (split '.' (trimEndMatches '.' s)).map toAsciiLowercase := by
  rcases read_parts s name read with ⟨all, rfl⟩
  have printed : hostText.toAscii (named (split '.' (trimEndMatches '.' s))) =
      trimEndMatches '.' s ++ ['.'] := by
    calc hostText.toAscii _
      _ = join "." (((split '.' (trimEndMatches '.' s)).map fun part => part.map byteOf).map
            (printLabel escapeByte true)) ++ ['.'] := rfl
      _ = join "." (split '.' (trimEndMatches '.' s)) ++ ['.'] := by rw [readable_printed _ all]
      _ = trimEndMatches '.' s ++ ['.'] := congrArg (· ++ ['.']) (join_split '.' _)
  have kept : (split '.' (trimEndMatches '.' s)).filter (fun part => !part.isEmpty) =
      split '.' (trimEndMatches '.' s) := by
    rw [List.filter_eq_self]
    intro part listed
    have present := ((readable_iff part).mp (List.all_eq_true.mp all part listed)).1
    simpa using present
  rw [labels, printed, trim_dot, trim_whole _ (trimmed_last '.' s), kept]

theorem read_joined (parts : List Text) (name : Name) (present : parts ≠ [])
    (full : ∀ part ∈ parts, part ≠ []) (whole : ∀ part ∈ parts, '.' ∉ part)
    (read : nameFromLabels hostText parts = some name) :
    labels hostText name = parts.map toAsciiLowercase := by
  rw [read_labels _ name read]
  rcases List.eq_nil_or_concat parts with empty | ⟨front, last, shape⟩
  · exact absurd empty present
  · rw [List.concat_eq_append] at shape
    subst shape
    have listed : last ∈ front ++ [last] := List.mem_append_right _ List.mem_cons_self
    rw [trim_joined front last (full last listed) (whole last listed)]
    exact congrArg (List.map toAsciiLowercase) (split_joined '.' _ present whole)

theorem empty_unread (name : Name) : nameFromLabels hostText [] ≠ some name := by
  intro read
  have parts := (read_parts [] name read).1
  exact absurd parts (by decide)

theorem host_text_reads : Reads hostText where
  accepts parts present host fits := by
    have whole : ∀ part ∈ parts, '.' ∉ part := fun part listed => (host part listed).unescaped.whole
    rcases List.eq_nil_or_concat parts with empty | ⟨front, last, shape⟩
    · exact absurd empty present
    · rw [List.concat_eq_append] at shape
      have listed : last ∈ parts := by
        rw [shape]
        exact List.mem_append_right _ List.mem_cons_self
      have trimmed : trimEndMatches '.' (join "." parts) = join "." parts := by
        rw [shape]
        exact trim_joined front last (host last listed).present (whole last listed)
      have cut : split '.' (trimEndMatches '.' (join "." parts ++ ['.'])) = parts := by
        rw [trim_dot, trimmed]
        exact split_joined '.' parts present whole
      have all : parts.all readable = true := by
        rw [List.all_eq_true]
        intro part inside
        exact (readable_iff part).mpr
          ⟨(host part inside).present, (host part inside).host, (host part inside).unhyphened⟩
      refine ⟨⟨parts.map fun part => part.map byteOf,
        (join "." parts ++ ['.']).getLast? == some '.'⟩, ?_⟩
      unfold nameFromLabels hostText
      dsimp only
      rw [cut, if_pos ⟨all, fits⟩]
  recovers parts name plain read := by
    cases parts with
    | nil => exact absurd read (empty_unread name)
    | cons first rest =>
        have full := fun part listed => (plain part listed).present
        have whole := fun part listed => (plain part listed).whole
        rw [read_joined _ name (List.cons_ne_nil first rest) full whole read]
        conv_rhs => rw [← List.map_id (first :: rest)]
        exact List.map_congr_left fun part listed => (plain part listed).lower
  trails front back name host read := by
    rcases List.eq_nil_or_concat back with rfl | ⟨before, last, shape⟩
    · exact List.nil_suffix
    · rw [List.concat_eq_append] at shape
      have listed : last ∈ back := by
        rw [shape]
        exact List.mem_append_right _ List.mem_cons_self
      have trimmed : trimEndMatches '.' (join "." (front ++ back)) = join "." (front ++ back) := by
        rw [shape, ← List.append_assoc]
        exact trim_joined _ last (host last listed).present (host last listed).unescaped.whole
      have present : front ++ back ≠ [] := by simp [shape]
      have cut : split '.' (join "." (front ++ back)) = front.flatMap (split '.') ++ back := by
        have pieces : split '.' (join "." (front ++ back)) = (front ++ back).flatMap (split '.') :=
          split_join '.' _ present
        rw [pieces, List.flatMap_append, split_each '.' back fun part inside =>
          (host part inside).unescaped.whole]
      have lower : back.map toAsciiLowercase = back := by
        conv_rhs => rw [← List.map_id back]
        exact List.map_congr_left fun part inside => (host part inside).lower
      rw [read_labels _ name read, trimmed, cut, List.map_append, lower]
      exact List.suffix_append _ _
  counts source parts name taken read := by
    cases parts with
    | nil => exact absurd read (empty_unread name)
    | cons first rest =>
        have listed := fun part inside => labels_listed source part (taken.subset inside)
        have full := fun part inside => (listed part inside).1
        have whole := fun part inside => (listed part inside).2.1
        rw [read_joined _ name (List.cons_ne_nil first rest) full whole read, List.length_map]

end Reader

end Dnsix.HostText
