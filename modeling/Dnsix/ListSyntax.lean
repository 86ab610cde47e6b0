import Dnsix.Comments

/-!
The syntaxes of a list agree: a domain is blocked in every form it can be written in, and a
rule of the other syntax is read as a plain domain or counted as skipped. Rule syntax behind
a domain without the bars is neither.
-/

namespace Dnsix.ListSyntax
open Ascii Blocking Comments IpText

/-! A domain as a list writes it. -/
section Domains

/-- Two labels at least, none empty, and neither an address nor a name of the machine
itself. -/
structure Proper (d : Text) : Prop where
  labels : ∀ label ∈ split '.' d,
    label ≠ [] ∧ ∀ char ∈ label, char.isAlphanum = true ∨ char = '-' ∨ char = '_'
  two : 2 ≤ (split '.' d).length
  front : ∀ char, d.head? = some char → char.isAlphanum = true
  foreign : isIpAddr d = false
  silent : hostNoise.any (eqIgnoreAsciiCase d) = false

/-- With or without the root. -/
def spelled (d : Text) (rooted : Bool) : Text := if rooted then d ++ ['.'] else d

variable {d : Text}

theorem Proper.chars (proper : Proper d) : ∀ char ∈ d, domainChar char = true := by
  intro char inside
  rcases char_cases '.' d char inside with rfl | ⟨label, listed, known⟩
  · rfl
  · simp only [domainChar, Bool.or_eq_true, beq_iff_eq]
    have shape := (proper.labels label listed).2 char known
    tauto

theorem Proper.present (proper : Proper d) : d ≠ [] := by
  rintro rfl
  exact absurd proper.two (by decide)

theorem Proper.dotted (proper : Proper d) : '.' ∈ d := by
  by_contra absent
  have two := proper.two
  rw [split_whole '.' d absent, List.length_singleton] at two
  omega

/-- The last label is not empty, so the domain does not end with a dot. -/
theorem Proper.undotted (proper : Proper d) : trimEndMatches '.' d = d := by
  rw [trimEndMatches, List.rdropWhile_eq_self_iff]
  intro present dot
  have ending := List.dropLast_concat_getLast present
  rw [beq_iff_eq.mp dot] at ending
  have empty : [] ∈ split '.' d := by
    rw [← ending, split_append]
    exact List.mem_append_right _ List.mem_cons_self
  exact (proper.labels [] empty).1 rfl

theorem domain_char_dark (char : Char) (known : domainChar char = true) :
    isWhitespace char = false := by
  simp only [domainChar, Bool.or_eq_true, beq_iff_eq] at known
  rcases known with ((alphanum | rfl) | rfl) | rfl
  · exact alphanum_dark char alphanum
  · rfl
  · rfl
  · rfl

theorem domain_lacks (text : Text) (chars : ∀ char ∈ text, domainChar char = true) (mark : Char)
    (foreign : domainChar mark = false) : mark ∉ text := by
  intro inside
  rw [chars mark inside] at foreign
  cases foreign

theorem spelled_chars (proper : Proper d) (rooted : Bool) :
    ∀ char ∈ spelled d rooted, domainChar char = true := by
  intro char inside
  cases rooted with
  | false => exact proper.chars char inside
  | true =>
      rcases List.mem_append.mp inside with here | dot
      · exact proper.chars char here
      · rw [List.mem_singleton.mp dot]
        rfl

theorem spelled_present (proper : Proper d) (rooted : Bool) : spelled d rooted ≠ [] := by
  cases rooted with
  | false => exact proper.present
  | true => simp [spelled]

theorem spelled_undotted (proper : Proper d) (rooted : Bool) :
    trimEndMatches '.' (spelled d rooted) = d := by
  cases rooted with
  | false => exact proper.undotted
  | true =>
      have dropped : trimEndMatches '.' (d ++ ['.']) = trimEndMatches '.' d :=
        List.rdropWhile_concat_pos _ _ _ rfl
      rw [spelled, if_pos rfl, dropped, proper.undotted]

theorem spelled_trimmed (proper : Proper d) (rooted : Bool) : Trimmed (spelled d rooted) :=
  dark_trimmed _ (spelled_present proper rooted) fun char inside =>
    domain_char_dark char (spelled_chars proper rooted char inside)

theorem spelled_normalized (proper : Proper d) (rooted : Bool) :
    normalizeDomain (spelled d rooted) = some (toAsciiLowercase d) := by
  have all : d.all domainChar = true := List.all_eq_true.mpr proper.chars
  simp [normalizeDomain, trim_trimmed _ (spelled_trimmed proper rooted),
    spelled_undotted proper rooted, proper.present, proper.foreign, proper.dotted, all]

theorem spelled_silent (proper : Proper d) (rooted : Bool) :
    isHostNoise (spelled d rooted) = false := by
  simp only [isHostNoise, spelled_undotted proper rooted, proper.silent, proper.foreign,
    Bool.or_self]

/-- A dot at the end does not make an address of a domain. -/
theorem spelled_foreign (proper : Proper d) (rooted : Bool) :
    isIpAddr (spelled d rooted) = false := by
  cases rooted with
  | false => exact proper.foreign
  | true =>
      by_contra address
      rw [Bool.not_eq_false] at address
      have colonless : ':' ∉ spelled d true := domain_lacks _ (spelled_chars proper true) ':' rfl
      have dotted := colonless_address _ colonless address
      have digit := dotted_last _ dotted '.' (by simp [spelled])
      exact absurd digit (by decide)

theorem spelled_head (proper : Proper d) (rooted : Bool) :
    ∃ first more, spelled d rooted = first :: more ∧ first ∉ ruleMarks := by
  cases shape : d with
  | nil => exact absurd shape proper.present
  | cons first more =>
      have known := proper.front first (by rw [shape]; rfl)
      have unmarked : first ∉ ruleMarks := by
        intro marked
        simp only [ruleMarks, List.mem_cons, List.not_mem_nil, or_false] at marked
        rcases marked with rfl | rfl | rfl | rfl | rfl | rfl <;> cases known
      cases rooted with
      | false => exact ⟨first, more, rfl, unmarked⟩
      | true => exact ⟨first, more ++ ['.'], rfl, unmarked⟩

end Domains

/-! The rules of the other syntax. -/
section Rules

variable {raw rest : Text}

theorem parse_signed (shape : trim raw = "@@".toList ++ rest) :
    parseLine raw = allowRule (adblockDomain rest) := by
  unfold parseLine
  rw [shape]
  rfl

theorem parse_barred (shape : trim raw = "||".toList ++ rest) :
    parseLine raw = blockRule (adblockDomain ("||".toList ++ rest)) := by
  unfold parseLine
  rw [shape]
  rfl

end Rules

/-! Every form gives the domain. -/
section Forms

variable {d front back : Text}

theorem blank_lacks (space : Text) (blank : Blank space) (mark : Char)
    (dark : isWhitespace mark = false) : mark ∉ space := by
  intro inside
  rw [blank mark inside] at dark
  cases dark

theorem bare_parsed (leading : Blank front) (trailing : Blank back) (proper : Proper d)
    (rooted : Bool) :
    parseLine (front ++ spelled d rooted ++ back) = .Block [toAsciiLowercase d] := by
  have trimmed := spelled_trimmed proper rooted
  have dark : ∀ char ∈ spelled d rooted, isWhitespace char = false := fun char inside =>
    domain_char_dark char (spelled_chars proper rooted char inside)
  obtain ⟨first, more, shape, unmarked⟩ := spelled_head proper rooted
  have words : splitWhitespace (front ++ spelled d rooted ++ back) = [first :: more] := by
    rw [words_padded front _ back leading trailing,
      words_single _ (spelled_present proper rooted) dark, shape]
  have starless : '*' ∉ front ++ spelled d rooted ++ back := by
    simp only [List.mem_append, not_or]
    exact ⟨⟨blank_lacks front leading '*' rfl,
      domain_lacks _ (spelled_chars proper rooted) '*' rfl⟩, blank_lacks back trailing '*' rfl⟩
  have foreign := spelled_foreign proper rooted
  rw [shape] at foreign
  rw [parse_words _ first more [] words unmarked, if_neg starless, foreign,
    if_neg Bool.false_ne_true, trim_padded front _ back leading trailing trimmed, bareLine,
    spelled_normalized proper rooted, spelled_silent proper rooted]
  rfl

/-- The body of a rule with a domain in it, and the separator behind. -/
theorem adblock_spelled (proper : Proper d) (bars tail : Text) (barred : bars = [] ∨ bars = "||")
    (ended : tail = [] ∨ tail = ['^']) :
    adblockDomain (bars ++ d ++ tail) = some (toAsciiLowercase d) := by
  have plain : ∀ char ∈ d, (!ruleEnd char) = true := by
    intro char inside
    have known := proper.chars char inside
    cases ending : ruleEnd char with
    | false => rfl
    | true =>
        simp only [ruleEnd, Bool.or_eq_true, beq_iff_eq] at ending
        rcases ending with ((rfl | rfl) | rfl) | rfl <;> cases known
  have stripped : (stripPrefix (bars ++ d ++ tail) "||").getD (bars ++ d ++ tail) = d ++ tail := by
    rcases barred with rfl | rfl
    · obtain ⟨first, more, shape, unmarked⟩ := spelled_head proper false
      have bar : first ≠ '|' := by
        rintro rfl
        exact unmarked (by decide)
      have known : d = first :: more := shape
      simp [known, stripPrefix, startsWith, List.isPrefixOf, Ne.symm bar]
    · rfl
  have taken : (d ++ tail).takeWhile (fun char => !ruleEnd char) = d := by
    rw [List.takeWhile_append_of_pos plain]
    rcases ended with rfl | rfl
    · exact List.append_nil d
    · exact List.append_nil d
  have dropped : (d ++ tail).dropWhile (fun char => !ruleEnd char) = tail := by
    rw [List.dropWhile_append_of_pos plain]
    rcases ended with rfl | rfl <;> rfl
  have closed : (tail.isEmpty || tail == ['^']) = true := by
    rcases ended with rfl | rfl <;> rfl
  simp only [adblockDomain, stripped, taken, dropped, closed, if_true]
  exact spelled_normalized proper false

theorem rule_trimmed (proper : Proper d) (sign : Char) (more tail : Text)
    (dark : isWhitespace sign = false) (ended : tail = [] ∨ tail = ['^']) :
    Trimmed (sign :: more ++ d ++ tail) := by
  constructor
  · exact ⟨sign, more ++ d ++ tail, rfl, dark⟩
  · intro char last
    rcases ended with rfl | rfl
    · rw [List.append_nil, List.getLast?_append_of_ne_nil _ proper.present] at last
      exact domain_char_dark char (proper.chars char (List.mem_of_getLast? last))
    · rw [List.getLast?_concat] at last
      cases last
      rfl

theorem block_parsed (leading : Blank front) (trailing : Blank back) (proper : Proper d)
    (tail : Text) (ended : tail = [] ∨ tail = ['^']) :
    parseLine (front ++ ("||".toList ++ d ++ tail) ++ back) = .Block [toAsciiLowercase d] := by
  have trimmed : Trimmed ("||".toList ++ d ++ tail) :=
    rule_trimmed proper '|' ['|'] tail rfl ended
  have body := adblock_spelled proper "||" tail (.inr rfl) ended
  have shape := trim_padded front _ back leading trailing trimmed
  have whole : "||".toList ++ d ++ tail = "||".toList ++ (d ++ tail) := List.append_assoc _ _ _
  rw [parse_barred (shape.trans whole), ← whole, body]
  rfl

theorem allow_parsed (leading : Blank front) (trailing : Blank back) (proper : Proper d)
    (bars tail : Text) (barred : bars = [] ∨ bars = "||") (ended : tail = [] ∨ tail = ['^']) :
    parseLine (front ++ ("@@".toList ++ (bars ++ d ++ tail)) ++ back) =
      .Allow (toAsciiLowercase d) := by
  have shape : "@@".toList ++ (bars ++ d ++ tail) = '@' :: ('@' :: bars) ++ d ++ tail := by
    simp [-String.reduceToList]
    rfl
  have trimmed : Trimmed ("@@".toList ++ (bars ++ d ++ tail)) := by
    rw [shape]
    exact rule_trimmed proper '@' ('@' :: bars) tail rfl ended
  have body := adblock_spelled proper bars tail barred ended
  rw [parse_signed (trim_padded front _ back leading trailing trimmed), body]
  rfl

/-- A host behind an address, with the whitespace before it. -/
structure Host where
  gap : Text
  domain : Text
  rooted : Bool
  parted : gap ≠ []
  blank : Blank gap
  proper : Proper domain

def Host.word (host : Host) : Text := spelled host.domain host.rooted

def Host.text (host : Host) : Text := host.gap ++ host.word

theorem hosts_words (word : Text) (hosts : List Host) (present : word ≠ [])
    (dark : ∀ char ∈ word, isWhitespace char = false) :
    splitWhitespace (word ++ hosts.flatMap Host.text) = word :: hosts.map Host.word := by
  induction hosts generalizing word with
  | nil =>
      rw [List.flatMap_nil, List.append_nil]
      exact words_single word present dark
  | cons host rest ih =>
      have shape : word ++ (host :: rest).flatMap Host.text =
          word ++ host.gap ++ (host.word ++ rest.flatMap Host.text) := by
        simp [Host.text]
      have later := ih host.word (spelled_present host.proper host.rooted) fun char inside =>
        domain_char_dark char (spelled_chars host.proper host.rooted char inside)
      rw [shape, words_gap word host.gap _ host.parted host.blank, words_single word present dark,
        later]
      rfl

theorem hosts_taken (hosts : List Host) (present : hosts ≠ []) :
    hostsLine (hosts.map Host.word) =
      .Block (hosts.map fun host => toAsciiLowercase host.domain) := by
  have listed : ((hosts.map Host.word).filter fun h => !isHostNoise h).filterMap normalizeDomain =
      hosts.map fun host => toAsciiLowercase host.domain := by
    induction hosts with
    | nil => exact absurd rfl present
    | cons host rest ih =>
        have silent : isHostNoise host.word = false := spelled_silent host.proper host.rooted
        have domain : normalizeDomain host.word = some (toAsciiLowercase host.domain) :=
          spelled_normalized host.proper host.rooted
        rw [List.map_cons, List.filter_cons_of_pos (by simp [silent]), List.filterMap_cons, domain]
        dsimp only
        by_cases last : rest = []
        · rw [last]
          rfl
        · rw [ih last, List.map_cons]
  rw [hostsLine, listed]
  cases hosts with
  | nil => exact absurd rfl present
  | cons host rest => rfl

theorem address_dark (ip : Text) (address : isIpAddr ip = true) (mark : Char)
    (foreign : ¬AddressChar mark) : mark ∉ ip :=
  fun inside => foreign (address_chars ip address mark inside)

theorem address_word (ip : Text) (address : isIpAddr ip = true) :
    ip ≠ [] ∧ ∀ char ∈ ip, isWhitespace char = false := by
  constructor
  · rintro rfl
    exact absurd address (by decide)
  · intro char inside
    rcases address_chars ip address char inside with digit | rfl | rfl
    · exact alphanum_dark char (digit_alphanum 16 char digit)
    · rfl
    · rfl

theorem hosts_listed (leading : Blank front) (trailing : Blank back) (ip : Text)
    (address : isIpAddr ip = true) (hosts : List Host) (present : hosts ≠ []) :
    parseLine (front ++ (ip ++ hosts.flatMap Host.text) ++ back) =
      .Block (hosts.map fun host => toAsciiLowercase host.domain) := by
  obtain ⟨filled, dark⟩ := address_word ip address
  have words : splitWhitespace (front ++ (ip ++ hosts.flatMap Host.text) ++ back) =
      ip :: hosts.map Host.word := by
    rw [words_padded front _ back leading trailing, hosts_words ip hosts filled dark]
  have starless : '*' ∉ front ++ (ip ++ hosts.flatMap Host.text) ++ back := by
    simp only [List.mem_append, List.mem_flatMap, not_or]
    refine ⟨⟨blank_lacks front leading '*' rfl, ?_, ?_⟩, blank_lacks back trailing '*' rfl⟩
    · exact address_dark ip address '*' (by unfold AddressChar; decide)
    · rintro ⟨host, _, inside⟩
      rcases List.mem_append.mp inside with gap | word
      · exact blank_lacks host.gap host.blank '*' rfl gap
      · exact domain_lacks _ (spelled_chars host.proper host.rooted) '*' rfl word
  rw [hosts_parsed _ ip _ words address, if_neg starless, hosts_taken hosts present]

end Forms

/-! What a rule that is read must look like. -/
section Shapes

variable {raw : Text}

theorem adblock_taken (s domain : Text) (kept : adblockDomain s = some domain) :
    ∃ x tail, (stripPrefix s "||").getD s = x ++ tail ∧ (tail = [] ∨ tail = ['^']) ∧
      normalizeDomain x = some domain := by
  unfold adblockDomain at kept
  dsimp only at kept
  split at kept
  · rename_i closed
    refine ⟨_, _, List.takeWhile_append_dropWhile.symm, ?_, kept⟩
    simpa using closed
  · cases kept

theorem starts_prefix (text mark : Text) (starts : startsWith text mark = true) :
    ∃ rest, text = mark ++ rest := by
  obtain ⟨rest, shape⟩ := List.isPrefixOf_iff_prefix.mp starts
  exact ⟨rest, shape.symm⟩

theorem signed_allows (raw : Text) (signed : startsWith (trim raw) "@@" = true) :
    (∀ domains, parseLine raw ≠ .Block domains) ∧
      ∀ domain, parseLine raw = .Allow domain → ∃ bars x tail,
        trim raw = "@@".toList ++ (bars ++ (x ++ tail)) ∧ (bars = [] ∨ bars = "||") ∧
          (tail = [] ∨ tail = ['^']) ∧ normalizeDomain x = some domain := by
  obtain ⟨rest, shape⟩ := starts_prefix _ _ signed
  rw [parse_signed shape]
  cases read : adblockDomain rest with
  | none => exact ⟨fun _ impossible => (nomatch impossible), fun _ impossible => nomatch impossible⟩
  | some found =>
      refine ⟨fun _ impossible => (nomatch impossible), fun domain same => ?_⟩
      cases same
      obtain ⟨x, tail, body, ended, normal⟩ := adblock_taken rest _ read
      unfold stripPrefix at body
      split at body
      · rename_i barred
        obtain ⟨more, barredShape⟩ := starts_prefix _ _ barred
        rw [barredShape] at body
        have taken : more = x ++ tail := body
        exact ⟨"||", x, tail, by rw [shape, barredShape, taken], .inr rfl, ended, normal⟩
      · have taken : rest = x ++ tail := body
        exact ⟨[], x, tail, by rw [shape, taken, List.nil_append], .inl rfl, ended, normal⟩

theorem barred_blocks (raw : Text) (barred : startsWith (trim raw) "||" = true) :
    (∀ domain, parseLine raw ≠ .Allow domain) ∧
      ∀ domains, parseLine raw = .Block domains → ∃ x tail domain, domains = [domain] ∧
        trim raw = "||".toList ++ (x ++ tail) ∧ (tail = [] ∨ tail = ['^']) ∧
          normalizeDomain x = some domain := by
  obtain ⟨rest, shape⟩ := starts_prefix _ _ barred
  rw [parse_barred shape]
  cases read : adblockDomain ("||".toList ++ rest) with
  | none => exact ⟨fun _ impossible => (nomatch impossible), fun _ impossible => nomatch impossible⟩
  | some found =>
      refine ⟨fun _ impossible => (nomatch impossible), fun domains same => ?_⟩
      cases same
      obtain ⟨x, tail, body, ended, normal⟩ := adblock_taken _ _ read
      have taken : rest = x ++ tail := body
      exact ⟨x, tail, found, rfl, by rw [shape, taken], ended, normal⟩

/-- What a rule line gives is what it spells, in either direction. -/
def RuleShape (raw : Text) : Prop :=
  (startsWith (trim raw) "||" = true →
    (∀ domain, parseLine raw ≠ .Allow domain) ∧
      ∀ domains, parseLine raw = .Block domains → ∃ x tail domain, domains = [domain] ∧
        trim raw = "||".toList ++ (x ++ tail) ∧ (tail = [] ∨ tail = ['^']) ∧
          normalizeDomain x = some domain) ∧
  (startsWith (trim raw) "@@" = true →
    (∀ domains, parseLine raw ≠ .Block domains) ∧
      ∀ domain, parseLine raw = .Allow domain → ∃ bars x tail,
        trim raw = "@@".toList ++ (bars ++ (x ++ tail)) ∧ (bars = [] ∨ bars = "||") ∧
          (tail = [] ∨ tail = ['^']) ∧ normalizeDomain x = some domain)

/-- A domain reads the same in every syntax, with any whitespace around it, and a rule that
is read spells the domain it gives. -/
theorem list_syntaxes_agree (front back : Text) (leading : Blank front) (trailing : Blank back) :
    (∀ d, Proper d →
      (∀ rooted, parseLine (front ++ spelled d rooted ++ back) = .Block [toAsciiLowercase d]) ∧
      parseLine (front ++ ("||".toList ++ d ++ ['^']) ++ back) = .Block [toAsciiLowercase d] ∧
      parseLine (front ++ ("||".toList ++ d ++ []) ++ back) = .Block [toAsciiLowercase d] ∧
      parseLine (front ++ ("@@".toList ++ ("||".toList ++ d ++ ['^'])) ++ back) =
        .Allow (toAsciiLowercase d)) ∧
    (∀ ip, isIpAddr ip = true → ∀ hosts : List Host, hosts ≠ [] →
      parseLine (front ++ (ip ++ hosts.flatMap Host.text) ++ back) =
        .Block (hosts.map fun host => toAsciiLowercase host.domain)) ∧
    ∀ raw, RuleShape raw := by
  refine ⟨fun d proper => ⟨?_, ?_, ?_, ?_⟩, ?_, ?_⟩
  · exact bare_parsed leading trailing proper
  · exact block_parsed leading trailing proper ['^'] (.inr rfl)
  · exact block_parsed leading trailing proper [] (.inl rfl)
  · exact allow_parsed leading trailing proper "||" ['^'] (.inr rfl) (.inr rfl)
  · exact fun ip address hosts present => hosts_listed leading trailing ip address hosts present
  · exact fun raw => ⟨barred_blocks raw, signed_allows raw⟩

theorem list_syntaxes_agree_sample :
    Proper "Ads.example.com" ∧
      parseLine ("\t".toList ++
        ("@@".toList ++ ("||".toList ++ "Ads.example.com".toList ++ ['^'])) ++ " ".toList) =
          .Allow "ads.example.com" := by
  have proper : Proper "Ads.example.com" := by
    constructor
    · intro label listed
      have checked : (split '.' "Ads.example.com").all (fun label =>
          decide (label ≠ []) && label.all Char.isAlphanum) = true := rfl
      have fine := List.all_eq_true.mp checked label listed
      rw [Bool.and_eq_true, List.all_eq_true] at fine
      exact ⟨of_decide_eq_true fine.1, fun char inside => .inl (fine.2 char inside)⟩
    · decide
    · intro char first
      cases first
      rfl
    · decide
    · decide
  have tab : Blank "\t" := List.all_eq_true.mp rfl
  have space : Blank " " := List.all_eq_true.mp rfl
  exact ⟨proper, ((list_syntaxes_agree "\t" " " tab space).1 "Ads.example.com" proper).2.2.2⟩

end Shapes

/-! Rules that cannot be represented. -/
section Unrepresentable

/-- A rule without the marks of an exception and of a domain anchor. -/
def ruleBody (line : Text) : Text :=
  let signless := (stripPrefix line "@@").getD line
  (stripPrefix signless "||").getD signless

/-- Syntax no plain domain has: a star, the slashes of a path or a regular expression, the
options behind a dollar sign, an anchor, and the marks of an element rule. -/
def Carries (line : Text) : Prop :=
  '*' ∈ ruleBody line ∨ '/' ∈ ruleBody line ∨ '$' ∈ ruleBody line ∨ '|' ∈ ruleBody line ∨
    "##".toList <:+: ruleBody line ∨ "#@#".toList <:+: ruleBody line

/-- The lines where the classifier looks for such syntax: by their first character, or for
a star anywhere. -/
def Noticed (line : Text) : Prop :=
  (∃ first, line.head? = some first ∧ (first = '|' ∨ first = '/' ∨ first = '@')) ∨ '*' ∈ line

theorem marked_body (line : Text) (carries : Carries line) :
    ∃ mark ∈ ['*', '/', '$', '|', '#'], mark ∈ ruleBody line := by
  rcases carries with star | slash | dollar | bar | element | exempt
  · exact ⟨'*', by decide, star⟩
  · exact ⟨'/', by decide, slash⟩
  · exact ⟨'$', by decide, dollar⟩
  · exact ⟨'|', by decide, bar⟩
  · exact ⟨'#', by decide, element.subset (by decide)⟩
  · exact ⟨'#', by decide, exempt.subset (by decide)⟩

/-- Such syntax is no part of a domain and no separator at its end. -/
theorem adblock_refused (s : Text) (mark : Char) (known : mark ∈ ['*', '/', '$', '|', '#'])
    (inside : mark ∈ (stripPrefix s "||").getD s) : adblockDomain s = none := by
  cases read : adblockDomain s with
  | none => rfl
  | some domain =>
      obtain ⟨x, tail, body, ended, normal⟩ := adblock_taken s domain read
      have cap : mark ≠ '^' := by
        rintro rfl
        exact absurd known (by decide)
      have within : mark ∈ x := by
        rw [body] at inside
        rcases List.mem_append.mp inside with here | there
        · exact here
        · rcases ended with rfl | rfl
          · cases there
          · exact absurd (List.mem_singleton.mp there) cap
      have foreign : isWhitespace mark = false ∧ domainChar mark = false := by
        simp only [List.mem_cons, List.not_mem_nil, or_false] at known
        rcases known with rfl | rfl | rfl | rfl | rfl <;> decide
      rw [marked_refused x mark within foreign.1 foreign.2] at normal
      cases normal

theorem parse_noticed (raw : Text) (first : Char) (more : Text) (shape : trim raw = first :: more)
    (signless : startsWith (trim raw) "@@" = false) (barless : startsWith (trim raw) "||" = false)
    (plain : first ≠ '#' ∧ first ≠ '!' ∧ first ≠ '[') (noticed : Noticed (trim raw)) :
    parseLine raw = .Skip := by
  have found : first = '|' ∨ first = '/' ∨ first = '@' ∨ '*' ∈ first :: more := by
    rcases noticed with ⟨head, known, marks⟩ | star
    · rw [shape, List.head?_cons, Option.some.injEq] at known
      rw [known]
      tauto
    · rw [shape] at star
      exact .inr (.inr (.inr star))
  rw [shape] at signless barless
  unfold parseLine
  simp only [shape, plain, or_self, if_false, stripPrefix, signless, barless, Bool.false_eq_true]
  exact if_pos found

theorem parse_unnoticed (raw : Text) (first : Char) (more : Text) (shape : trim raw = first :: more)
    (plain : first ≠ '#' ∧ first ≠ '!' ∧ first ≠ '[') (unnoticed : ¬Noticed (trim raw)) :
    parseLine raw ≠ .Skip := by
  rw [shape] at unnoticed
  simp only [Noticed, List.head?_cons, Option.some.injEq, exists_eq_left', not_or] at unnoticed
  obtain ⟨⟨bar, slash, sign⟩, starless⟩ := unnoticed
  obtain ⟨word, others, words⟩ := words_head first more (trim_head raw first more shape)
  rw [← shape, words_trim] at words
  have unmarked : first ∉ ruleMarks := by
    simp only [ruleMarks, List.mem_cons, List.not_mem_nil, or_false, not_or]
    exact ⟨plain.1, plain.2.1, plain.2.2, bar, slash, sign⟩
  rw [← shape, mem_trim raw '*' rfl] at starless
  rw [parse_words raw first word others words unmarked, if_neg starless]
  split
  · exact hosts_line_kept others
  · exact bare_line_kept _

/-- A line with such syntax is skipped exactly when the classifier looks where the syntax
stands. Elsewhere the line is taken for hosts or for a bare word. -/
theorem unrepresentable_skipped_iff (raw : Text) (first : Char) (more : Text)
    (shape : trim raw = first :: more) (plain : first ≠ '#' ∧ first ≠ '!' ∧ first ≠ '[')
    (carries : Carries (trim raw)) : parseLine raw = .Skip ↔ Noticed (trim raw) := by
  constructor
  · intro skipped
    by_contra unnoticed
    exact parse_unnoticed raw first more shape plain unnoticed skipped
  · intro noticed
    obtain ⟨mark, known, inside⟩ := marked_body (trim raw) carries
    cases signed : startsWith (trim raw) "@@" with
    | true =>
        obtain ⟨rest, behind⟩ := starts_prefix _ _ signed
        rw [behind] at inside
        rw [parse_signed behind, adblock_refused rest mark known inside]
        rfl
    | false =>
        cases barred : startsWith (trim raw) "||" with
        | true =>
            obtain ⟨rest, behind⟩ := starts_prefix _ _ barred
            rw [behind] at inside
            rw [parse_barred behind, adblock_refused ("||".toList ++ rest) mark known inside]
            rfl
        | false => exact parse_noticed raw first more shape signed barred plain noticed

theorem unrepresentable_skipped_path : parseLine "||ads.example.com/path" = .Skip :=
  (unrepresentable_skipped_iff "||ads.example.com/path" '|' "|ads.example.com/path" (by decide)
    (by decide) (.inr (.inl (by decide)))).mpr (.inl ⟨'|', rfl, .inl rfl⟩)

/-- An element rule, an option and a path behind a domain are dropped and not counted. -/
theorem unrepresentable_ignored :
    (trim "example.com##.ad" = "example.com##.ad".toList ∧ Carries "example.com##.ad" ∧
      parseLine "example.com##.ad" = .Ignore) ∧
    (Carries "example.com$third-party" ∧ parseLine "example.com$third-party" = .Ignore) ∧
    (Carries "example.com/banner" ∧ parseLine "example.com/banner" = .Ignore) := by
  refine ⟨⟨by decide, ?_, by decide⟩, ⟨?_, by decide⟩, ?_, by decide⟩
  · exact .inr (.inr (.inr (.inr (.inl ⟨"example.com".toList, ".ad".toList, by decide⟩))))
  · exact .inr (.inr (.inl (by decide)))
  · exact .inr (.inl (by decide))

end Unrepresentable

end Dnsix.ListSyntax
