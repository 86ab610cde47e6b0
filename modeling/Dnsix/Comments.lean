import Dnsix.Blocking

/-!
Comments behind a rule on the same line. The line is read as if the comment were a part of
the rule: the words behind an address are hosts, in the comment too, a bare domain with a
comment is no domain, and a star drops the line wherever it stands.
-/

namespace Dnsix.Comments
open Ascii Blocking IpText

/-! A line by its first word. -/
section Lines

/-- What starts a comment, a header or a rule of the other syntax. -/
def ruleMarks : List Char := ['#', '!', '[', '|', '/', '@']

theorem address_unmarked (first : Char) (more : Text) (address : isIpAddr (first :: more) = true) :
    first ∉ ruleMarks := by
  intro marked
  have foreign : isIpAddr (first :: more) = false := by
    simp only [ruleMarks, List.mem_cons, List.not_mem_nil, or_false] at marked
    rcases marked with rfl | rfl | rfl | rfl | rfl | rfl <;>
      exact foreign_not_address _ more rfl rfl (by decide)
  rw [foreign] at address
  cases address

/-- Past the comments and the rules of the other syntax, the first word tells the two
other syntaxes apart. -/
theorem parse_words (raw : Text) (first : Char) (more : Text) (rest : List Text)
    (words : splitWhitespace raw = (first :: more) :: rest) (plain : first ∉ ruleMarks) :
    parseLine raw = if '*' ∈ raw then .Skip
      else if isIpAddr (first :: more) then hostsLine rest else bareLine (trim raw) := by
  obtain ⟨others, shape⟩ := trim_words raw first more rest words
  have tokens : splitWhitespace (first :: others) = (first :: more) :: rest := by
    rw [← shape, words_trim, words]
  have star : '*' ∈ raw ↔ '*' ∈ first :: others := by
    rw [← shape, mem_trim raw '*' rfl]
  simp only [ruleMarks, List.mem_cons, List.not_mem_nil, or_false, not_or] at plain
  obtain ⟨hash, bang, bracket, bar, slash, sign⟩ := plain
  have allow : stripPrefix (first :: others) "@@" = none := by
    simp [stripPrefix, startsWith, List.isPrefixOf, Ne.symm sign]
  have block : startsWith (first :: others) "||" = false := by
    simp [startsWith, List.isPrefixOf, Ne.symm bar]
  unfold parseLine
  simp only [shape, hash, bang, bracket, or_self, if_false, allow, block, bar, slash, sign,
    false_or, tokens, List.headD_cons, List.tail_cons, star, Bool.false_eq_true]

end Lines

/-! What the rest of a line is read as. -/
section Words

/-- A word that is blocked when it stands behind an address, or alone. -/
def Taken (word : Text) : Prop := isHostNoise word = false ∧ normalizeDomain word ≠ none

theorem hosts_line_iff (hosts words : List Text) :
    hostsLine (hosts ++ words) = hostsLine hosts ↔ ∀ word ∈ words, ¬Taken word := by
  have none : ((words.filter fun h => !isHostNoise h).filterMap normalizeDomain) = [] ↔
      ∀ word ∈ words, ¬Taken word := by
    rw [List.filterMap_eq_nil_iff]
    simp [Taken]
  rw [← none, hostsLine, hostsLine, List.filter_append, List.filterMap_append]
  generalize (hosts.filter fun h => !isHostNoise h).filterMap normalizeDomain = listed
  generalize (words.filter fun h => !isHostNoise h).filterMap normalizeDomain = added
  cases listed with
  | nil => cases added <;> simp
  | cons domain others => simp

theorem hosts_line_kept (tokens : List Text) : hostsLine tokens ≠ .Skip := by
  simp only [hostsLine]
  split
  · exact fun impossible => nomatch impossible
  · exact fun impossible => nomatch impossible

theorem bare_line_iff (line : Text) : bareLine line = .Ignore ↔ ¬Taken line := by
  unfold bareLine Taken
  cases normalizeDomain line with
  | none => simp
  | some d => cases isHostNoise line <;> simp

theorem bare_line_kept (line : Text) : bareLine line ≠ .Skip := by
  unfold bareLine
  cases normalizeDomain line with
  | none => exact fun impossible => nomatch impossible
  | some d => cases isHostNoise line <;> exact fun impossible => nomatch impossible

/-- No trimming takes a mark away, and no domain holds it. -/
theorem marked_refused (s : Text) (mark : Char) (marked : mark ∈ s)
    (dark : isWhitespace mark = false) (foreign : domainChar mark = false) :
    normalizeDomain s = none := by
  have undotted : (mark == '.') = false := by
    by_contra dot
    rw [Bool.not_eq_false, beq_iff_eq] at dot
    rw [dot] at foreign
    cases foreign
  have kept : mark ∈ trimEndMatches '.' (trim s) :=
    (mem_rdropWhile _ _ mark undotted).mpr ((mem_trim s mark dark).mpr marked)
  have refused : (trimEndMatches '.' (trim s)).all domainChar = false := by
    rw [List.all_eq_false]
    exact ⟨mark, kept, by simp [foreign]⟩
  simp [normalizeDomain, refused]

end Words

/-! Bodies and comments. -/
section Bodies

/-- An address and the hosts behind it. -/
def HostsBody (h : Text) : Prop :=
  ∃ ip hosts, splitWhitespace h = ip :: hosts ∧ hosts ≠ [] ∧ isIpAddr ip = true

/-- One word that is no address and starts no rule of another kind. -/
def BareBody (h : Text) : Prop :=
  ∃ first more, splitWhitespace h = [first :: more] ∧ isIpAddr (first :: more) = false ∧
    first ∉ ruleMarks

variable (h space c : Text)

theorem commented_words (gap : space ≠ []) (blank : ∀ char ∈ space, isWhitespace char = true) :
    splitWhitespace (h ++ space ++ '#' :: c) = splitWhitespace h ++ splitWhitespace ('#' :: c) :=
  words_gap h space ('#' :: c) gap blank

theorem commented_star (blank : ∀ char ∈ space, isWhitespace char = true) :
    '*' ∈ h ++ space ++ '#' :: c ↔ '*' ∈ h ∨ '*' ∈ c := by
  have unspaced : '*' ∉ space := fun inside => absurd (blank '*' inside) (by decide)
  simp [unspaced]

theorem word_present (word : Text) (words : List Text) (text : Text)
    (shape : splitWhitespace text = word :: words) : word ≠ [] := by
  have listed : word ∈ splitWhitespace text := by
    rw [shape]
    exact List.mem_cons_self
  simpa using (List.mem_filter.mp listed).2

/-- The words of the comment are hosts of the line. -/
theorem hosts_commented (gap : space ≠ []) (blank : ∀ char ∈ space, isWhitespace char = true)
    (ip : Text) (hosts : List Text) (body : splitWhitespace h = ip :: hosts)
    (address : isIpAddr ip = true) :
    parseLine (h ++ space ++ '#' :: c) = if '*' ∈ h ∨ '*' ∈ c then .Skip
      else hostsLine (hosts ++ splitWhitespace ('#' :: c)) := by
  cases ip with
  | nil => exact absurd rfl (word_present [] hosts h body)
  | cons first more =>
      have words := commented_words h space c gap blank
      rw [body, List.cons_append] at words
      rw [parse_words _ first more _ words (address_unmarked first more address), if_pos address]
      simp only [commented_star h space c blank]

theorem hosts_parsed (ip : Text) (hosts : List Text) (body : splitWhitespace h = ip :: hosts)
    (address : isIpAddr ip = true) :
    parseLine h = if '*' ∈ h then .Skip else hostsLine hosts := by
  cases ip with
  | nil => exact absurd rfl (word_present [] hosts h body)
  | cons first more =>
      rw [parse_words h first more hosts body (address_unmarked first more address),
        if_pos address]

theorem hosts_iff (gap : space ≠ []) (blank : ∀ char ∈ space, isWhitespace char = true)
    (body : HostsBody h) :
    parseLine (h ++ space ++ '#' :: c) = parseLine h ↔
      '*' ∈ h ∨ '*' ∉ c ∧ ∀ word ∈ splitWhitespace ('#' :: c), ¬Taken word := by
  obtain ⟨ip, hosts, words, _, address⟩ := body
  rw [hosts_commented h space c gap blank ip hosts words address,
    hosts_parsed h ip hosts words address]
  by_cases dropped : '*' ∈ h
  · simp [dropped]
  · by_cases starred : '*' ∈ c
    · simp [dropped, starred, Ne.symm (hosts_line_kept hosts)]
    · simp [dropped, starred, hosts_line_iff]

theorem bare_iff (gap : space ≠ []) (blank : ∀ char ∈ space, isWhitespace char = true)
    (body : BareBody h) :
    parseLine (h ++ space ++ '#' :: c) = parseLine h ↔
      '*' ∈ h ∨ '*' ∉ c ∧ ¬Taken (trim h) := by
  obtain ⟨first, more, alone, foreign, plain⟩ := body
  have words := commented_words h space c gap blank
  rw [alone, List.singleton_append] at words
  have refused : bareLine (trim (h ++ space ++ '#' :: c)) = .Ignore := by
    rw [bare_line_iff]
    rintro ⟨_, domain⟩
    exact domain (marked_refused _ '#' ((mem_trim _ '#' rfl).mpr (by simp)) rfl rfl)
  rw [parse_words _ first more _ words plain, parse_words h first more [] alone plain, foreign,
    if_neg Bool.false_ne_true, if_neg Bool.false_ne_true, refused]
  simp only [commented_star h space c blank]
  by_cases dropped : '*' ∈ h
  · simp [dropped]
  · by_cases starred : '*' ∈ c
    · simp [dropped, starred, Ne.symm (bare_line_kept (trim h))]
    · simp only [dropped, starred, or_self, if_false, false_or, not_false_eq_true, true_and]
      rw [eq_comm, bare_line_iff]

/-- A comment leaves a line as it is exactly when the line is dropped for a star anyhow, or
there is no star in the comment and it adds no domain, or spoils none. -/
theorem comment_ignored_iff (gap : space ≠ [])
    (blank : ∀ char ∈ space, isWhitespace char = true) :
    (HostsBody h → (parseLine (h ++ space ++ '#' :: c) = parseLine h ↔
      '*' ∈ h ∨ '*' ∉ c ∧ ∀ word ∈ splitWhitespace ('#' :: c), ¬Taken word)) ∧
    (BareBody h → (parseLine (h ++ space ++ '#' :: c) = parseLine h ↔
      '*' ∈ h ∨ '*' ∉ c ∧ ¬Taken (trim h))) :=
  ⟨hosts_iff h space c gap blank, bare_iff h space c gap blank⟩

theorem comment_ignored_hosts :
    parseLine ("0.0.0.0 ads.example.com".toList ++ " ".toList ++ '#' :: " ad server".toList) =
      parseLine "0.0.0.0 ads.example.com" := by
  have body : HostsBody "0.0.0.0 ads.example.com" :=
    ⟨"0.0.0.0", ["ads.example.com"], by decide, by decide, by decide⟩
  have blank : ∀ char ∈ " ".toList, isWhitespace char = true := List.all_eq_true.mp rfl
  refine ((comment_ignored_iff _ " " " ad server" (by decide) blank).1 body).mpr (.inr ?_)
  refine ⟨by decide, ?_⟩
  have words : splitWhitespace ('#' :: " ad server".toList) =
      ["#".toList, "ad".toList, "server".toList] := by decide
  unfold Taken
  rw [words]
  decide

/-- A name in the comment is blocked, and a star or the comment itself drops the rule. -/
theorem comment_read :
    parseLine "0.0.0.0 ads.example.com # see example.org" =
        .Block ["ads.example.com", "example.org"] ∧
      parseLine "0.0.0.0 ads.example.com # *" = .Skip ∧
      parseLine "0.0.0.0 ads.example.com" = .Block ["ads.example.com"] ∧
      parseLine "ads.example.com # ads" = .Ignore ∧
      parseLine "ads.example.com" = .Block ["ads.example.com"] := by
  decide

end Bodies

end Dnsix.Comments
