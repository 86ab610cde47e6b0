import Dnsix.BlocklistSemantics
import Dnsix.HostText

/-!
The domains a loaded list holds. Every one is a lowercase dotted name of host characters and
no address. Its labels are those of the word the line offered, whatever their length, and a
query meets the domain only when they can stand in a name and are printed as listed.
-/

namespace Dnsix.ListedNames
open Ascii Blocking BlocklistSemantics Dns HostText IpText Presentation Synth

/-! What a line offers. -/
section Offers

/-- The word of a rule that holds nothing else. -/
def ruleWord (s : Text) : List Text :=
  let s := (stripPrefix s "||").getD s
  let rest := s.dropWhile fun char => !ruleEnd char
  if rest.isEmpty || rest == ['^'] then [s.takeWhile fun char => !ruleEnd char] else []

/-- The words a line offers as domains: that of a rule, the hosts behind an address, or the
line itself. -/
def offered (raw : Text) : List Text :=
  let line := trim raw
  match line with
  | [] => []
  | first :: _ =>
      if first = '#' ∨ first = '!' ∨ first = '[' then []
      else
        match stripPrefix line "@@" with
        | some rest => ruleWord rest
        | none =>
            if startsWith line "||" then ruleWord line
            else if first = '|' ∨ first = '/' ∨ first = '@' ∨ '*' ∈ line then []
            else
              let tokens := splitWhitespace line
              if isIpAddr (tokens.headD []) then tokens.tail.filter fun h => !isHostNoise h
              else if isHostNoise line then [] else [line]

/-- A word without the whitespace around it and the dots behind it. -/
def core (word : Text) : Text := trimEndMatches '.' (trim word)

/-- What a word is kept for. -/
def Named (name : Text) : Prop :=
  '.' ∈ name ∧ isIpAddr name = false ∧ ∀ char ∈ name, domainChar char = true

theorem normalize_iff (word domain : Text) :
    normalizeDomain word = some domain ↔
      Named (core word) ∧ domain = toAsciiLowercase (core word) := by
  unfold normalizeDomain
  rw [← core]
  dsimp only
  generalize core word = name
  unfold Named
  by_cases dotted : '.' ∈ name
  · have present : name.isEmpty = false := by
      cases name with
      | nil => cases dotted
      | cons char rest => rfl
    cases address : isIpAddr name with
    | true => simp [present]
    | false =>
        cases plain : name.all domainChar with
        | true =>
            have chars := List.all_eq_true.mp plain
            simp only [present, dotted, Bool.or_self, Bool.false_eq_true, not_true_eq_false,
              if_false, Bool.not_true, Option.some.injEq, true_and]
            constructor
            · exact fun same => ⟨chars, same.symm⟩
            · exact fun kept => kept.2.symm
        | false =>
            have foreign : ¬ ∀ char ∈ name, domainChar char = true := fun chars => by
              rw [List.all_eq_true.mpr chars] at plain
              cases plain
            simp [present, dotted, foreign]
  · simp [dotted]

theorem adblock_offers (s : Text) :
    (adblockDomain s).toList = (ruleWord s).filterMap normalizeDomain := by
  unfold adblockDomain ruleWord
  dsimp only
  split
  · rw [List.filterMap_cons, List.filterMap_nil]
    cases normalizeDomain _ <;> rfl
  · rfl

theorem block_rule_puts (domain : Option Text) :
    blocksOf (blockRule domain) ++ allowsOf (blockRule domain) = domain.toList := by
  cases domain <;> rfl

theorem allow_rule_puts (domain : Option Text) :
    blocksOf (allowRule domain) ++ allowsOf (allowRule domain) = domain.toList := by
  cases domain <;> rfl

theorem hosts_line_puts (tokens : List Text) :
    blocksOf (hostsLine tokens) ++ allowsOf (hostsLine tokens) =
      (tokens.filter fun h => !isHostNoise h).filterMap normalizeDomain := by
  unfold hostsLine
  dsimp only
  generalize (tokens.filter fun h => !isHostNoise h).filterMap normalizeDomain = domains
  cases domains with
  | nil => rfl
  | cons first rest => exact List.append_nil _

theorem bare_line_puts (line : Text) :
    blocksOf (bareLine line) ++ allowsOf (bareLine line) =
      (if isHostNoise line then [] else [line]).filterMap normalizeDomain := by
  unfold bareLine
  cases noise : isHostNoise line with
  | true => cases normalizeDomain line <;> rfl
  | false =>
      rw [if_neg Bool.false_ne_true, List.filterMap_cons, List.filterMap_nil]
      cases normalizeDomain line <;> rfl

/-- What a line puts into the sets are the offered words that are kept. -/
theorem line_offers (raw : Text) :
    blocksOf (parseLine raw) ++ allowsOf (parseLine raw) =
      (offered raw).filterMap normalizeDomain := by
  unfold parseLine offered
  dsimp only
  cases trim raw with
  | nil => rfl
  | cons first rest =>
      dsimp only
      split
      · rfl
      · cases stripPrefix (first :: rest) "@@" with
        | some body => exact (allow_rule_puts _).trans (adblock_offers body)
        | none =>
            dsimp only
            split
            · exact (block_rule_puts _).trans (adblock_offers _)
            · split
              · rfl
              · split
                · exact hosts_line_puts _
                · exact bare_line_puts _

/-- A name some line of the contents offers. -/
def Offered (contents : List Text) (name : Text) : Prop :=
  ∃ content ∈ contents, ∃ raw ∈ lines content, ∃ word ∈ offered raw, core word = name ∧ Named name

theorem put_iff (contents : List Text) (domain : Text) :
    GivenBlock contents domain ∨ GivenAllow contents domain ↔
      ∃ name, Offered contents name ∧ domain = toAsciiLowercase name := by
  have line : ∀ raw, domain ∈ blocksOf (parseLine raw) ∨ domain ∈ allowsOf (parseLine raw) ↔
      ∃ word ∈ offered raw, Named (core word) ∧ domain = toAsciiLowercase (core word) := by
    intro raw
    rw [← List.mem_append, line_offers, List.mem_filterMap]
    exact exists_congr fun word => and_congr_right fun _ => normalize_iff word domain
  constructor
  · rintro (⟨content, fetched, raw, read, listed⟩ | ⟨content, fetched, raw, read, listed⟩)
    · obtain ⟨word, given, named, same⟩ := (line raw).mp (.inl listed)
      exact ⟨core word, ⟨content, fetched, raw, read, word, given, rfl, named⟩, same⟩
    · obtain ⟨word, given, named, same⟩ := (line raw).mp (.inr listed)
      exact ⟨core word, ⟨content, fetched, raw, read, word, given, rfl, named⟩, same⟩
  · rintro ⟨_, ⟨content, fetched, raw, read, word, given, rfl, named⟩, same⟩
    rcases (line raw).mpr ⟨word, given, named, same⟩ with listed | listed
    · exact .inl ⟨content, fetched, raw, read, listed⟩
    · exact .inr ⟨content, fetched, raw, read, listed⟩

end Offers

/-! Well-formed names. -/
section Formed

/-- Labels a name can have. -/
def Labelled (labels : List Text) : Prop := ∀ label ∈ labels, label ≠ [] ∧ label.length ≤ 63

/-- A lowercase name of two labels or more, which is no address. -/
structure WellFormed (domain : Text) : Prop where
  lower : toAsciiLowercase domain = domain
  labels : Labelled (split '.' domain)
  two : 2 ≤ (split '.' domain).length
  chars : ∀ char ∈ domain, char = '.' ∨ hostChar char = true
  foreign : isIpAddr domain = false

theorem lowercase_labelled (labels : List Text) :
    Labelled (labels.map toAsciiLowercase) ↔ Labelled labels := by
  simp [Labelled, toAsciiLowercase]

/-- All but the labels holds of every name that is kept. -/
theorem well_formed_iff (name : Text) (named : Named name)
    (listed : IsDomain (toAsciiLowercase name)) :
    WellFormed (toAsciiLowercase name) ↔ Labelled (split '.' name) := by
  obtain ⟨dotted, foreign, chars⟩ := named
  have labels : Labelled (split '.' (toAsciiLowercase name)) ↔ Labelled (split '.' name) := by
    rw [split_lowercase, lowercase_labelled]
  constructor
  · exact fun formed => labels.mp formed.labels
  · intro labelled
    have colonless : ':' ∉ name := fun inside => absurd (chars ':' inside) (by decide)
    obtain ⟨first, second, more, pieces⟩ := domain_pieces _ listed
    refine ⟨lowercase_twice name, labels.mpr labelled, ?_, listed.chars, ?_⟩
    · rw [pieces]
      simp
    · by_contra address
      rw [Bool.not_eq_false] at address
      rw [lowercase_address name colonless address] at foreign
      cases foreign

end Formed

/-! Names a query can ask for. -/
section Met

variable {text : NameText} {escape : Bool → UInt8 → Text} {Error World : Type}

/-- The octets of the labels, each with its length octet. -/
def wire {Byte : Type} (labels : List (List Byte)) : Nat :=
  (labels.map fun label => label.length + 1).sum

@[simp] theorem wire_nil {Byte : Type} : wire ([] : List (List Byte)) = 0 := rfl

@[simp] theorem wire_cons {Byte : Type} (label : List Byte) (rest : List (List Byte)) :
    wire (label :: rest) = label.length + 1 + wire rest := by
  simp [wire]

/-- A name a message can carry. -/
def Sendable (name : Name) : Prop :=
  (∀ label ∈ name.labels, label ≠ [] ∧ label.length ≤ 63) ∧ wire name.labels < 255

/-- The walk meets the domain for some query. -/
def Matchable (text : NameText) (domain : Text) : Prop :=
  ∃ name, Sendable name ∧ domain ∈ walked text name :: afterDots (walked text name)

/-- Labels that a name can be printed with: none starts with a hyphen, or only the first
does and there is room for a dot before it in the same label. -/
def Printable (labels : List Text) : Prop :=
  (Unhyphened labels ∧ wire labels < 255) ∨
    (Unhyphened labels.tail ∧ (∀ first ∈ labels.head?, first.length < 63) ∧ wire labels + 1 < 255)

theorem spell_bytes (piece : Text) (host : Host piece) (lower : toAsciiLowercase piece = piece) :
    spell (piece.map byteOf) = piece := by
  rw [spell, List.map_map]
  conv_rhs => rw [← List.map_id piece]
  apply List.map_congr_left
  intro char inside
  simp only [Function.comp_apply, char_of_byte char (host char inside), id_eq]
  exact (lowercase_iff piece).mp lower char inside

theorem spell_pieces (pieces : List Text) (host : ∀ piece ∈ pieces, Host piece)
    (lower : ∀ piece ∈ pieces, toAsciiLowercase piece = piece) :
    (pieces.map fun piece => piece.map byteOf).map spell = pieces := by
  induction pieces with
  | nil => rfl
  | cons piece rest ih =>
      rw [List.forall_mem_cons] at host lower
      rw [List.map_cons, List.map_cons, spell_bytes piece host.1 lower.1, ih host.2 lower.2]

theorem map_wire {Byte Other : Type} (each : List Byte → List Other)
    (same : ∀ label, (each label).length = label.length) (labels : List (List Byte)) :
    wire (labels.map each) = wire labels := by
  induction labels with
  | nil => rfl
  | cons label rest ih => rw [List.map_cons, wire_cons, wire_cons, same, ih]

theorem suffix_wire {Byte : Type} (back labels : List (List Byte)) (suffix : back <:+ labels) :
    wire back ≤ wire labels := by
  obtain ⟨front, rfl⟩ := suffix
  simp [wire]

theorem matchable_printable (presents : Presents text escape) (domain : Text)
    (listed : IsDomain domain) (matchable : Matchable text domain) :
    Printable (split '.' domain) := by
  obtain ⟨name, ⟨labels, short⟩, visited⟩ := matchable
  rcases (met_iff presents name (fun label inside => (labels label inside).1) domain listed).mp
    visited with ⟨⟨back, suffix, spelled⟩, unhyphened⟩ |
      ⟨⟨before, after, back, suffix, spelled⟩, tail⟩
  · left
    refine ⟨unhyphened, ?_⟩
    rw [← spelled, map_wire spell fun label => List.length_map _]
    exact Nat.lt_of_le_of_lt (suffix_wire back name.labels suffix) short
  · right
    have long := suffix_wire _ name.labels suffix
    have first := (labels _ (suffix.subset List.mem_cons_self)).2
    have size : wire (split '.' domain) = (spell after).length + 1 + wire back := by
      rw [← spelled, wire_cons, map_wire spell fun label => List.length_map _]
    simp only [wire_cons, List.length_append, List.length_cons] at long first
    rw [spell, List.length_map] at size
    refine ⟨tail, ?_, by omega⟩
    intro piece head
    rw [← spelled] at head
    cases head
    simp only [spell, List.length_map]
    omega

/-- The labels themselves, or the first of them behind a dot, are such a name. -/
theorem printable_matchable (presents : Presents text escape) (domain : Text)
    (listed : IsDomain domain) (formed : WellFormed domain)
    (printable : Printable (split '.' domain)) : Matchable text domain := by
  have host := domain_host domain listed
  have lower : ∀ piece ∈ split '.' domain, toAsciiLowercase piece = piece := by
    have same := split_lowercase domain
    rw [formed.lower] at same
    intro piece inside
    rw [same] at inside
    obtain ⟨source, _, rfl⟩ := List.mem_map.mp inside
    exact lowercase_twice source
  have labels := formed.labels
  have byte_length : ∀ piece : Text, (piece.map byteOf).length = piece.length := fun piece =>
    List.length_map byteOf
  obtain ⟨first, second, more, pieces⟩ := domain_pieces domain listed
  rcases printable with ⟨unhyphened, short⟩ | ⟨tail, room, short⟩
  · have bounds : ∀ label ∈ (named (split '.' domain)).labels, label ≠ [] ∧ label.length ≤ 63 := by
      intro label inside
      obtain ⟨piece, listedPiece, rfl⟩ := List.mem_map.mp inside
      simpa using labels piece listedPiece
    refine ⟨named (split '.' domain), ⟨bounds, (map_wire _ byte_length _).trans_lt short⟩, ?_⟩
    rw [met_iff presents _ (fun label inside => (bounds label inside).1) domain listed]
    exact .inl ⟨⟨_, List.suffix_rfl, spell_pieces _ host lower⟩, unhyphened⟩
  · rw [pieces] at host lower labels room short
    let name : Name :=
      ⟨(46 :: first.map byteOf) :: (second :: more).map fun piece => piece.map byteOf, true⟩
    have bounds : ∀ label ∈ name.labels, label ≠ [] ∧ label.length ≤ 63 := by
      intro label inside
      rcases List.mem_cons.mp inside with rfl | later
      · have fits := room first rfl
        simp only [ne_eq, List.cons_ne_nil, not_false_eq_true, List.length_cons, List.length_map,
          true_and]
        omega
      · obtain ⟨piece, listedPiece, rfl⟩ := List.mem_map.mp later
        simpa using labels piece (List.mem_cons_of_mem first listedPiece)
    have size : wire name.labels < 255 := by
      have rest := map_wire _ byte_length (second :: more)
      rw [wire_cons] at short
      rw [wire_cons, rest, List.length_cons, List.length_map]
      omega
    refine ⟨name, ⟨bounds, size⟩, ?_⟩
    rw [met_iff presents _ (fun label inside => (bounds label inside).1) domain listed, pieces]
    refine .inr ⟨⟨[], first.map byteOf, _, List.suffix_rfl, ?_⟩, by rwa [pieces] at tail⟩
    have spelled := spell_pieces (first :: second :: more) host lower
    simpa only [List.map_cons] using spelled

theorem lowercase_head (label : Text) :
    (toAsciiLowercase label).head? = some '-' ↔ label.head? = some '-' := by
  cases label with
  | nil => simp [toAsciiLowercase]
  | cons char rest => simp [toAsciiLowercase, to_lower_eq_iff char '-' rfl]

theorem lowercase_unhyphened (labels : List Text) :
    Unhyphened (labels.map toAsciiLowercase) ↔ Unhyphened labels := by
  simp only [Unhyphened, List.forall_mem_map, ne_eq, lowercase_head]

theorem lowercase_printable (labels : List Text) :
    Printable (labels.map toAsciiLowercase) ↔ Printable labels := by
  have size : wire (labels.map toAsciiLowercase) = wire labels :=
    map_wire toAsciiLowercase (fun label => List.length_map _) labels
  have room : (∀ first ∈ (labels.map toAsciiLowercase).head?, first.length < 63) ↔
      ∀ first ∈ labels.head?, first.length < 63 := by
    cases labels <;> simp [toAsciiLowercase]
  rw [Printable, Printable, size, room, ← List.map_tail, lowercase_unhyphened,
    lowercase_unhyphened]

end Met

/-! The loaded sets. -/
section Loaded

variable {text : NameText} {escape : Bool → UInt8 → Text} {Error World : Type}

def Puts (bl : Blocklist Error) (domain : Text) : Prop :=
  domain ∈ bl.block ∨ domain ∈ bl.allow

theorem loaded_puts (fetch : Text → World → Except Error Text × World) (urls : List Text)
    (world : World) (domain : Text) :
    Puts (loadWith fetch urls world).1 domain ↔
      ∃ name, Offered (contentsOf (outcomes fetch urls world)) name ∧
        domain = toAsciiLowercase name := by
  have given := loaded_given fetch urls world domain
  rw [Puts, given.1, given.2, put_iff]

theorem puts_domain (fetch : Text → World → Except Error Text × World) (urls : List Text)
    (world : World) (domain : Text) (puts : Puts (loadWith fetch urls world).1 domain) :
    IsDomain domain := by
  have given := loaded_given fetch urls world domain
  rw [Puts, given.1, given.2] at puts
  rcases puts with block | allow
  · exact given_block_domain _ _ block
  · exact given_allow_domain _ _ allow

/-- A statement about all that is loaded, as one about all that is offered. -/
theorem loaded_all (fetch : Text → World → Except Error Text × World) (urls : List Text)
    (world : World) (holds : Text → Prop) (spelled : Text → Prop)
    (each : ∀ name, Named name → IsDomain (toAsciiLowercase name) →
      (holds (toAsciiLowercase name) ↔ spelled name)) :
    (∀ domain, Puts (loadWith fetch urls world).1 domain → holds domain) ↔
      ∀ name, Offered (contentsOf (outcomes fetch urls world)) name → spelled name := by
  constructor
  · intro all name offers
    have puts := (loaded_puts fetch urls world _).mpr ⟨name, offers, rfl⟩
    obtain ⟨_, _, _, _, _, _, _, named⟩ := offers
    exact (each name named (puts_domain fetch urls world _ puts)).mp (all _ puts)
  · intro all domain puts
    have listed := puts_domain fetch urls world domain puts
    obtain ⟨name, offers, rfl⟩ := (loaded_puts fetch urls world domain).mp puts
    have known := all name offers
    obtain ⟨_, _, _, _, _, _, _, named⟩ := offers
    exact (each name named listed).mpr known

end Loaded

end Dnsix.ListedNames
