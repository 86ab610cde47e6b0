import Dnsix.Blocking
import Dnsix.Presentation

/-!
What a loaded blocklist blocks. The walk goes over the printed name, dot by dot, and
the lists mean domains label by label. The two agree except where a label holds a
dot of its own, which the walk takes for a boundary, and where a listed label starts
with a hyphen, which the printed name escapes.
-/

namespace Dnsix.BlocklistSemantics
open Ascii Blocking Dns IpText Presentation Synth

variable {text : NameText} {escape : Bool → UInt8 → Text} {Error World : Type}

/-! The texts the walk visits. -/
section Walk

theorem after_dots_iff (full domain : Text) :
    domain ∈ afterDots full ↔ split '.' domain <:+ (split '.' full).tail := by
  induction full with
  | nil =>
      constructor
      · intro impossible
        cases impossible
      · intro suffix
        exact absurd (List.suffix_nil.mp suffix) (split_ne_nil '.' domain)
  | cons char rest ih =>
      rw [split_cons, afterDots]
      cases parts : split '.' rest with
      | nil => exact absurd parts (split_ne_nil '.' rest)
      | cons head tail =>
          rw [parts, List.tail_cons] at ih
          split
          · have whole : domain = rest ↔ split '.' domain = head :: tail := by
              rw [← parts]
              exact (split_injective '.').eq_iff.symm
            rw [List.mem_cons, ih, List.tail_cons, List.suffix_cons_iff, whole]
          · exact ih

/-- The walk visits the texts whose pieces the full text ends with. -/
theorem visited_iff (full domain : Text) :
    domain ∈ full :: afterDots full ↔ split '.' domain <:+ split '.' full := by
  have whole : domain = full ↔ split '.' domain = split '.' full :=
    (split_injective '.').eq_iff.symm
  rw [List.mem_cons, after_dots_iff, whole]
  cases parts : split '.' full with
  | nil => exact absurd parts (split_ne_nil '.' full)
  | cons head tail => rw [List.suffix_cons_iff, List.tail_cons]

theorem visited_suffix (full domain : Text) (visited : domain ∈ full :: afterDots full) :
    domain <:+ full := by
  induction full with
  | nil =>
      rw [List.mem_singleton.mp visited]
  | cons char rest ih =>
      rcases List.mem_cons.mp visited with rfl | later
      · exact List.suffix_rfl
      · have inside : domain ∈ rest :: afterDots rest := by
          rw [afterDots] at later
          split at later
          · exact later
          · exact List.mem_cons_of_mem rest later
        exact (ih inside).trans (List.suffix_cons char rest)

/-- An allowed text anywhere on the way unblocks; otherwise one blocked text blocks. -/
theorem walk_iff (bl : Blocklist Error) (rests : List Text) (blocked : Bool) :
    bl.walk rests blocked = true ↔
      (∀ rest ∈ rests, rest ∉ bl.allow) ∧
        (blocked = true ∨ ∃ rest ∈ rests, rest ∈ bl.block) := by
  induction rests generalizing blocked with
  | nil => simp [Blocklist.walk]
  | cons rest more ih =>
      rw [Blocklist.walk]
      by_cases allowed : rest ∈ bl.allow
      · simp [allowed]
      · rw [if_neg (by simpa using allowed), ih]
        simp [allowed, or_assoc]

end Walk

/-! Printed names. -/
section Printed

/-- A text the lists may hold: lowercase host labels, more than one, no dot at the end. -/
structure IsDomain (domain : Text) : Prop where
  chars : ∀ char ∈ domain, char = '.' ∨ hostChar char = true
  dotted : '.' ∈ domain
  undotted : domain.getLast? ≠ some '.'

theorem domain_host (domain : Text) (listed : IsDomain domain) :
    ∀ piece ∈ split '.' domain, Host piece := by
  intro piece part char inside
  rcases listed.chars char (part_mem '.' domain piece part char inside) with rfl | host
  · exact absurd inside (separator_not_in_part '.' domain piece part)
  · exact host

theorem domain_pieces (domain : Text) (listed : IsDomain domain) :
    ∃ first second more, split '.' domain = first :: second :: more := by
  rcases List.append_of_mem listed.dotted with ⟨front, back, shape⟩
  have pieces : split '.' domain = split '.' front ++ split '.' back := by
    rw [shape, split_append]
  cases left : split '.' front with
  | nil => exact absurd left (split_ne_nil '.' front)
  | cons first more =>
      cases right : split '.' back with
      | nil => exact absurd right (split_ne_nil '.' back)
      | cons second others =>
          rw [left, right] at pieces
          cases more with
          | nil => exact ⟨first, second, others, pieces⟩
          | cons next rest => exact ⟨first, next, rest ++ second :: others, pieces⟩

/-- A domain ends with a host character. -/
theorem domain_last (domain : Text) (listed : IsDomain domain) (char : Char)
    (last : domain.getLast? = some char) : hostChar char = true := by
  rcases listed.chars char (List.mem_of_getLast? last) with rfl | host
  · exact absurd last listed.undotted
  · exact host

/-- The text the walk starts from: the printed name without its last dots. -/
def walked (text : NameText) (name : Name) : Text :=
  toAsciiLowercase (trimEndMatches '.' (text.toAscii name))

theorem trimmed_body (presents : Presents text escape) (name : Name) :
    walked text name = toAsciiLowercase (trimEndMatches '.' (body escape name)) := by
  rw [walked, presents.joined name]
  refine congrArg toAsciiLowercase ?_
  split
  · exact List.rdropWhile_concat_pos _ _ _ rfl
  · rw [List.append_nil]
    rfl

theorem unlisted_last (domain : Text) (listed : IsDomain domain) (front : Text) (mark : Char)
    (foreign : hostChar mark = false) : ¬ domain <:+ front ++ [mark] := by
  rintro ⟨before, shape⟩
  have last : domain.getLast? = some mark := by
    have whole := congrArg List.getLast? shape
    rw [List.getLast?_concat] at whole
    cases domain with
    | nil => exact absurd listed.dotted List.not_mem_nil
    | cons first rest =>
        rwa [List.getLast?_append_of_ne_nil _ (List.cons_ne_nil first rest)] at whole
  have host := domain_last domain listed mark last
  rw [foreign] at host
  cases host

/-- Trimming the printed name changes nothing for a domain. -/
theorem trim_visited (presents : Presents text escape) (name : Name)
    (proper : ∀ label ∈ name.labels, label ≠ []) (domain : Text) (listed : IsDomain domain) :
    domain ∈ walked text name :: afterDots (walked text name) ↔
      domain ∈ toAsciiLowercase (body escape name) ::
        afterDots (toAsciiLowercase (body escape name)) := by
  rw [trimmed_body presents]
  by_cases last : (body escape name).getLast? = some '.'
  · rcases body_last_dot presents name proper last with ⟨front, shape⟩
    have parted : front ++ ['\\', '.'] = (front ++ ['\\']) ++ ['.'] := by
      rw [List.append_assoc]
      rfl
    have cut : trimEndMatches '.' (body escape name) = front ++ ['\\'] := by
      rw [shape, parted, trimEndMatches, List.rdropWhile_concat_pos _ _ _ rfl,
        List.rdropWhile_concat_neg _ _ _ (by decide)]
    have low : ∀ start mark, toAsciiLowercase (start ++ [mark]) =
        toAsciiLowercase start ++ [mark.toLower] := fun start mark => List.map_append
    -- Both texts end with a character no domain ends with.
    rw [cut, shape, parted, low, low]
    constructor
    · intro visited
      exact absurd (visited_suffix _ _ visited) (unlisted_last domain listed _ _ (by decide))
    · intro visited
      exact absurd (visited_suffix _ _ visited) (unlisted_last domain listed _ _ (by decide))
  · have kept : trimEndMatches '.' (body escape name) = body escape name := by
      apply List.rdropWhile_eq_self_iff.mpr
      intro present dot
      apply last
      rw [List.getLast?_eq_some_getLast present, beq_iff_eq.mp dot]
    rw [kept]

/-- The domains the walk meets: those the trailing labels spell, unless a label starts
with a hyphen, and those spelled from behind a dot inside a label. -/
theorem met_iff (presents : Presents text escape) (name : Name)
    (proper : ∀ label ∈ name.labels, label ≠ []) (domain : Text) (listed : IsDomain domain) :
    domain ∈ walked text name :: afterDots (walked text name) ↔
      (Trails name.labels (split '.' domain) ∧ Unhyphened (split '.' domain)) ∨
        (Cut name.labels (split '.' domain) ∧ Unhyphened (split '.' domain).tail) := by
  rw [trim_visited presents name proper domain listed, visited_iff]
  by_cases root : name.labels = []
  · rcases domain_pieces domain listed with ⟨first, second, more, pieces⟩
    have empty : split '.' (toAsciiLowercase (body escape name)) = [[]] := by
      rw [body, root]
      rfl
    rw [empty, pieces, root]
    constructor
    · intro suffix
      exact absurd suffix.length_le (by simp)
    · rintro (⟨⟨back, suffix, spelled⟩, _⟩ | ⟨⟨_, _, back, suffix, _⟩, _⟩)
      · rw [List.suffix_nil.mp suffix] at spelled
        cases spelled
      · cases List.suffix_nil.mp suffix
  · rw [body_pieces name root]
    exact suffix_pieces_iff presents name.labels _ (split_ne_nil '.' domain)
      (domain_host domain listed)

end Printed

/-! The lists. -/
section Lists

theorem normalize_domain_listed (s domain : Text) (kept : normalizeDomain s = some domain) :
    IsDomain domain := by
  unfold normalizeDomain at kept
  dsimp only at kept
  generalize trimmed : trimEndMatches '.' (trim s) = t at kept
  split at kept
  · cases kept
  split at kept
  · cases kept
  split at kept
  · cases kept
  rename_i _ dotted plain
  cases kept
  have all : ∀ char ∈ t, domainChar char = true := by simpa using plain
  constructor
  · intro char listed
    rcases List.mem_map.mp listed with ⟨source, inside, rfl⟩
    have known := all source inside
    unfold hostChar
    simp only [domainChar, Bool.or_eq_true, beq_iff_eq] at known ⊢
    rw [to_lower_alphanum, to_lower_eq_iff _ '.' rfl, to_lower_eq_iff _ '-' rfl,
      to_lower_eq_iff _ '_' rfl]
    tauto
  · exact List.mem_map.mpr ⟨'.', not_not.mp dotted, rfl⟩
  · intro last
    rw [toAsciiLowercase, List.getLast?_map, Option.map_eq_some_iff] at last
    rcases last with ⟨char, ended, lowered⟩
    rw [(to_lower_eq_iff char '.' rfl).mp lowered] at ended
    rw [← trimmed] at ended
    exact trimmed_last '.' (trim s) ended

def blocksOf : Line → List Text
  | .Block domains => domains
  | _ => []

def allowsOf : Line → List Text
  | .Allow domain => [domain]
  | _ => []

theorem adblock_listed (s domain : Text) (kept : adblockDomain s = some domain) :
    IsDomain domain := by
  unfold adblockDomain at kept
  dsimp only at kept
  split at kept
  · exact normalize_domain_listed _ _ kept
  · cases kept

structure Listed (line : Line) : Prop where
  blocks : ∀ domain ∈ blocksOf line, IsDomain domain
  allows : ∀ domain ∈ allowsOf line, IsDomain domain

theorem ignore_listed : Listed .Ignore :=
  ⟨fun _ listed => absurd listed List.not_mem_nil, fun _ listed => absurd listed List.not_mem_nil⟩

theorem skip_listed : Listed .Skip :=
  ⟨fun _ listed => absurd listed List.not_mem_nil, fun _ listed => absurd listed List.not_mem_nil⟩

theorem block_listed (domains : List Text) (all : ∀ domain ∈ domains, IsDomain domain) :
    Listed (.Block domains) := ⟨all, fun _ listed => absurd listed List.not_mem_nil⟩

theorem block_rule_listed (s : Text) : Listed (blockRule (adblockDomain s)) := by
  cases kept : adblockDomain s with
  | none => exact skip_listed
  | some d =>
      apply block_listed
      intro domain listed
      rw [List.mem_singleton.mp listed]
      exact adblock_listed s d kept

theorem allow_rule_listed (s : Text) : Listed (allowRule (adblockDomain s)) := by
  cases kept : adblockDomain s with
  | none => exact skip_listed
  | some d =>
      refine ⟨fun _ listed => absurd listed List.not_mem_nil, fun domain listed => ?_⟩
      rw [List.mem_singleton.mp listed]
      exact adblock_listed s d kept

theorem hosts_line_listed (tokens : List Text) : Listed (hostsLine tokens) := by
  unfold hostsLine
  dsimp only
  split
  · exact ignore_listed
  · apply block_listed
    intro domain listed
    rcases List.mem_filterMap.mp listed with ⟨token, _, kept⟩
    exact normalize_domain_listed token domain kept

theorem bare_line_listed (line : Text) : Listed (bareLine line) := by
  unfold bareLine
  split
  · rename_i d kept
    split
    · apply block_listed
      intro domain listed
      rw [List.mem_singleton.mp listed]
      exact normalize_domain_listed line d kept
    · exact ignore_listed
  · exact ignore_listed

theorem parse_line_listed (raw : Text) : Listed (parseLine raw) := by
  unfold parseLine
  dsimp only
  split
  · exact ignore_listed
  split
  · exact ignore_listed
  split
  · exact allow_rule_listed _
  split
  · exact block_rule_listed _
  split
  · exact skip_listed
  split
  · exact hosts_line_listed _
  · exact bare_line_listed _

/-- A domain given by a Block line, and by an Allow line, of a fetched source. -/
def GivenBlock (contents : List Text) (domain : Text) : Prop :=
  ∃ content ∈ contents, ∃ raw ∈ lines content, domain ∈ blocksOf (parseLine raw)

def GivenAllow (contents : List Text) (domain : Text) : Prop :=
  ∃ content ∈ contents, ∃ raw ∈ lines content, domain ∈ allowsOf (parseLine raw)

theorem given_block_domain (contents : List Text) (domain : Text)
    (given : GivenBlock contents domain) : IsDomain domain := by
  rcases given with ⟨_, _, raw, _, listed⟩
  exact (parse_line_listed raw).blocks domain listed

theorem given_allow_domain (contents : List Text) (domain : Text)
    (given : GivenAllow contents domain) : IsDomain domain := by
  rcases given with ⟨_, _, raw, _, listed⟩
  exact (parse_line_listed raw).allows domain listed

theorem insert_all (domains set : List Text) (domain : Text) :
    domain ∈ domains.foldl (fun set d => set.insert d) set ↔ domain ∈ set ∨ domain ∈ domains := by
  induction domains generalizing set with
  | nil => simp
  | cons first rest ih =>
      rw [List.foldl_cons, ih, List.mem_insert_iff, List.mem_cons]
      tauto

theorem tally_add (tally : Tally) (line : Line) (domain : Text) :
    (domain ∈ (tally.add line).block ↔ domain ∈ tally.block ∨ domain ∈ blocksOf line) ∧
      (domain ∈ (tally.add line).allow ↔ domain ∈ tally.allow ∨ domain ∈ allowsOf line) := by
  cases line with
  | Block domains => exact ⟨insert_all domains tally.block domain, by simp [Tally.add, allowsOf]⟩
  | Allow d =>
      constructor
      · simp [Tally.add, blocksOf]
      · rw [Tally.add, List.mem_insert_iff, allowsOf, List.mem_singleton]
        exact or_comm
  | Ignore => simp [Tally.add, blocksOf, allowsOf]
  | Skip => simp [Tally.add, blocksOf, allowsOf]

/-- Reading a source only adds what its lines give. -/
theorem tally_read (tally : Tally) (raws : List Text) (domain : Text) :
    (domain ∈ (raws.foldl (fun tally raw => tally.add (parseLine raw)) tally).block ↔
        domain ∈ tally.block ∨ ∃ raw ∈ raws, domain ∈ blocksOf (parseLine raw)) ∧
      (domain ∈ (raws.foldl (fun tally raw => tally.add (parseLine raw)) tally).allow ↔
        domain ∈ tally.allow ∨ ∃ raw ∈ raws, domain ∈ allowsOf (parseLine raw)) := by
  induction raws generalizing tally with
  | nil => simp
  | cons raw rest ih =>
      rw [List.foldl_cons, (ih _).1, (ih _).2, (tally_add tally _ domain).1,
        (tally_add tally _ domain).2]
      simp only [List.exists_mem_cons_iff, or_assoc, and_self]

/-- The outcomes of the fetches, made one after the other. -/
def outcomes (fetch : Text → World → Except Error Text × World) :
    List Text → World → List (Except Error Text)
  | [], _ => []
  | url :: rest, world => (fetch url world).1 :: outcomes fetch rest (fetch url world).2

/-- The contents of the sources that were fetched. -/
def contentsOf (outs : List (Except Error Text)) : List Text := outs.filterMap Except.toOption

theorem add_source (bl : Blocklist Error) (url : Text) (outcome : Except Error Text)
    (domain : Text) :
    (domain ∈ (bl.addSource url outcome).block ↔
        domain ∈ bl.block ∨ GivenBlock (contentsOf [outcome]) domain) ∧
      (domain ∈ (bl.addSource url outcome).allow ↔
        domain ∈ bl.allow ∨ GivenAllow (contentsOf [outcome]) domain) := by
  cases outcome with
  | error error => simp [Blocklist.addSource, contentsOf, GivenBlock, GivenAllow, Except.toOption]
  | ok content =>
      have read := tally_read ⟨bl.block, bl.allow, 0, 0, 0⟩ (lines content) domain
      simpa [contentsOf, GivenBlock, GivenAllow, Except.toOption, Blocklist.addSource, Tally.read]
        using read

theorem load_given (fetch : Text → World → Except Error Text × World) (urls : List Text)
    (world : World) (bl : Blocklist Error) (domain : Text) :
    let loaded := (urls.foldl
      (fun (bl, world) url =>
        let (outcome, after) := fetch url world
        (bl.addSource url outcome, after)) (bl, world)).1
    (domain ∈ loaded.block ↔
        domain ∈ bl.block ∨ GivenBlock (contentsOf (outcomes fetch urls world)) domain) ∧
      (domain ∈ loaded.allow ↔
        domain ∈ bl.allow ∨ GivenAllow (contentsOf (outcomes fetch urls world)) domain) := by
  induction urls generalizing bl world with
  | nil => simp [outcomes, contentsOf, GivenBlock, GivenAllow]
  | cons url rest ih =>
      have one := add_source bl url (fetch url world).1 domain
      have more := ih (fetch url world).2 (bl.addSource url (fetch url world).1)
      have both : contentsOf (outcomes fetch (url :: rest) world) =
          contentsOf [(fetch url world).1] ++
            contentsOf (outcomes fetch rest (fetch url world).2) := by
        rw [contentsOf, contentsOf, contentsOf, ← List.filterMap_append]
        rfl
      dsimp only at more ⊢
      rw [List.foldl_cons, both]
      constructor
      · rw [more.1, one.1]
        simp only [GivenBlock, List.mem_append, or_and_right, exists_or, or_assoc]
      · rw [more.2, one.2]
        simp only [GivenAllow, List.mem_append, or_and_right, exists_or, or_assoc]

end Lists

/-! The verdict. -/
section Verdict

/-- Trailing labels of the name equal a given domain. -/
def Under (name : Name) (given : Text → Prop) : Prop :=
  ∃ domain, given domain ∧ Trails name.labels (split '.' domain)

/-- What the lists mean: under a blocked domain and under no allowed one. -/
def Specified (contents : List Text) (name : Name) : Prop :=
  Under name (GivenBlock contents) ∧ ¬ Under name (GivenAllow contents)

/-- A domain the name is under, and which the walk finds. -/
def Found (name : Name) (given : Text → Prop) : Prop :=
  ∃ domain, given domain ∧ Trails name.labels (split '.' domain) ∧ Unhyphened (split '.' domain)

/-- A domain the name is under, and which the walk misses: a label of it starts with a
hyphen. -/
def Missed (name : Name) (given : Text → Prop) : Prop :=
  ∃ domain, given domain ∧ Trails name.labels (split '.' domain) ∧ ¬ Unhyphened (split '.' domain)

/-- A domain the walk finds behind a dot inside a label. -/
def Imagined (name : Name) (given : Text → Prop) : Prop :=
  ∃ domain, given domain ∧ Cut name.labels (split '.' domain) ∧
    Unhyphened (split '.' domain).tail

/-- The missed and the imagined domains do not change the verdict. -/
def Agrees (contents : List Text) (name : Name) : Prop :=
  Found name (GivenAllow contents) ∨
    (Found name (GivenBlock contents) ∧
      (Imagined name (GivenAllow contents) ↔ Missed name (GivenAllow contents))) ∨
    (¬ Found name (GivenBlock contents) ∧
      ((Imagined name (GivenBlock contents) ∧ ¬ Imagined name (GivenAllow contents)) ↔
        (Missed name (GivenBlock contents) ∧ ¬ Missed name (GivenAllow contents))))

theorem under_iff (name : Name) (given : Text → Prop) :
    Under name given ↔ Found name given ∨ Missed name given := by
  constructor
  · rintro ⟨domain, listed, trails⟩
    by_cases unhyphened : Unhyphened (split '.' domain)
    · exact .inl ⟨domain, listed, trails, unhyphened⟩
    · exact .inr ⟨domain, listed, trails, unhyphened⟩
  · rintro (⟨domain, listed, trails, _⟩ | ⟨domain, listed, trails, _⟩)
    · exact ⟨domain, listed, trails⟩
    · exact ⟨domain, listed, trails⟩

theorem met_given (presents : Presents text escape) (name : Name)
    (proper : ∀ label ∈ name.labels, label ≠ []) (given : Text → Prop)
    (domains : ∀ domain, given domain → IsDomain domain) :
    (∃ rest ∈ walked text name :: afterDots (walked text name), given rest) ↔
      Found name given ∨ Imagined name given := by
  constructor
  · rintro ⟨domain, visited, listed⟩
    rcases (met_iff presents name proper domain (domains domain listed)).mp visited with
      found | imagined
    · exact .inl ⟨domain, listed, found⟩
    · exact .inr ⟨domain, listed, imagined⟩
  · rintro (⟨domain, listed, found⟩ | ⟨domain, listed, imagined⟩)
    · exact ⟨domain, (met_iff presents name proper domain (domains domain listed)).mpr
        (.inl found), listed⟩
    · exact ⟨domain, (met_iff presents name proper domain (domains domain listed)).mpr
        (.inr imagined), listed⟩

/-- The two early returns of `is_blocked` answer as the walk would. -/
theorem is_blocked_iff (bl : Blocklist Error) (name : Name) (named : [] ∉ bl.block) :
    bl.isBlocked text name = true ↔
      (∃ rest ∈ walked text name :: afterDots (walked text name), rest ∈ bl.block) ∧
        ¬ ∃ rest ∈ walked text name :: afterDots (walked text name), rest ∈ bl.allow := by
  have walk := walk_iff bl (walked text name :: afterDots (walked text name)) false
  unfold Blocklist.isBlocked
  rw [← walked]
  dsimp only
  split
  · rename_i empty
    rw [List.isEmpty_iff.mp empty]
    simp
  split
  · rename_i empty
    rw [List.isEmpty_iff.mp empty]
    constructor
    · intro impossible
      cases impossible
    · rintro ⟨⟨rest, visited, listed⟩, _⟩
      rw [List.mem_singleton.mp visited] at listed
      exact absurd listed named
  · rw [walk]
    simp only [Bool.false_eq_true, false_or, not_exists, not_and]
    exact and_comm

theorem loaded_given (fetch : Text → World → Except Error Text × World) (urls : List Text)
    (world : World) (domain : Text) :
    (domain ∈ (loadWith fetch urls world).1.block ↔
        GivenBlock (contentsOf (outcomes fetch urls world)) domain) ∧
      (domain ∈ (loadWith fetch urls world).1.allow ↔
        GivenAllow (contentsOf (outcomes fetch urls world)) domain) := by
  have given := load_given fetch urls world .empty domain
  simpa [Blocklist.empty, loadWith] using given

theorem loaded_blocks (presents : Presents text escape)
    (fetch : Text → World → Except Error Text × World) (urls : List Text) (world : World)
    (name : Name) (proper : ∀ label ∈ name.labels, label ≠ []) :
    (loadWith fetch urls world).1.isBlocked text name = true ↔
      (Found name (GivenBlock (contentsOf (outcomes fetch urls world))) ∨
        Imagined name (GivenBlock (contentsOf (outcomes fetch urls world)))) ∧
      ¬ (Found name (GivenAllow (contentsOf (outcomes fetch urls world))) ∨
        Imagined name (GivenAllow (contentsOf (outcomes fetch urls world)))) := by
  have named : [] ∉ (loadWith fetch urls world).1.block := by
    intro listed
    have domain := given_block_domain _ _ ((loaded_given fetch urls world []).1.mp listed)
    exact absurd domain.dotted List.not_mem_nil
  rw [is_blocked_iff _ name named, ← met_given presents name proper _ (given_block_domain _),
    ← met_given presents name proper _ (given_allow_domain _)]
  simp only [(loaded_given fetch urls world _).1, (loaded_given fetch urls world _).2]

/-- Only the contents fetched count, not their order, their number, or the failures. -/
theorem loaded_congr (fetch other : Text → World → Except Error Text × World)
    (urls others : List Text) (world start : World)
    (same : ∀ content, content ∈ contentsOf (outcomes fetch urls world) ↔
      content ∈ contentsOf (outcomes other others start)) (name : Name) :
    (loadWith fetch urls world).1.isBlocked text name =
      (loadWith other others start).1.isBlocked text name := by
  have unnamed : ∀ (fetch : Text → World → Except Error Text × World) urls world,
      [] ∉ (loadWith fetch urls world).1.block := by
    intro fetch urls world listed
    have domain := given_block_domain _ _ ((loaded_given fetch urls world []).1.mp listed)
    exact absurd domain.dotted List.not_mem_nil
  rw [Bool.eq_iff_iff, is_blocked_iff _ name (unnamed fetch urls world),
    is_blocked_iff _ name (unnamed other others start)]
  simp only [(loaded_given _ _ _ _).1, (loaded_given _ _ _ _).2, GivenBlock, GivenAllow, same]

/-- What is missed or imagined matters only where nothing found decides. -/
theorem verdict_iff (found missed imagined allowed missedAllow imaginedAllow : Prop) :
    ((found ∨ imagined) ∧ ¬(allowed ∨ imaginedAllow) ↔
        (found ∨ missed) ∧ ¬(allowed ∨ missedAllow)) ↔
      allowed ∨ (found ∧ (imaginedAllow ↔ missedAllow)) ∨
        (¬found ∧ ((imagined ∧ ¬imaginedAllow) ↔ (missed ∧ ¬missedAllow))) := by
  by_cases exempt : allowed
  · simp [exempt]
  · by_cases blocked : found
    · simp [exempt, blocked, not_iff_not]
    · simp [exempt, blocked]

end Verdict

/-! Two names the walk judges wrongly: a label `x.example` before `com`, with
`example.com` listed, and a label `-a` before `com`, with `-a.com` listed. -/
section Samples

theorem under_listed (contents : List Text) (name : Name) :
    Under name (GivenBlock contents) ↔
      ∃ domain ∈ contents.flatMap fun content =>
          (lines content).flatMap fun raw => blocksOf (parseLine raw),
        split '.' domain ∈ name.labels.tails.map (List.map spell) := by
  simp only [Under, GivenBlock, Trails, List.mem_flatMap, List.mem_map, List.mem_tails]

def listing (content : Text) : Text → Unit → Except Unit Text × Unit :=
  fun _ world => (.ok content, world)

def dottedName : Name :=
  ⟨[[120, 46, 101, 120, 97, 109, 112, 108, 101], [99, 111, 109]], true⟩

def hyphenName : Name := ⟨[[45, 97], [99, 111, 109]], true⟩

theorem dotted_verdict :
    (loadWith (listing "example.com") ["https://list"] ()).1.isBlocked escapedText dottedName =
        true ∧
      ¬ Specified (contentsOf (outcomes (listing "example.com") ["https://list"] ()))
        dottedName := by
  constructor
  · decide
  · rintro ⟨blocked, _⟩
    exact absurd ((under_listed _ _).mp blocked) (by decide)

theorem hyphen_verdict :
    (loadWith (listing "-a.com") ["https://list"] ()).1.isBlocked escapedText hyphenName = false ∧
      Specified (contentsOf (outcomes (listing "-a.com") ["https://list"] ())) hyphenName := by
  refine ⟨by decide, (under_listed _ _).mpr (by decide), ?_⟩
  have unallowed : ((lines "-a.com").flatMap fun raw => allowsOf (parseLine raw)) = [] := by
    decide
  rintro ⟨domain, ⟨content, fetched, raw, line, allowed⟩, _⟩
  rw [List.mem_singleton.mp fetched] at line
  have listed : domain ∈ (lines "-a.com").flatMap fun raw => allowsOf (parseLine raw) :=
    List.mem_flatMap.mpr ⟨raw, line, allowed⟩
  rw [unallowed] at listed
  cases listed

end Samples

end Dnsix.BlocklistSemantics
