import Dnsix.IpText

/-!
The guard of the dashboard. It reads a name or an address off the Host header and lets the
request in when it knows the name, whatever it left behind. The texts behind a bracket and
behind a single colon are where it lets in more than the forms it is for.
-/

namespace Dnsix.HostGuard
open Ascii IpText

/-! The guard. -/
section Guard

/-- Cut at the last separator. -/
def rsplitOnce (separator : Char) (text : Text) : Option (Text × Text) :=
  (splitOnce separator text.reverse).map fun (back, front) => (front.reverse, back.reverse)

def stripPort (host : Text) : Text :=
  match stripPrefix host "[" with
  | some rest => (split ']' rest).headD rest
  | none =>
      match rsplitOnce ':' host with
      | some (h, _) => if ':' ∈ h then host else h
      | none => host

def hostIsAllowed : Option Text → Bool
  | none => false
  | some host =>
      let hostname := stripPort host
      eqIgnoreAsciiCase hostname "localhost" || isIpAddr hostname

/-- What is let in, once it is alone. -/
def Known (name : Text) : Prop :=
  eqIgnoreAsciiCase name "localhost" = true ∨ isIpAddr name = true

theorem allowed_iff (host : Text) : hostIsAllowed (some host) = true ↔ Known (stripPort host) := by
  simp [-String.reduceToList, hostIsAllowed, Known]

theorem rsplit_some (separator : Char) (text front back : Text)
    (cut : rsplitOnce separator text = some (front, back)) :
    text = front ++ separator :: back ∧ separator ∉ back := by
  unfold rsplitOnce at cut
  obtain ⟨⟨first, second⟩, found, same⟩ := Option.map_eq_some_iff.mp cut
  cases same
  have shape := congrArg List.reverse (split_once_some separator _ first second found)
  have absent := split_once_front separator _ first second found
  simp only [List.reverse_reverse, List.reverse_append, List.reverse_cons, List.append_assoc,
    List.singleton_append] at shape
  exact ⟨shape, fun inside => absent (List.mem_reverse.mp inside)⟩

theorem rsplit_append (separator : Char) (front back : Text) (absent : separator ∉ back) :
    rsplitOnce separator (front ++ separator :: back) = some (front, back) := by
  have turned : (front ++ separator :: back).reverse =
      back.reverse ++ separator :: front.reverse := by simp
  rw [rsplitOnce, turned, split_once_append separator _ _ fun inside =>
    absent (List.mem_reverse.mp inside)]
  simp

theorem rsplit_none (separator : Char) (text : Text) (absent : separator ∉ text) :
    rsplitOnce separator text = none := by
  rw [rsplitOnce, (split_once_none separator _).mpr fun inside =>
    absent (List.mem_reverse.mp inside)]
  rfl

/-! The three ways a port is looked for. -/

theorem strip_bracketed (inner back : Text) (whole : ']' ∉ inner)
    (ends : ∀ char ∈ back.head?, char = ']') : stripPort ('[' :: (inner ++ back)) = inner := by
  have stripped : stripPrefix ('[' :: (inner ++ back)) "[" = some (inner ++ back) := rfl
  unfold stripPort
  rw [stripped]
  dsimp only
  cases back with
  | nil => simp [split_whole ']' inner whole]
  | cons char rest =>
      rw [ends char rfl, split_append, split_whole ']' inner whole]
      rfl

theorem unbracketed (host : Text) (bare : host.head? ≠ some '[') :
    stripPrefix host "[" = none := by
  cases host with
  | nil => rfl
  | cons char rest =>
      have other : char ≠ '[' := fun same => bare (congrArg some same)
      simp [stripPrefix, startsWith, List.isPrefixOf, Ne.symm other]

theorem strip_single (name port : Text) (bare : (name ++ ':' :: port).head? ≠ some '[')
    (colonless : ':' ∉ name) (last : ':' ∉ port) : stripPort (name ++ ':' :: port) = name := by
  unfold stripPort
  rw [unbracketed _ bare, rsplit_append ':' name port last]
  exact if_neg colonless

theorem strip_none (host : Text) (bare : host.head? ≠ some '[') (colonless : ':' ∉ host) :
    stripPort host = host := by
  unfold stripPort
  rw [unbracketed host bare, rsplit_none ':' host colonless]

theorem strip_many (host : Text) (bare : host.head? ≠ some '[') (many : 2 ≤ host.count ':') :
    stripPort host = host := by
  unfold stripPort
  rw [unbracketed host bare]
  dsimp only
  split
  · rename_i h port cut
    obtain ⟨shape, last⟩ := rsplit_some ':' host h port cut
    have inside : ':' ∈ h := by
      rw [shape, List.count_append, List.count_cons_self, List.count_eq_zero.mpr last] at many
      exact List.count_pos_iff.mp (by omega)
    exact if_pos inside
  · rfl

end Guard

/-! The forms it is for. -/
section Forms

def Named (name : Text) : Prop :=
  eqIgnoreAsciiCase name "localhost" = true ∨ (parseIpv4 name).isSome

def Port (back : Text) : Prop := back = [] ∨ ∃ digits, back = ':' :: digits ∧ Digits 10 digits

/-- The machine itself or an IPv4 address, an IPv6 address in brackets, either with a port
or without one, and an IPv6 address alone. -/
inductive Form (host : Text) : Prop
  | named (name back : Text) (named : Named name) (port : Port back) (shape : host = name ++ back)
  | bracketed (inner back : Text) (address : (parseIpv6 inner).isSome) (port : Port back)
      (shape : host = '[' :: (inner ++ ']' :: back))
  | bare (address : (parseIpv6 host).isSome)

/-- What is let in beside the forms: a known name behind an opening bracket that is no IPv6
address, is not closed or is followed by something else than a port, and one in front of the
only colon with no port behind it. -/
inductive Leaks (host : Text) : Prop
  | bracketed (inner back : Text) (known : Known inner) (whole : ']' ∉ inner)
      (ends : ∀ char ∈ back.head?, char = ']')
      (foreign : ¬((parseIpv6 inner).isSome ∧ ∃ behind, back = ']' :: behind ∧ Port behind))
      (shape : host = '[' :: (inner ++ back))
  | port (name port : Text) (named : Named name) (last : ':' ∉ port)
      (foreign : ¬Digits 10 port) (shape : host = name ++ ':' :: port)

theorem named_known (name : Text) (named : Named name) : Known name :=
  named.imp id fun address => (address_iff name).mpr (.inl address)

/-- A known name without a colon, brackets or anything else of an address. -/
theorem named_chars (name : Text) (named : Named name) (mark : Char) (plain : mark.isAlpha = false)
    (foreign : mark ≠ '.' ∧ (toDigit 10 mark).isSome = false) : mark ∉ name := by
  intro inside
  rcases named with localhost | address
  · have lower : toAsciiLowercase name = "localhost".toList := beq_iff_eq.mp localhost
    have listed : mark ∈ toAsciiLowercase name :=
      List.mem_map.mpr ⟨mark, inside, (to_lower_eq_iff mark mark plain).mpr rfl⟩
    rw [lower] at listed
    have letters : ∀ char ∈ "localhost".toList, char.isAlpha = true := List.all_eq_true.mp rfl
    rw [letters mark listed] at plain
    cases plain
  · rcases dotted_chars name (parse_ipv4_dotted name address) mark inside with digit | dot
    · rw [foreign.2] at digit
      cases digit
    · exact foreign.1 dot

theorem named_colonless (name : Text) (named : Named name) : ':' ∉ name :=
  named_chars name named ':' rfl (by decide)

theorem named_bare (name : Text) (named : Named name) : name.head? ≠ some '[' :=
  fun first => named_chars name named '[' rfl (by decide) (List.mem_of_head? first)

theorem named_present (name : Text) (named : Named name) : name ≠ [] := by
  rintro rfl
  rcases named with localhost | address
  · exact absurd localhost (by decide)
  · exact absurd address (by decide)

theorem known_named (name : Text) (known : Known name) (colonless : ':' ∉ name) : Named name := by
  refine known.imp id fun address => ?_
  rcases (address_iff name).mp address with v4 | v6
  · exact v4
  · have two := (parse_ipv6_chars name v6).2
    rw [List.count_eq_zero.mpr colonless] at two
    omega

theorem ipv6_lacks (text : Text) (address : (parseIpv6 text).isSome) (mark : Char)
    (foreign : ¬AddressChar mark) : mark ∉ text :=
  fun inside => foreign ((parse_ipv6_chars text address).1 mark inside)

theorem bracket_foreign : ¬AddressChar '[' ∧ ¬AddressChar ']' := by
  unfold AddressChar
  decide

theorem digits_colonless (digits : Text) (all : Digits 10 digits) : ':' ∉ digits :=
  fun inside => absurd (all.2 ':' inside) (by decide)

theorem ported_bare (name port : Text) (named : Named name) :
    (name ++ ':' :: port).head? ≠ some '[' := by
  rw [List.head?_append_of_ne_nil _ (named_present name named)]
  exact named_bare name named

theorem ipv6_bare (host : Text) (address : (parseIpv6 host).isSome) : host.head? ≠ some '[' :=
  fun first => ipv6_lacks host address '[' bracket_foreign.1 (List.mem_of_head? first)

/-- Every form is let in. -/
theorem form_allowed (host : Text) (form : Form host) : Known (stripPort host) := by
  cases form with
  | named name back named port shape =>
      rcases port with rfl | ⟨digits, rfl, all⟩
      · rw [List.append_nil] at shape
        rw [shape, strip_none name (named_bare name named) (named_colonless name named)]
        exact named_known name named
      · rw [shape, strip_single name digits (ported_bare name digits named)
          (named_colonless name named) (digits_colonless digits all)]
        exact named_known name named
  | bracketed inner back address port shape =>
      rw [shape, strip_bracketed inner (']' :: back)
        (ipv6_lacks inner address ']' bracket_foreign.2)
        fun char head => (Option.some.inj head).symm]
      exact .inr ((address_iff inner).mpr (.inr address))
  | bare address =>
      rw [strip_many host (ipv6_bare host address) (parse_ipv6_chars host address).2]
      exact .inr ((address_iff host).mpr (.inr address))

theorem leak_allowed (host : Text) (leaks : Leaks host) : Known (stripPort host) := by
  cases leaks with
  | bracketed inner back known whole ends foreign shape =>
      rwa [shape, strip_bracketed inner back whole ends]
  | port name port named last foreign shape =>
      rw [shape, strip_single name port (ported_bare name port named)
        (named_colonless name named) last]
      exact named_known name named

/-- No form is a leak: what was taken off the text tells how it was written. -/
theorem leak_formless (host : Text) (leaks : Leaks host) : ¬Form host := by
  intro form
  cases leaks with
  | bracketed inner back known whole ends foreign shape =>
      have start : host.head? = some '[' := by rw [shape]; rfl
      cases form with
      | named name after named port same =>
          rw [same, List.head?_append_of_ne_nil _ (named_present name named)] at start
          exact named_bare name named start
      | bracketed address after v6 port same =>
          have closed := ipv6_lacks address v6 ']' bracket_foreign.2
          have one := strip_bracketed inner back whole ends
          have two := strip_bracketed address (']' :: after) closed
            fun char head => (Option.some.inj head).symm
          rw [← shape] at one
          rw [← same] at two
          have inside : inner = address := one.symm.trans two
          rw [shape, inside, List.cons.injEq, List.append_cancel_left_eq] at same
          rw [inside] at foreign
          exact foreign ⟨v6, after, same.2, port⟩
      | bare v6 => exact ipv6_bare host v6 start
  | port name port named last foreign shape =>
      have colonless := named_colonless name named
      have bare : host.head? ≠ some '[' := by
        rw [shape]
        exact ported_bare name port named
      have single : host.count ':' = 1 := by
        rw [shape, List.count_append, List.count_cons_self, List.count_eq_zero.mpr colonless,
          List.count_eq_zero.mpr last]
      cases form with
      | named other after known ported same =>
          rcases ported with rfl | ⟨digits, rfl, all⟩
          · rw [List.append_nil] at same
            rw [same, List.count_eq_zero.mpr (named_colonless other known)] at single
            cases single
          · have one := strip_single name port (ported_bare name port named) colonless last
            have two := strip_single other digits (ported_bare other digits known)
              (named_colonless other known) (digits_colonless digits all)
            rw [← shape] at one
            rw [← same] at two
            have whole : name = other := one.symm.trans two
            rw [shape, whole, List.append_cancel_left_eq, List.cons.injEq] at same
            rw [same.2] at foreign
            exact foreign all
      | bracketed inner after v6 ported same =>
          rw [same] at bare
          exact bare rfl
      | bare v6 =>
          have two := (parse_ipv6_chars host v6).2
          omega

/-- What is let in behind an opening bracket. -/
theorem bracketed_cases (rest : Text) (known : Known (stripPort ('[' :: rest))) :
    Form ('[' :: rest) ∨ Leaks ('[' :: rest) := by
  have parted : rest = rest.takeWhile (· != ']') ++ rest.dropWhile (· != ']') :=
    List.takeWhile_append_dropWhile.symm
  have whole : ']' ∉ rest.takeWhile (· != ']') := by
    intro inside
    have other := List.mem_takeWhile_imp inside
    simp at other
  have ends : ∀ char ∈ (rest.dropWhile (· != ']')).head?, char = ']' := by
    intro char head
    have stop := List.head?_dropWhile_not (· != ']') rest
    rw [head] at stop
    simpa using stop
  generalize rest.takeWhile (· != ']') = inner at parted whole
  generalize rest.dropWhile (· != ']') = back at parted ends
  rw [parted, strip_bracketed inner back whole ends] at known
  by_cases good : (parseIpv6 inner).isSome ∧ ∃ behind, back = ']' :: behind ∧ Port behind
  · obtain ⟨address, behind, shape, port⟩ := good
    exact .inl (.bracketed inner behind address port (by rw [parted, shape]))
  · exact .inr (.bracketed inner back known whole ends good (by rw [parted]))

/-- What is let in without a bracket, by its colons. -/
theorem unbracketed_cases (host : Text) (bare : host.head? ≠ some '[')
    (known : Known (stripPort host)) : Form host ∨ Leaks host := by
  rcases Nat.lt_or_ge (host.count ':') 2 with few | many
  · by_cases colonless : ':' ∉ host
    · rw [strip_none host bare colonless] at known
      exact .inl (.named host [] (known_named host known colonless) (.inl rfl)
        (List.append_nil host).symm)
    · rw [not_not] at colonless
      obtain ⟨name, port, shape⟩ := List.append_of_mem colonless
      rw [shape, List.count_append, List.count_cons_self] at few
      have before : ':' ∉ name := List.count_eq_zero.mp (by omega)
      have behind : ':' ∉ port := List.count_eq_zero.mp (by omega)
      rw [shape] at bare
      rw [shape, strip_single name port bare before behind] at known
      have named := known_named name known before
      by_cases digits : Digits 10 port
      · exact .inl (.named name (':' :: port) named (.inr ⟨port, rfl, digits⟩) shape)
      · exact .inr (.port name port named behind digits shape)
  · rw [strip_many host bare many] at known
    have coloned : ':' ∈ host := List.count_pos_iff.mp (Nat.lt_of_lt_of_le Nat.zero_lt_two many)
    rcases known with localhost | address
    · exact absurd coloned (named_colonless host (.inl localhost))
    · rcases (address_iff host).mp address with v4 | v6
      · exact absurd coloned (named_colonless host (.inr v4))
      · exact .inl (.bare v6)

theorem allowed_cases (host : Text) :
    hostIsAllowed (some host) = true ↔ Form host ∨ Leaks host := by
  rw [allowed_iff]
  constructor
  · intro known
    cases host with
    | nil => exact unbracketed_cases [] (fun impossible => nomatch impossible) known
    | cons char rest =>
        by_cases bracket : char = '['
        · subst bracket
          exact bracketed_cases rest known
        · exact unbracketed_cases (char :: rest)
            (fun first => bracket (Option.some.inj first)) known
  · rintro (form | leaks)
    · exact form_allowed host form
    · exact leak_allowed host leaks

/-- A missing header is refused, every form is let in, and the guard is exact on a text
exactly when it is no leak. -/
theorem guard_exact_iff (host : Text) :
    hostIsAllowed none = false ∧ (Form host → hostIsAllowed (some host) = true) ∧
      ((hostIsAllowed (some host) = true ↔ Form host) ↔ ¬Leaks host) := by
  refine ⟨rfl, fun form => (allowed_cases host).mpr (.inl form), ?_⟩
  rw [allowed_cases]
  have formless := leak_formless host
  tauto

/-- A foreign name behind a bracketed literal, and any text behind the colon. -/
theorem guard_leaks :
    (hostIsAllowed (some "[::1]evil.com") = true ∧ ¬Form "[::1]evil.com") ∧
      (hostIsAllowed (some "localhost:evil.com") = true ∧ ¬Form "localhost:evil.com") := by
  refine ⟨⟨by decide, ?_⟩, by decide, ?_⟩
  · apply leak_formless
    refine .bracketed "::1" "]evil.com" (by unfold Known; decide) (by decide)
      (fun char head => (Option.some.inj head).symm) ?_ rfl
    rintro ⟨_, behind, shape, port⟩
    cases shape
    rcases port with empty | ⟨digits, same, _⟩
    · cases empty
    · cases same
  · apply leak_formless
    refine .port "localhost" "evil.com" (by unfold Named; decide) (by decide) ?_ rfl
    intro digits
    exact absurd (digits.2 'e' (by decide)) (by decide)

end Forms

end Dnsix.HostGuard
