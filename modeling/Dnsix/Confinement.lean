import Dnsix.AlibabaEndpoints
import Dnsix.OracleEndpoints

/-!
To whose names the providers confine themselves. Each hostname rewrite applies under the
provider's own domains only and asks for a name under one of them; the S3 rewrite looks
at every label of the domain but the registry's, and the test for Microsoft Edge at the
text of the zone instead of its labels.
-/

namespace Dnsix.Confinement
open Ascii Cdn Dns HostText Panics Presentation Rewrites Synth

variable {text : NameText} {escape : Bool → UInt8 → Text}

variable (text) in
/-- The name is one of the domains or under one. -/
def Under (domains : List (List Text)) (name : Name) : Prop :=
  ∃ domain ∈ domains, domain <:+ labels text name

variable (text) in
/-- The rewrite applies under the domains only, and asks for names under them. -/
def Confined (domains : List (List Text)) (rewrite : Name → Checked (Option Name)) : Prop :=
  ∀ name target, rewrite name = .ok (some target) →
    Under text domains name ∧ Under text domains target

variable (text) in
/-- What a rewrite returns for a name, before the DNS library has read it. -/
def Asks (domains : List (List Text)) (name : Name) (found : Option Name) : Prop :=
  found = none ∨ Under text domains name ∧
    ∃ front, ∃ domain ∈ domains, found = nameFromLabels text (front ++ domain)

/-! The domains. -/
section Domains

def akamaiDomains : List (List Text) := [["akamaiedge", "net"], ["akamai", "net"]]

def awsglbDomains : List (List Text) := [["awsglobalaccelerator", "com"]]

def azureDomains : List (List Text) := [["azurewebsites", "windows", "net"]]

def cacheflyDomains : List (List Text) := [["cachefly", "net"]]

def s3Domains : List (List Text) := [["amazonaws", "com"], ["amazonaws", "com", "cn"]]

def ossDomains : List (List Text) := [["aliyuncs", "com"], ["aliyun-inc", "com"]]

def oracleDomains : List (List Text) :=
  [["oraclecloud", "com"], ["oci", "customer-oci", "com"]]

def providers : List (List (List Text)) :=
  [akamaiDomains, awsglbDomains, azureDomains, cacheflyDomains, s3Domains, ossDomains,
    oracleDomains]

theorem domain_host (domains : List (List Text)) (provider : domains ∈ providers) :
    ∀ domain ∈ domains, ∀ label ∈ domain, HostLabel label := by
  intro domain known label listed
  have flat : label ∈ providers.flatten.flatten :=
    List.mem_flatten.mpr ⟨domain, List.mem_flatten.mpr ⟨domains, provider, known⟩, listed⟩
  exact (hosts_checked _ rfl label flat).1

end Domains

theorem confined_of_asks (reads : Reads text) (domains : List (List Text))
    (rewrite : Name → Checked (Option Name)) (provider : domains ∈ providers)
    (asks : ∀ name, Yields (rewrite name) (Asks text domains name)) :
    Confined text domains rewrite := by
  intro name target found
  rcases asks name _ found with none | ⟨under, front, domain, listed, read⟩
  · cases none
  · have hosts := domain_host domains provider domain listed
    exact ⟨under, domain, listed, reads.trails front domain target hosts read.symm⟩

/-! The rewrites that test every label of the domain. -/
section Rewriting

theorem asks_kept {domains : List (List Text)} {name : Name} {domain parts : List Text}
    (listed : domain ∈ domains) (under : domain <:+ labels text name) (kept : domain <:+ parts) :
    Asks text domains name (nameFromLabels text parts) := by
  rcases kept with ⟨front, rfl⟩
  exact .inr ⟨⟨domain, listed, under⟩, front, domain, listed, rfl⟩

/-- The last two labels, found by their places from the back. -/
theorem tested_two {l : List Text} {first second : Text}
    (one : Vec.backIs l 1 first = .ok true) (two : Vec.backIs l 2 second = .ok true) :
    [second, first] <:+ l :=
  back_is_suffix l [first] second (back_is_suffix l [] first List.nil_suffix one) two

theorem tested_three {l : List Text} {first second third : Text}
    (one : Vec.backIs l 1 first = .ok true) (two : Vec.backIs l 2 second = .ok true)
    (three : Vec.backIs l 3 third = .ok true) : [third, second, first] <:+ l :=
  back_is_suffix l [second, first] third (tested_two one two) three

/-- What a rewrite does behind a test may rely on what has passed it. -/
theorem yields_tested {test : Checked Bool} {rest : Checked (Option Name)} {passed : Prop}
    {property : Option Name → Prop} (tested : test = .ok true → passed) (refused : property none)
    (behind : passed → Yields rest property) :
    Yields (test >>= fun holds => if !holds then .ok none else rest) property := by
  intro found returned
  obtain ⟨holds, answer, returned⟩ := bind_ok returned
  cases holds with
  | false => exact yields_ok none refused found returned
  | true => exact behind (tested answer) found returned

theorem akamai_asks (name : Name) :
    Yields (akamaiRewrite text name) (Asks text akamaiDomains name) := by
  have tested : andAlso (Vec.backIs (labels text name) 1 "net")
      (orElse (Vec.backIs (labels text name) 2 "akamaiedge")
        (Vec.backIs (labels text name) 2 "akamai")) = .ok true →
      ∃ domain ∈ akamaiDomains, domain.length = 2 ∧ domain <:+ labels text name := by
    intro passed
    obtain ⟨net, either⟩ := and_also_true passed
    rcases or_else_true either with edge | plain
    · exact ⟨_, List.mem_cons_self, rfl, tested_two net edge⟩
    · exact ⟨_, List.mem_cons_of_mem _ List.mem_cons_self, rfl, tested_two net plain⟩
  refine yields_ite (fun _ => yields_ok _ (.inl rfl)) fun _ => ?_
  refine yields_tested tested (.inl rfl) ?_
  rintro ⟨domain, listed, two, under⟩
  refine yields_bind yields_any fun lab _ => ?_
  refine yields_bind (yields_assign_back _ domain 3 _ under (by omega)) fun edited kept => ?_
  exact yields_ok _ (asks_kept listed under kept)

theorem awsglb_asks (name : Name) :
    Yields (awsglbRewrite text name) (Asks text awsglbDomains name) := by
  have tested : andAlso (Vec.backIs (labels text name) 1 "com")
      (Vec.backIs (labels text name) 2 "awsglobalaccelerator") = .ok true →
      ["awsglobalaccelerator".toList, "com".toList] <:+ labels text name := by
    intro passed
    obtain ⟨com, accelerator⟩ := and_also_true passed
    exact tested_two com accelerator
  refine yields_ite (fun _ => yields_ok _ (.inl rfl)) fun _ => ?_
  refine yields_tested tested (.inl rfl) fun under => ?_
  refine yields_bind yields_any fun dual _ => ?_
  refine yields_ite (fun _ => ?_) fun _ => ?_
  · exact yields_ok _ (asks_kept List.mem_cons_self under under)
  · refine yields_bind (yields_insert_back _ _ 2 _ under (Nat.le_refl 2)) fun edited kept => ?_
    exact yields_ok _ (asks_kept List.mem_cons_self under kept)

theorem azure_asks (name : Name) :
    Yields (azureRewrite text name) (Asks text azureDomains name) := by
  have tested : andAlso (Vec.backIs (labels text name) 1 "net")
      (andAlso (Vec.backIs (labels text name) 2 "windows")
        (Vec.backIs (labels text name) 3 "azurewebsites")) = .ok true →
      ["azurewebsites".toList, "windows".toList, "net".toList] <:+ labels text name := by
    intro passed
    obtain ⟨net, inner⟩ := and_also_true passed
    obtain ⟨windows, sites⟩ := and_also_true inner
    exact tested_three net windows sites
  refine yields_ite (fun _ => yields_ok _ (.inl rfl)) fun _ => ?_
  refine yields_tested tested (.inl rfl) fun under => ?_
  refine yields_bind (yields_assign_back _ _ 4 _ under (Nat.lt_succ_self 3)) fun edited kept => ?_
  exact yields_ok _ (asks_kept List.mem_cons_self under kept)

/-- The parts are joined to a text, which is read label by label again. -/
theorem cachefly_parsed (first middle : Text) :
    parseName text (first ++ "-dstack.".toList ++ middle ++ ".cachefly.net".toList) =
      nameFromLabels text ([first ++ "-dstack".toList, middle] ++
        ["cachefly".toList, "net".toList]) := by
  have joined : join "." ([first ++ "-dstack".toList, middle, "cachefly".toList] ++
      ["net".toList]) = first ++ "-dstack.".toList ++ middle ++ ".cachefly.net".toList := by
    simp [join, List.intercalate_cons_cons]
  rw [← joined]
  exact parse_joined _ "net" (by decide) (by decide)

theorem cachefly_asks (name : Name) :
    Yields (cacheflyRewrite text name) (Asks text cacheflyDomains name) := by
  have tested : andAlso (Vec.backIs (labels text name) 2 "cachefly")
      (Vec.backIs (labels text name) 1 "net") = .ok true →
      ["cachefly".toList, "net".toList] <:+ labels text name := by
    intro passed
    obtain ⟨cachefly, net⟩ := and_also_true passed
    exact tested_two net cachefly
  refine yields_ite (fun _ => yields_ok _ (.inl rfl)) fun _ => ?_
  refine yields_tested tested (.inl rfl) fun under => ?_
  refine yields_bind yields_any fun first _ => ?_
  refine yields_ite (fun _ => yields_ok _ (.inl rfl)) fun _ => ?_
  refine yields_bind yields_any fun inner _ => ?_
  refine yields_ite (fun _ => yields_ok _ (.inl rfl)) fun _ => ?_
  refine yields_ok _ ?_
  rw [cachefly_parsed]
  exact asks_kept List.mem_cons_self under (List.suffix_append _ _)

theorem suffix_listed (suffix : OracleEndpoints.Suffix) : suffix.labels ∈ oracleDomains := by
  cases suffix with
  | oraclecloud => exact List.mem_cons_self
  | customerOci => exact List.mem_cons_of_mem _ List.mem_cons_self

theorem oracle_asks (name : Name) :
    Yields (oracleRewrite text name) (Asks text oracleDomains name) := by
  intro found returned
  cases found with
  | none => exact .inl rfl
  | some target =>
      obtain ⟨form, listed⟩ := OracleEndpoints.accepted_form name target returned
      obtain ⟨reading, canonical, same⟩ := form.canonical_labels
      rw [← same] at listed
      obtain ⟨result, _, labels, _⟩ := reading.target_form canonical
      rw [reading.read_target canonical name listed, reading.target_parsed, ← labels] at returned
      rw [← Except.ok.inj returned]
      refine .inr ⟨⟨_, suffix_listed reading.suffix, ?_⟩, result.body, _,
        suffix_listed result.suffix, rfl⟩
      rw [listed]
      exact List.suffix_append _ _

end Rewriting

/-! The rewrites of the reversed labels, whose edits stay behind the first two. -/
section Reversed

theorem yields_splice_insert (v start : List Text) (i : Nat) (val : Text)
    (kept : start <+: v) (behind : start.length ≤ i) :
    Yields (spliceInsert v i val) fun result => start <+: result :=
  yields_insert v start _ val kept (Nat.le_min.mpr ⟨behind, kept.length_le⟩)

theorem yields_splice_remove (v start : List Text) (i : Nat)
    (kept : start <+: v) (behind : start.length ≤ i) :
    Yields (spliceRemove v i) fun result => start <+: result :=
  yields_ite (fun _ => yields_remove v start i kept behind) fun _ => yields_ok v kept

theorem yields_splice_replace (v start : List Text) (i : Nat) (val : Text)
    (kept : start <+: v) (behind : start.length ≤ i) :
    Yields (spliceReplace v i val) fun result => start <+: result :=
  yields_ite (fun _ => yields_assign v start i val kept behind)
    fun _ => yields_splice_insert v start i val kept behind

/-- An edit that is made under a condition. -/
theorem yields_when {condition : Prop} [Decidable condition] {edit : Checked (List Text)}
    (v start : List Text) (kept : start <+: v) (edits : Yields edit fun result => start <+: result) :
    Yields (if condition then edit else .ok v) fun result => start <+: result :=
  yields_ite (fun _ => edits) fun _ => yields_ok v kept

/-- The suffix the guard of the OSS rewrite tests. -/
theorem oss_guarded (name target : Name) (found : ossRewrite text name = .ok (some target)) :
    ∃ second third rest, (labels text name).reverse = "com".toList :: second :: third :: rest ∧
      (second = "aliyuncs".toList ∨ second = "aliyun-inc".toList) := by
  unfold ossRewrite at found
  generalize (labels text name).reverse = s at found
  obtain ⟨renamed, assigned, found⟩ := bind_ok found
  have length : renamed.length = s.length := by
    split at assigned
    · unfold Vec.assign at assigned
      split at assigned
      · rw [← Except.ok.inj assigned, List.length_set]
      · cases assigned
    · rw [Except.ok.inj assigned]
  split at found
  · cases found
  · rename_i passed
    rw [not_or, not_not, length] at passed
    obtain ⟨⟨first, second⟩, long⟩ := passed
    match s with
    | [] => exact absurd (Nat.zero_le 2) long
    | [_] => exact absurd (Nat.le_succ 1) long
    | [_, _] => exact absurd (Nat.le_refl 2) long
    | one :: two :: third :: rest =>
        have com : one = "com".toList := Option.some.inj (idx_some _ _ 0 first)
        refine ⟨two, third, rest, by rw [com], ?_⟩
        rcases second with plain | inc
        · exact .inl (Option.some.inj (idx_some _ _ 1 plain))
        · exact .inr (Option.some.inj (idx_some _ _ 1 inc))

theorem body_place (s : List Text) (dpff1 : Option Nat) :
    Yields (ossBody s dpff1) fun body => 2 ≤ body.2 := by
  refine yields_bind yields_any fun third _ => ?_
  refine yields_ite (fun _ => ?_) fun _ => yields_ok _ (Nat.le_refl 2)
  exact yields_bind yields_any fun fourth _ => yields_ok _ (Nat.le_succ 2)

/-- Behind the suffix every edit is at the third label or later. -/
theorem edited_behind (s : List Text) (kept : ["com".toList, "aliyuncs".toList] <+: s) :
    Yields (AlibabaEndpoints.edited text s) fun found => ∃ front,
      found = nameFromLabels text (front ++ ["aliyuncs".toList, "com".toList]) := by
  refine yields_bind (body_place s _) fun body place => ?_
  obtain ⟨ssdomains, ssdoaminloc⟩ := body
  have shortened := yields_splice_remove s _ 3 kept (Nat.le_succ 2)
  refine yields_bind (yields_when s _ kept shortened) fun s kept => ?_
  refine yields_bind yields_any fun undashed _ => ?_
  refine yields_bind yields_any fun region _ => ?_
  have placed : Yields (if !region.isEmpty then
        if ssdoaminloc < s.length then Vec.assign s ssdoaminloc (join "-" region)
        else .ok (s ++ [join "-" region])
      else spliceRemove s 2) fun s => ["com".toList, "aliyuncs".toList] <+: s := by
    refine yields_ite (fun _ => ?_) fun _ => yields_splice_remove s _ 2 kept (Nat.le_refl 2)
    refine yields_ite (fun _ => yields_assign s _ ssdoaminloc _ kept place) fun _ => ?_
    exact yields_ok _ (kept.trans (List.prefix_append s _))
  refine yields_bind placed fun s kept => ?_
  have served := yields_splice_insert s _ 2 "oss" kept (Nat.le_refl 2)
  refine yields_bind (yields_when s _ kept served) fun s kept => ?_
  obtain ⟨front, shape⟩ := List.reverse_suffix.mpr kept
  exact yields_ok _ ⟨front, by rw [← shape]; rfl⟩

theorem oss_asks (name : Name) : Yields (ossRewrite text name) (Asks text ossDomains name) := by
  intro found returned
  cases found with
  | none => exact .inl rfl
  | some target =>
      obtain ⟨second, third, rest, shape, suffix⟩ := oss_guarded name target returned
      rw [AlibabaEndpoints.rewrite_suffixed name second third rest shape suffix] at returned
      obtain ⟨front, asked⟩ :=
        edited_behind _ (List.prefix_append ["com".toList, "aliyuncs".toList] (third :: rest))
          _ returned
      have under : [second, "com".toList] <:+ labels text name := by
        rw [← List.reverse_prefix, shape]
        exact List.prefix_append _ (third :: rest)
      refine .inr ⟨⟨[second, "com".toList], ?_, under⟩, front, _, List.mem_cons_self, asked⟩
      rcases suffix with rfl | rfl
      · exact List.mem_cons_self
      · exact List.mem_cons_of_mem _ List.mem_cons_self

end Reversed

/-! The S3 rewrite. -/
section S3

/-- The labels in front are left, where the reshaping does not give up. -/
def Reshaped (start : List Text) (result : Option (List Text × Option Nat)) : Prop :=
  ∀ s dp1, result = some (s, dp1) → start <+: s

theorem yields_reshaped (start s : List Text) (dp1 : Option Nat) (kept : start <+: s) :
    Yields (.ok (some (s, dp1))) (Reshaped start) := by
  refine yields_ok _ ?_
  rintro _ _ ⟨⟩
  exact kept

theorem yields_given_up (start : List Text) : Yields (.ok none) (Reshaped start) :=
  yields_ok _ fun _ _ impossible => nomatch impossible

theorem reshape_kept (s start : List Text) (dp1 : Option Nat) (kept : start <+: s)
    (two : start.length = 2) : Yields (s3Reshape s dp1) (Reshaped start) := by
  refine yields_bind yields_any fun third _ => ?_
  have pushed : Yields (if s.length = 5 then (Vec.index s 4).map fun v => s ++ [v] else .ok s)
      fun s => start <+: s := by
    refine yields_ite (fun _ => ?_) fun _ => yields_ok s kept
    intro result returned
    cases read : Vec.index s 4 with
    | error panic =>
        rw [read] at returned
        cases returned
    | ok v =>
        rw [read] at returned
        cases returned
        exact kept.trans (List.prefix_append s [v])
  refine yields_bind pushed fun s kept => ?_
  refine yields_bind yields_any fun head _ => ?_
  refine yields_ite (fun _ => ?_) fun _ => ?_
  · refine yields_bind (yields_splice_insert s start 2 _ kept (by omega)) fun s kept => ?_
    exact yields_reshaped start s none kept
  refine yields_ite (fun _ => ?_) fun _ => ?_
  · refine yields_bind (yields_splice_remove s start 4 kept (by omega)) fun s kept => ?_
    exact yields_reshaped start s dp1 kept
  refine yields_ite (fun _ => ?_) fun _ => ?_
  · refine yields_bind (yields_splice_remove s start 4 kept (by omega)) fun s kept => ?_
    exact yields_reshaped start s none kept
  refine yields_ite (fun _ => yields_given_up start) fun _ => ?_
  refine yields_ite (fun _ => ?_) fun _ => ?_
  · refine yields_bind (yields_splice_insert s start 2 _ kept (by omega)) fun s kept => ?_
    have renamed := yields_assign s start 3 "s3-r-w" kept (by omega)
    refine yields_bind (yields_when s start kept renamed) fun s kept => ?_
    exact yields_reshaped start s dp1 kept
  refine yields_ite (fun _ => ?_) fun _ => ?_
  · refine yields_bind (yields_splice_remove s start 4 kept (by omega)) fun s kept => ?_
    exact yields_reshaped start s dp1 kept
  refine yields_ite (fun _ => ?_) fun _ => ?_
  · refine yields_bind (yields_splice_replace s start 2 _ kept (by omega)) fun s kept => ?_
    refine yields_bind (yields_splice_replace s start 3 _ kept (by omega)) fun s kept => ?_
    exact yields_reshaped start s dp1 kept
  refine yields_ite (fun _ => ?_) fun _ => ?_
  · refine yields_ite (fun _ => yields_given_up start) fun _ => ?_
    refine yields_bind (yields_splice_remove s start 2 kept (by omega)) fun s kept => ?_
    refine yields_bind yields_any fun region _ => ?_
    refine yields_bind (yields_splice_insert s start 2 _ kept (by omega)) fun s kept => ?_
    have served := yields_splice_insert s start 3 "s3" kept (by omega)
    refine yields_bind (yields_when s start kept served) fun s kept => ?_
    exact yields_reshaped start s dp1 kept
  refine yields_ite (fun _ => ?_) fun _ => yields_given_up start
  · refine yields_bind (yields_splice_insert s start 2 _ kept (by omega)) fun s kept => ?_
    exact yields_reshaped start s dp1 kept

/-- The last label, before a final `cn`. -/
def registry (parts : List Text) : Option Text :=
  (if parts.getLast? = some "cn".toList then parts.dropLast else parts).getLast?

/-- The suffix that is taken off at the front of the reversed labels, and the rest. -/
theorem suffix_taken (s : List Text) :
    Yields (if idx s "cn" = some 0 then Vec.remove s 0 else .ok s) fun taken =>
      ∃ tail, s.reverse = taken.reverse ++ tail ∧ (tail = [] ∨ tail = ["cn".toList]) ∧
        registry s.reverse = taken.head? := by
  cases s with
  | nil => exact yields_ok _ ⟨[], rfl, .inl rfl, rfl⟩
  | cons first rest =>
      refine yields_ite (fun chinese => ?_) fun other => ?_
      · rw [idx_head] at chinese
        refine yields_ok _ ⟨["cn".toList], ?_, .inr rfl, ?_⟩
        · rw [chinese, List.reverse_cons]
          rfl
        · rw [chinese, registry, List.reverse_cons, List.getLast?_concat, if_pos rfl,
            List.dropLast_concat, List.getLast?_reverse]
          rfl
      · rw [idx_head] at other
        refine yields_ok _ ⟨[], (List.append_nil _).symm, .inl rfl, ?_⟩
        have last : some first ≠ some "cn".toList := fun same => other (Option.some.inj same)
        rw [registry, List.reverse_cons, List.getLast?_concat, if_neg last, List.getLast?_concat]
        rfl

variable (text) in
/-- The labels the S3 rewrite looks at are there, before and after. -/
def Accepted (name : Name) (found : Option Name) : Prop :=
  ∃ first front back tail tail', registry (labels text name) = some first ∧
    labels text name = front ++ ["amazonaws".toList, first] ++ tail ∧
    (tail = [] ∨ tail = ["cn".toList]) ∧
    found = nameFromLabels text (back ++ ["amazonaws".toList, first] ++ tail') ∧
    (tail' = [] ∨ tail' = ["cn".toList])

theorem splice_front (v : List Text) (val : Text) : spliceInsert v 0 val = .ok (val :: v) := by
  simp [spliceInsert, Vec.insert]

theorem s3_accepted (name : Name) :
    Yields (s3Rewrite text name) fun found => found = none ∨ Accepted text name found := by
  refine yields_bind (suffix_taken (labels text name).reverse) ?_
  rintro s ⟨tail, shape, ended, registered⟩
  rw [List.reverse_reverse] at shape registered
  refine yields_ite (fun _ => yields_ok _ (.inl rfl)) fun _ => ?_
  refine yields_ite (fun _ => yields_ok _ (.inl rfl)) fun guarded => ?_
  obtain ⟨second, long⟩ := not_not.mp guarded
  match s with
  | [] => exact absurd (Nat.zero_le 2) (Nat.not_le_of_lt long)
  | [_] => exact absurd (Nat.le_succ 1) (Nat.not_le_of_lt long)
  | first :: amazonaws :: rest =>
      have same : amazonaws = "amazonaws".toList := Option.some.inj (idx_some _ _ 1 second)
      subst same
      refine yields_bind (reshape_kept _ [first, "amazonaws".toList] _
        (List.prefix_append _ rest) rfl) fun reshaped kept => ?_
      cases reshaped with
      | none => exact yields_ok _ (.inl rfl)
      | some pair =>
          obtain ⟨s, dp1⟩ := pair
          have kept := kept s dp1 rfl
          have dual := yields_splice_insert s _ 3 "dualstack" kept (Nat.le_succ 2)
          refine yields_bind (yields_when s _ kept dual) fun s kept => ?_
          have restored : Yields (if dp1 = some 0 then spliceInsert s 0 "cn" else .ok s)
              fun result => ∃ tail, result = tail ++ s ∧ (tail = [] ∨ tail = ["cn".toList]) := by
            refine yields_ite (fun _ => ?_) fun _ => yields_ok _ ⟨[], rfl, .inl rfl⟩
            rw [splice_front]
            exact yields_ok _ ⟨["cn".toList], rfl, .inr rfl⟩
          refine yields_bind restored ?_
          rintro _ ⟨tail', rfl, ended'⟩
          obtain ⟨more, rfl⟩ := kept
          refine yields_ok _ (.inr ⟨first, rest.reverse, more.reverse, tail, tail', registered,
            ?_, ended, ?_, ended'⟩)
          · simpa [-String.reduceToList] using shape
          · rcases ended' with rfl | rfl
            · simp [-String.reduceToList]
            · simp [-String.reduceToList]

theorem registry_under (parts domain : List Text) (known : domain ∈ s3Domains)
    (under : domain <:+ parts) : registry parts = some "com".toList := by
  obtain ⟨front, rfl⟩ := under
  have other : some "com".toList ≠ some "cn".toList := by decide
  rcases List.mem_cons.mp known with rfl | chinese
  · have shape : front ++ ["amazonaws".toList, "com".toList] =
        (front ++ ["amazonaws".toList]) ++ ["com".toList] := by simp
    rw [shape, registry, List.getLast?_concat, if_neg other, List.getLast?_concat]
  · rw [List.mem_singleton.mp chinese]
    have shape : front ++ ["amazonaws".toList, "com".toList, "cn".toList] =
        (front ++ ["amazonaws".toList]) ++ ["com".toList] ++ ["cn".toList] := by simp
    rw [shape, registry, List.getLast?_concat, if_pos rfl, List.dropLast_concat,
      List.getLast?_concat]

theorem ended_domain (tail : List Text) (ended : tail = [] ∨ tail = ["cn".toList]) :
    ["amazonaws".toList, "com".toList] ++ tail ∈ s3Domains := by
  rcases ended with rfl | rfl
  · exact List.mem_cons_self
  · exact List.mem_cons_of_mem _ List.mem_cons_self

/-- An accepted name and the name asked for are both under a domain of the provider exactly
when the registry of the accepted one is `com`. -/
theorem s3_confined_iff (reads : Reads text) (name target : Name)
    (found : s3Rewrite text name = .ok (some target)) :
    Under text s3Domains name ∧ Under text s3Domains target ↔
      registry (labels text name) = some "com".toList := by
  constructor
  · rintro ⟨⟨domain, known, under⟩, _⟩
    exact registry_under _ domain known under
  · intro com
    rcases s3_accepted name _ found with none |
      ⟨first, front, back, tail, tail', registered, listed, ended, asked, ended'⟩
    · cases none
    have same : first = "com".toList := Option.some.inj (registered.symm.trans com)
    subst same
    rw [List.append_assoc] at listed asked
    refine ⟨⟨_, ended_domain tail ended, front, listed.symm⟩, _, ended_domain tail' ended', ?_⟩
    exact reads.trails back _ target
      (domain_host s3Domains (by simp [providers]) _ (ended_domain tail' ended')) asked.symm

end S3

/-! The zone of Microsoft Edge. -/
section Zone

def edge : Text := "msedge"

variable (text) in
/-- The zone's last label is `net`, and the one before ends with `msedge`. -/
def EdgeZone (zone : Name) : Prop :=
  ∃ front second, labels text zone = front ++ [second, "net".toList] ∧ edge <:+ second

variable (text) in
/-- The text that is searched, without the dots at its end. -/
def zoneText (zone : Name) : Text := toAsciiLowercase (trimEndMatches '.' (text.toAscii zone))

theorem last_part_full (t : Text) (parts : List Text) (undotted : t.getLast? ≠ some '.')
    (cut : split '.' t = parts ++ [[]]) : parts = [] := by
  by_contra present
  have whole : ∀ part ∈ parts, '.' ∉ part := by
    intro part listed
    apply separator_not_in_part '.' t part
    rw [cut]
    exact List.mem_append_left _ listed
  have same : split '.' (join ['.'] parts ++ ['.']) = split '.' t := by
    rw [split_append, split_joined '.' parts present whole, cut]
    rfl
  rw [← split_injective '.' same, List.getLast?_concat] at undotted
  exact undotted rfl

theorem last_part (front word : Text) (whole : '.' ∉ word) :
    ∃ parts last, split '.' (front ++ word) = parts ++ [last] ∧ word <:+ last := by
  induction front with
  | nil => exact ⟨[], word, split_whole '.' word whole, List.suffix_rfl⟩
  | cons char rest ih =>
      obtain ⟨parts, last, cut, suffix⟩ := ih
      rw [List.cons_append, split_cons, cut]
      split
      · exact ⟨[] :: parts, last, rfl, suffix⟩
      · cases parts with
        | nil => exact ⟨[], char :: last, rfl, suffix.trans (List.suffix_cons char last)⟩
        | cons head others => exact ⟨(char :: head) :: others, last, rfl, suffix⟩

/-- The last two labels are the last two pieces: no empty piece is behind one that does
not end with a backslash. -/
theorem kept_at_end (pieces front : List Text) (second last : Text)
    (chain : pieces.IsChain Escaped) (unescaped : second.getLast? ≠ some '\\')
    (full : ∀ parts, pieces = parts ++ [[]] → parts = [])
    (kept : pieces.filter (fun part => !part.isEmpty) = front ++ [second, last]) :
    ∃ early, pieces = early ++ [second, last] := by
  obtain ⟨early, late, rfl, _, kept⟩ := List.filter_eq_append_iff.mp kept
  obtain ⟨empty, behind, rfl, _, _, kept⟩ := List.filter_eq_cons_iff.mp kept
  obtain ⟨between, trailing, rfl, gone, _, none⟩ := List.filter_eq_cons_iff.mp kept
  have adjacent : between = [] := by
    cases between with
    | nil => rfl
    | cons piece others =>
        have absent : piece = [] := by simpa using gone piece List.mem_cons_self
        have shape : early ++ (empty ++ second :: (piece :: others ++ last :: trailing)) =
            (early ++ empty) ++ second :: piece :: (others ++ last :: trailing) := by simp
        exact absurd (List.isChain_iff_forall_rel_of_append_cons_cons.mp chain shape absent)
          unescaped
  have final : trailing = [] := by
    rcases List.eq_nil_or_concat trailing with nil | ⟨more, piece, shape⟩
    · exact nil
    · rw [List.concat_eq_append] at shape
      subst shape
      have absent : piece = [] := by simpa using List.filter_eq_nil_iff.mp none piece (by simp)
      have parts := full (early ++ (empty ++ second :: (between ++ last :: more)))
        (by simp [absent])
      simp at parts
  subst adjacent final
  exact ⟨early ++ empty, by simp⟩

theorem text_at_end (t : Text) (early : List Text) (second last : Text)
    (cut : split '.' t = early ++ [second, last]) :
    ∃ before, t = before ++ (second ++ '.' :: last) := by
  have parted := separator_not_in_part '.' t
  rw [cut] at parted
  have whole : ∀ part ∈ early ++ [second], '.' ∉ part := by
    intro part listed
    apply parted part
    rw [← List.singleton_append, ← List.append_assoc]
    exact List.mem_append_left _ listed
  have same : split '.' (join ['.'] (early ++ [second]) ++ '.' :: last) = split '.' t := by
    rw [split_append, split_joined '.' _ (by simp) whole,
      split_whole '.' last (parted last (by simp)), cut, List.append_assoc]
    rfl
  obtain ⟨before, joined⟩ : ∃ before, join ['.'] (early ++ [second]) = before ++ second :=
    join_last early second
  refine ⟨before, ?_⟩
  rw [← split_injective '.' same, joined, List.append_assoc]

/-- The labels at the end are the text's end. -/
theorem last_labels_iff (t : Text) (chain : (split '.' t).IsChain Escaped)
    (undotted : t.getLast? ≠ some '.') :
    (∃ front second, (split '.' t).filter (fun part => !part.isEmpty) =
        front ++ [second, "net".toList] ∧ edge <:+ second) ↔
      edge ++ '.' :: "net".toList <:+ t := by
  constructor
  · rintro ⟨front, second, kept, word, rfl⟩
    have unescaped : (word ++ edge).getLast? ≠ some '\\' := by
      rw [List.getLast?_append_of_ne_nil _ (by decide)]
      decide
    obtain ⟨early, cut⟩ := kept_at_end _ front (word ++ edge) _ chain unescaped
      (fun parts => last_part_full t parts undotted) kept
    obtain ⟨before, shape⟩ := text_at_end t early (word ++ edge) _ cut
    exact ⟨before ++ word, by rw [shape]; simp [-String.reduceToList]⟩
  · rintro ⟨front, rfl⟩
    obtain ⟨parts, last, cut, suffix⟩ := last_part front edge (by decide)
    have present : last ≠ [] := by
      rintro rfl
      exact absurd (List.suffix_nil.mp suffix) (by decide)
    have pieces : split '.' (front ++ (edge ++ '.' :: "net".toList)) =
        parts ++ [last, "net".toList] := by
      rw [← List.append_assoc, split_append, cut, split_whole '.' "net".toList (by decide),
        List.append_assoc]
      rfl
    refine ⟨parts.filter fun part => !part.isEmpty, last, ?_, suffix⟩
    rw [pieces, List.filter_append]
    simp [-String.reduceToList, present]

theorem zone_chain (presents : Presents text escape) (zone : Name)
    (proper : ∀ label ∈ zone.labels, label ≠ []) :
    (split '.' (zoneText text zone)).IsChain Escaped := by
  have printed : (split '.' (toAsciiLowercase (body escape zone))).IsChain Escaped := by
    by_cases root : zone.labels = []
    · rw [body, root]
      exact List.isChain_singleton _
    · rw [body_pieces zone root]
      exact pieces_chain presents zone.labels proper
  have trimmed :
      trimEndMatches '.' (text.toAscii zone) = trimEndMatches '.' (body escape zone) := by
    rw [presents.joined, ← body]
    split
    · exact trim_dot _
    · rw [List.append_nil]
  rw [zoneText, trimmed]
  by_cases dotted : (body escape zone).getLast? = some '.'
  · obtain ⟨front, shape⟩ := body_last_dot presents zone proper dotted
    have ended : front ++ ['\\', '.'] = (front ++ ['\\']) ++ ['.'] := by simp
    rw [shape, ended] at printed ⊢
    rw [trim_dot, trim_whole (front ++ ['\\']) (by simp)]
    rw [toAsciiLowercase, List.map_append] at printed
    have cut := split_append '.' (toAsciiLowercase (front ++ ['\\'])) []
    rw [toAsciiLowercase] at cut ⊢
    exact (cut ▸ printed).left_of_append
  · rw [trim_whole _ dotted]
    exact printed

theorem edge_zone_iff (presents : Presents text escape) (zone : Name)
    (proper : ∀ label ∈ zone.labels, label ≠ []) :
    EdgeZone text zone ↔ edge ++ '.' :: "net".toList <:+ zoneText text zone := by
  have undotted : (zoneText text zone).getLast? ≠ some '.' := by
    rw [zoneText, toAsciiLowercase, List.getLast?_map, ne_eq, Option.map_eq_some_iff]
    rintro ⟨char, last, lower⟩
    rw [(to_lower_eq_iff char '.' rfl).mp lower] at last
    exact trimmed_last '.' _ last
  have listed : labels text zone =
      (split '.' (zoneText text zone)).filter fun part => !part.isEmpty := by
    rw [zoneText, split_lowercase, List.filter_map, labels]
    congr 2
    funext part
    cases part <;> rfl
  rw [← last_labels_iff _ (zone_chain presents zone proper) undotted, EdgeZone, listed]

end Zone

/-! All providers. -/
section All

theorem host_text_presents : Presents hostText escapeByte :=
  ⟨escaped_presents.joined, escaped_presents.plain, escaped_presents.dot, escaped_presents.special⟩

/-- The context of a name under a zone. -/
def zoned (name zone : Name) : SynthContext hostText :=
  .new hostText name [] [] ⟨none, some zone⟩

end All

end Dnsix.Confinement
