import Dnsix.HostText
import Dnsix.Rewrites

/-!
The endpoints the Oracle rewrite accepts, as a grammar, and what it makes of each. A
name that fits two forms is read as the one with `compat`; the result is read again
as an endpoint that is its own result.
-/

namespace Dnsix.OracleEndpoints
open Ascii Dns HostText Panics Rewrites Synth

variable {text : NameText}

inductive Service where
  | objectstorage | swiftobjectstorage
  deriving DecidableEq

def Service.label : Service → Text
  | .objectstorage => "objectstorage"
  | .swiftobjectstorage => "swiftobjectstorage"

inductive Suffix where
  | oraclecloud | customerOci
  deriving DecidableEq

def Suffix.labels : Suffix → List Text
  | .oraclecloud => ["oraclecloud", "com"]
  | .customerOci => ["oci", "customer-oci", "com"]

def Suffix.isCloud : Suffix → Bool
  | .oraclecloud => true
  | .customerOci => false

def dsLabel : Text := "ds"

def compatLabel : Text := "compat"

/-- `[ns.][compat.]service.region[.ds].suffix`, with compat for the object storage only and
no region `ds` where `ds` is left out. -/
structure Form where
  ns : Option Text
  compat : Bool
  service : Service
  region : Text
  ds : Bool
  suffix : Suffix
  storage : compat = true → service = .objectstorage
  regional : ds = false → region ≠ dsLabel

namespace Form

def core (form : Form) : List Text :=
  form.ns.toList ++ (if form.compat then [compatLabel] else []) ++
    [form.service.label, form.region]

def body (form : Form) : List Text := form.core ++ if form.ds then [dsLabel] else []

def labels (form : Form) : List Text := form.body ++ form.suffix.labels

/-- Not the reading of a `compat` label as a namespace. -/
def Canonical (form : Form) : Prop :=
  ¬(form.compat = false ∧ form.service = .objectstorage ∧ form.ns = some compatLabel)

/-- The compat form without a namespace. -/
def bare (form : Form) : Bool := form.compat && form.ns.isNone

/-- The compat label stays only behind a namespace, and the suffix only of a name that
has `ds` already. -/
def target (form : Form) : List Text :=
  form.ns.toList ++ (if form.compat && form.ns.isSome then [compatLabel] else []) ++
    [form.service.label, form.region, dsLabel] ++
      if form.ds && !form.bare then form.suffix.labels else Suffix.customerOci.labels

end Form

/-! The suffix. -/
section Suffixes

theorem suffix_found (front : List Text) (suffix : Suffix) :
    oracleSuffix (front ++ suffix.labels) = .ok (some (suffix.labels, suffix.isCloud)) := by
  cases suffix with
  | oraclecloud =>
      have long : 2 ≤ (front ++ Suffix.oraclecloud.labels).length := by
        rw [List.length_append]
        exact Nat.le_add_left _ _
      have second := back_is_append front Suffix.oraclecloud.labels 2 "oraclecloud".toList
        (by decide)
      have first := back_is_append front Suffix.oraclecloud.labels 1 "com".toList (by decide)
      rw [oracleSuffix, second, first, decide_eq_true long]
      rfl
  | customerOci =>
      have long : 3 ≤ (front ++ Suffix.customerOci.labels).length := by
        rw [List.length_append]
        exact Nat.le_add_left _ _
      have middle := back_is_append front Suffix.customerOci.labels 2 "oraclecloud".toList
        (by decide)
      have third := back_is_append front Suffix.customerOci.labels 3 "oci".toList (by decide)
      have second := back_is_append front Suffix.customerOci.labels 2 "customer-oci".toList
        (by decide)
      have first := back_is_append front Suffix.customerOci.labels 1 "com".toList (by decide)
      rw [oracleSuffix, middle, third, second, first, decide_eq_true long,
        decide_eq_true (Nat.le_of_succ_le long)]
      rfl

theorem suffix_shape (l sfx : List Text) (cloud : Bool)
    (found : oracleSuffix l = .ok (some (sfx, cloud))) :
    ∃ front suffix, l = front ++ Suffix.labels suffix ∧ sfx = suffix.labels ∧
      cloud = suffix.isCloud := by
  unfold oracleSuffix at found
  rcases bind_ok found with ⟨cloudy, tested, found⟩
  split at found
  · rename_i yes
    rw [yes] at tested
    rcases and_also_true tested with ⟨_, tested⟩
    rcases and_also_true tested with ⟨second, first⟩
    have one := back_is_suffix l [] _ List.nil_suffix first
    have two := back_is_suffix l _ _ one second
    rcases two with ⟨front, shape⟩
    cases found
    exact ⟨front, .oraclecloud, shape.symm, rfl, rfl⟩
  · rcases bind_ok found with ⟨customer, tested, found⟩
    split at found
    · rename_i yes
      rw [yes] at tested
      rcases and_also_true tested with ⟨_, tested⟩
      rcases and_also_true tested with ⟨third, tested⟩
      rcases and_also_true tested with ⟨second, first⟩
      have one := back_is_suffix l [] _ List.nil_suffix first
      have two := back_is_suffix l _ _ one second
      have three := back_is_suffix l _ _ two third
      rcases three with ⟨front, shape⟩
      cases found
      exact ⟨front, .customerOci, shape.symm, rfl, rfl⟩
    · cases found

end Suffixes

/-! The labels before the suffix. -/
section Bodies

/-- The text that is read for a body. -/
def answered (body : List Text) (suffix : Suffix) : Option Text :=
  let dsEnabled := body.getLast? == some dsLabel
  match oracleEndpoint (if dsEnabled then body.dropLast else body) with
  | none => none
  | some (endpoint, atOnce) =>
      some (oracleTarget endpoint (if atOnce || suffix.isCloud && !dsEnabled then
        Suffix.customerOci.labels else suffix.labels))

theorem rewrite_suffixed (name : Name) (front : List Text) (suffix : Suffix)
    (listed : labels text name = front ++ suffix.labels) :
    oracleRewrite text name =
      .ok (if front.length < 2 then none else (answered front suffix).bind (parseName text)) := by
  have sliced : Vec.sliceBack (front ++ suffix.labels) 0 suffix.labels.length = .ok front := by
    have inside : 0 + suffix.labels.length ≤ (front ++ suffix.labels).length := by
      rw [List.length_append]
      omega
    rw [Vec.sliceBack, if_pos inside, List.length_append, Nat.add_sub_cancel,
      List.take_left, List.drop_zero]
  unfold oracleRewrite
  simp only [listed, suffix_found, sliced, bind, Except.bind]
  split
  · rfl
  · rename_i long
    rcases List.eq_nil_or_concat front with rfl | ⟨before, last, shape⟩
    · exact absurd (by decide) long
    · rw [List.concat_eq_append] at shape
      subst shape
      have unwrapped : Vec.unwrapLast (before ++ [last]) = .ok last := by
        rw [Vec.unwrapLast, List.getLast?_concat]
      have same : (some last == some dsLabel) = (last == dsLabel) := rfl
      simp only [unwrapped, answered, List.getLast?_concat, same]
      have ds : "ds".toList = dsLabel := rfl
      rw [ds]
      cases oracleEndpoint (if (last == dsLabel) = true then (before ++ [last]).dropLast
        else before ++ [last]) with
      | none => rfl
      | some pair => rfl

theorem Form.core_last (form : Form) : form.core.getLast? = some form.region := by
  simp [Form.core]

theorem Form.body_long (form : Form) : 2 ≤ form.body.length := by
  simp only [Form.body, Form.core, List.length_append, List.length_cons, List.length_nil]
  omega

theorem Form.body_read (form : Form) :
    (form.body.getLast? == some dsLabel) = form.ds ∧
      (if form.ds then form.body.dropLast else form.body) = form.core := by
  unfold Form.body
  cases ds : form.ds with
  | false =>
      have other : form.region ≠ dsLabel := form.regional ds
      simp [form.core_last, other]
  | true => simp

/-- A core is taken apart as it was put together, unless its namespace is the compat
label of another reading. -/
theorem Form.core_read (form : Form) (canonical : form.Canonical) :
    oracleEndpoint form.core =
      some (⟨form.ns, form.compat && form.ns.isSome, form.service.label, form.region⟩,
        form.bare) := by
  rcases form with ⟨ns, compat, service, region, ds, suffix, storage, regional⟩
  cases compat with
  | true =>
      cases storage rfl
      cases ns with
      | none => rfl
      | some ns => rfl
  | false =>
      cases ns with
      | none => cases service <;> rfl
      | some ns =>
          have first : oracleEndpoint [ns, service.label, region] =
              if ns = compatLabel ∧ service.label = Service.objectstorage.label then
                some (⟨none, false, Service.objectstorage.label, region⟩, true)
              else if service.label = Service.objectstorage.label ∨
                  service.label = Service.swiftobjectstorage.label then
                some (⟨some ns, false, service.label, region⟩, false)
              else none := rfl
          have other : ¬(ns = compatLabel ∧ service.label = Service.objectstorage.label) := by
            rintro ⟨rfl, same⟩
            apply canonical
            refine ⟨rfl, ?_, rfl⟩
            cases service with
            | objectstorage => rfl
            | swiftobjectstorage => exact absurd same (by decide)
          have known : service.label = Service.objectstorage.label ∨
              service.label = Service.swiftobjectstorage.label := by
            cases service with
            | objectstorage => exact .inl rfl
            | swiftobjectstorage => exact .inr rfl
          rw [if_neg other, if_pos known] at first
          exact first

theorem Form.answered_target (form : Form) (canonical : form.Canonical) :
    answered form.body form.suffix = some (join "." form.target) := by
  rcases form.body_read with ⟨last, core⟩
  have suffixed : (if form.bare || form.suffix.isCloud && !form.ds then
      Suffix.customerOci.labels else form.suffix.labels) =
      if form.ds && !form.bare then form.suffix.labels else Suffix.customerOci.labels := by
    cases form.ds <;> cases form.bare <;> cases form.suffix <;> rfl
  simp only [answered, last, core, form.core_read canonical, suffixed]
  rfl

/-- Whatever is taken apart is one of the cores. -/
theorem endpoint_core (rest : List Text) (endpoint : OracleEndpoint) (atOnce : Bool)
    (found : oracleEndpoint rest = some (endpoint, atOnce)) :
    ∃ (ns : Option Text) (compat : Bool) (service : Service) (region : Text),
      rest = ns.toList ++ (if compat then [compatLabel] else []) ++ [service.label, region] ∧
        (compat = true → service = .objectstorage) := by
  match rest with
  | [] => cases found
  | [_] => cases found
  | [service, region] =>
      simp only [oracleEndpoint] at found
      split at found
      · rename_i known
        rcases known with rfl | rfl
        · exact ⟨none, false, .objectstorage, region, rfl, fun _ => rfl⟩
        · exact ⟨none, false, .swiftobjectstorage, region, rfl,
            fun impossible => nomatch impossible⟩
      · cases found
  | [first, second, region] =>
      simp only [oracleEndpoint] at found
      split at found
      · rename_i known
        rcases known with ⟨rfl, rfl⟩
        exact ⟨none, true, .objectstorage, region, rfl, fun _ => rfl⟩
      · split at found
        · rename_i known
          rcases known with rfl | rfl
          · exact ⟨some first, false, .objectstorage, region, rfl, fun _ => rfl⟩
          · exact ⟨some first, false, .swiftobjectstorage, region, rfl,
              fun impossible => nomatch impossible⟩
        · cases found
  | [ns, compat, service, region] =>
      simp only [oracleEndpoint] at found
      split at found
      · rename_i known
        rcases known with ⟨rfl, rfl⟩
        exact ⟨some ns, true, .objectstorage, region, rfl, fun _ => rfl⟩
      · cases found
  | _ :: _ :: _ :: _ :: _ :: _ => cases found

theorem answered_form (body : List Text) (suffix : Suffix) (answer : Text)
    (found : answered body suffix = some answer) :
    ∃ form : Form, form.body = body ∧ form.suffix = suffix := by
  simp only [answered] at found
  split at found
  · cases found
  rename_i endpoint atOnce read
  rcases endpoint_core _ endpoint atOnce read with ⟨ns, compat, service, region, shape, storage⟩
  cases last : body.getLast? == some dsLabel with
  | true =>
      rw [last, if_pos rfl] at shape
      have whole : body.dropLast ++ [dsLabel] = body := by
        rcases List.eq_nil_or_concat body with rfl | ⟨front, final, ended⟩
        · cases last
        · rw [List.concat_eq_append] at ended
          subst ended
          rw [List.getLast?_concat, beq_iff_eq, Option.some.injEq] at last
          rw [List.dropLast_concat, last]
      refine ⟨⟨ns, compat, service, region, true, suffix, storage, fun off => nomatch off⟩, ?_, rfl⟩
      rw [← whole, shape]
      rfl
  | false =>
      rw [last, if_neg Bool.false_ne_true] at shape
      have other : region ≠ dsLabel := by
        rintro rfl
        rw [shape] at last
        simp at last
      refine ⟨⟨ns, compat, service, region, false, suffix, storage, fun _ => other⟩, ?_, rfl⟩
      rw [shape]
      exact List.append_nil _

end Bodies

/-! The grammar. -/
section Grammar

/-- Every form has the same labels as a canonical one. -/
theorem Form.canonical_labels (form : Form) :
    ∃ reading : Form, reading.Canonical ∧ reading.labels = form.labels := by
  by_cases canonical : form.Canonical
  · exact ⟨form, canonical, rfl⟩
  · rcases form with ⟨ns, compat, service, region, ds, suffix, storage, regional⟩
    rcases not_not.mp canonical with ⟨rfl, rfl, rfl⟩
    refine ⟨⟨none, true, .objectstorage, region, ds, suffix, fun _ => rfl, regional⟩, ?_, rfl⟩
    rintro ⟨impossible, _⟩
    cases impossible

theorem Form.read_target (form : Form) (canonical : form.Canonical) (name : Name)
    (listed : Synth.labels text name = form.labels) :
    oracleRewrite text name = .ok (parseName text (join "." form.target)) := by
  have long : ¬form.body.length < 2 := Nat.not_lt_of_le form.body_long
  rw [rewrite_suffixed name form.body form.suffix listed, if_neg long,
    form.answered_target canonical]
  rfl

/-- The form of the result, which is its own result. -/
theorem Form.target_form (form : Form) (canonical : form.Canonical) :
    ∃ result : Form, result.Canonical ∧ result.labels = form.target ∧
      result.target = form.target := by
  rcases form with ⟨ns, compat, service, region, ds, suffix, storage, regional⟩
  have kept : ∃ after : Suffix, after.labels =
      if ds && !(compat && ns.isNone) then suffix.labels else Suffix.customerOci.labels := by
    split
    · exact ⟨suffix, rfl⟩
    · exact ⟨.customerOci, rfl⟩
  rcases kept with ⟨after, same⟩
  cases ns with
  | none =>
      refine ⟨⟨none, false, service, region, true, after, (fun off => nomatch off),
        (fun off => nomatch off)⟩, ?_, ?_, ?_⟩
      · rintro ⟨_, _, impossible⟩
        cases impossible
      · simp [Form.labels, Form.body, Form.core, Form.target, Form.bare, same]
      · simp [Form.target, Form.bare, same]
  | some ns =>
      refine ⟨⟨some ns, compat, service, region, true, after, storage, fun off => nomatch off⟩,
        canonical, ?_, ?_⟩
      · simp [Form.labels, Form.body, Form.core, Form.target, Form.bare, same]
      · simp [Form.target, Form.bare, same]

theorem Suffix.labels_last (suffix : Suffix) :
    ∃ front, suffix.labels = front ++ ["com".toList] := by
  cases suffix with
  | oraclecloud => exact ⟨["oraclecloud"], rfl⟩
  | customerOci => exact ⟨["oci", "customer-oci"], rfl⟩

theorem Form.target_parsed (form : Form) :
    parseName text (join "." form.target) = nameFromLabels text form.target := by
  have ended : ∃ front, (if form.ds && !form.bare then form.suffix.labels
      else Suffix.customerOci.labels) = front ++ ["com".toList] := by
    split
    · exact form.suffix.labels_last
    · exact Suffix.customerOci.labels_last
  rcases ended with ⟨front, shape⟩
  rw [Form.target, shape, ← List.append_assoc]
  exact parse_joined _ "com" (by decide) (by decide)

/-- The labels a form adds to its namespace and region. -/
def constants : List Text :=
  compatLabel :: dsLabel :: Service.objectstorage.label :: Service.swiftobjectstorage.label ::
    (Suffix.oraclecloud.labels ++ Suffix.customerOci.labels)

theorem constant_host : ∀ part ∈ constants, HostLabel part ∧ part.length ≤ 63 :=
  hosts_checked constants rfl

theorem Suffix.labels_mem (suffix : Suffix) : ∀ part ∈ suffix.labels, part ∈ constants := by
  intro part listed
  cases suffix with
  | oraclecloud => simp [constants, listed]
  | customerOci => simp [constants, listed]

/-- A result is made of the name's labels and constant ones. -/
theorem Form.target_mem (form : Form) (part : Text) (listed : part ∈ form.target) :
    part ∈ form.labels ∨ part ∈ constants := by
  simp only [Form.target, List.mem_append, List.mem_cons, List.not_mem_nil, or_false] at listed
  rcases listed with ((inNs | inCompat) | rfl | rfl | rfl) | inSuffix
  · exact .inl (by simp [Form.labels, Form.body, Form.core, Option.mem_toList.mp inNs])
  · split at inCompat
    · rw [List.mem_singleton.mp inCompat]
      exact .inr List.mem_cons_self
    · cases inCompat
  · exact .inl (by simp [Form.labels, Form.body, Form.core])
  · exact .inl (by simp [Form.labels, Form.body, Form.core])
  · exact .inr (by simp [constants])
  · split at inSuffix
    · exact .inr (form.suffix.labels_mem part inSuffix)
    · exact .inr (Suffix.customerOci.labels_mem part inSuffix)

theorem Form.target_host (form : Form) (hosts : ∀ label ∈ form.labels, HostLabel label) :
    ∀ part ∈ form.target, HostLabel part := by
  intro part listed
  rcases form.target_mem part listed with named | constant
  · exact hosts part named
  · exact (constant_host part constant).1

theorem accepted_form (name target : Name) (found : oracleRewrite text name = .ok (some target)) :
    ∃ form : Form, labels text name = form.labels := by
  have suffixed : ∃ front suffix, labels text name = front ++ Suffix.labels suffix := by
    have returned := found
    unfold oracleRewrite at returned
    rcases bind_ok returned with ⟨suffix, tested, rest⟩
    cases suffix with
    | none => cases rest
    | some pair =>
        rcases suffix_shape _ pair.1 pair.2 tested with ⟨front, suffix, shape, _⟩
        exact ⟨front, suffix, shape⟩
  rcases suffixed with ⟨front, suffix, shape⟩
  rw [rewrite_suffixed name front suffix shape] at found
  split at found
  · cases found
  · cases answer : answered front suffix with
    | none =>
        rw [answer] at found
        cases found
    | some answer' =>
        rcases answered_form front suffix _ answer with ⟨form, body, same⟩
        refine ⟨form, ?_⟩
        rw [shape, Form.labels, body, same]

def wireLength (labels : List Text) : Nat := (labels.map fun label => label.length + 1).sum

theorem wire_append (front back : List Text) :
    wireLength (front ++ back) = wireLength front + wireLength back := by
  simp [wireLength]

/-- A result is at most `ds` and the longer suffix longer than the name. -/
theorem Form.target_fits (form : Form) (short : ∀ label ∈ form.labels, label.length ≤ 63)
    (room : wireLength form.labels + 24 < 255) : Fits form.target := by
  constructor
  · intro part listed
    rcases form.target_mem part listed with named | constant
    · exact short part named
    · exact (constant_host part constant).2
  · have ds : wireLength [form.service.label, form.region, dsLabel] =
        wireLength [form.service.label, form.region] + 3 := wire_append [_, _] [dsLabel]
    have compat : wireLength (if form.compat && form.ns.isSome then [compatLabel] else []) ≤
        wireLength (if form.compat then [compatLabel] else []) := by
      cases form.compat <;> cases form.ns.isSome <;> decide
    have suffix : wireLength (if form.ds && !form.bare then form.suffix.labels
        else Suffix.customerOci.labels) ≤ 21 := by
      cases form.ds <;> cases form.bare <;> cases form.suffix <;> decide
    have target : wireLength form.target ≤ wireLength form.labels + 24 := by
      simp only [Form.target, Form.labels, Form.body, Form.core, wire_append, ds]
      omega
    exact Nat.lt_of_le_of_lt target room

/-- The names the rewrite accepts are those of the grammar; each becomes its target, and a
result is its own result. -/
theorem oracle_grammar (reads : Reads text) (name : Name)
    (hosts : ∀ label ∈ labels text name, HostLabel label)
    (fits : ∀ form : Form, form.Canonical → labels text name = form.labels → Fits form.target) :
    ((∃ target, oracleRewrite text name = .ok (some target)) ↔
        ∃ form : Form, labels text name = form.labels) ∧
      (∀ form : Form, form.Canonical → labels text name = form.labels →
        ∃ target, oracleRewrite text name = .ok (some target) ∧
          labels text target = form.target) ∧
      ∀ target, oracleRewrite text name = .ok (some target) →
        oracleRewrite text target = .ok (some target) := by
  have reached : ∀ form : Form, form.Canonical → labels text name = form.labels →
      ∃ target, oracleRewrite text name = .ok (some target) ∧
        nameFromLabels text form.target = some target ∧
          labels text target = form.target := by
    intro form canonical listed
    have host := form.target_host fun label inside => hosts label (by rw [listed]; exact inside)
    have present : form.target ≠ [] := by simp [Form.target]
    rcases reads.accepts _ present host (fits form canonical listed) with ⟨target, read⟩
    refine ⟨target, ?_, read, ?_⟩
    · rw [form.read_target canonical name listed, form.target_parsed, read]
    · exact reads.recovers _ target (fun part inside => (host part inside).unescaped) read
  refine ⟨⟨?_, ?_⟩, ?_, ?_⟩
  · rintro ⟨target, found⟩
    exact accepted_form name target found
  · rintro ⟨form, listed⟩
    rcases form.canonical_labels with ⟨reading, canonical, same⟩
    rcases reached reading canonical (listed.trans same.symm) with ⟨target, found, _⟩
    exact ⟨target, found⟩
  · intro form canonical listed
    rcases reached form canonical listed with ⟨target, found, _, spelled⟩
    exact ⟨target, found, spelled⟩
  · intro target found
    rcases accepted_form name target found with ⟨form, listed⟩
    rcases form.canonical_labels with ⟨reading, canonical, same⟩
    rcases reached reading canonical (listed.trans same.symm) with ⟨other, again, read, spelled⟩
    rcases reading.target_form canonical with ⟨result, settled, shape, fixed⟩
    rw [found] at again
    cases again
    rw [result.read_target settled target (spelled.trans shape.symm), fixed,
      reading.target_parsed, read]

/-- An endpoint of the compat form, without a namespace. -/
def compatMumbai : Name := named ["compat", "objectstorage", "ap-mumbai-1", "oraclecloud", "com"]

theorem oracle_grammar_compat :
    ((∃ target, oracleRewrite hostText compatMumbai = .ok (some target)) ↔
        ∃ form : Form, labels hostText compatMumbai = form.labels) ∧
      (∀ form : Form, form.Canonical → labels hostText compatMumbai = form.labels →
        ∃ target, oracleRewrite hostText compatMumbai = .ok (some target) ∧
          labels hostText target = form.target) ∧
      ∀ target, oracleRewrite hostText compatMumbai = .ok (some target) →
        oracleRewrite hostText target = .ok (some target) := by
  have good := hosts_checked (labels hostText compatMumbai) rfl
  refine oracle_grammar host_text_reads compatMumbai (fun part listed => (good part listed).1) ?_
  intro form _ listed
  apply form.target_fits
  · intro part inside
    rw [← listed] at inside
    exact (good part inside).2
  · rw [← listed]
    decide

end Grammar

end Dnsix.OracleEndpoints
