import Dnsix.Cdn
import Dnsix.HostText

/-!
What the rewrite of Alibaba names asks for, for the endpoints of its object storage and
for every other host under `aliyuncs.com`.
-/

namespace Dnsix.AlibabaEndpoints
open Ascii Cdn Dns HostText Panics Rewrites Synth

variable {text : NameText}

def aliyuncs : List Text := ["aliyuncs", "com"]

/-! Dashed parts. -/
section Parts

theorem parts_ne_nil (label : Text) : split '-' label ≠ [] := split_ne_nil '-' label

theorem joined_back (label : Text) : join "-" (split '-' label) = label := join_split '-' label

theorem overwritten (parts : List Text) :
    (setExt parts 0 "cn" >>= fun named => setExt named 1 "hangzhou") =
      .ok ("cn".toList :: "hangzhou".toList :: parts.drop 2) := by
  match parts with
  | [] => rfl
  | [only] => rfl
  | first :: second :: more =>
      simp [-String.reduceToList, setExt, Vec.assign, bind, Except.bind]

/-- The two parts that are overwritten are the whole region only of a short label. -/
theorem overwritten_iff (parts : List Text) (hyphenless : ∀ part ∈ parts, '-' ∉ part) :
    join "-" ("cn".toList :: "hangzhou".toList :: parts.drop 2) = "cn-hangzhou".toList ↔
      parts.length ≤ 2 := by
  have cut : split '-' (join "-" ("cn".toList :: "hangzhou".toList :: parts.drop 2)) =
      "cn".toList :: "hangzhou".toList :: parts.drop 2 := by
    apply split_joined '-' _ (List.cons_ne_nil _ _)
    intro part listed
    rcases List.mem_cons.mp listed with rfl | listed
    · decide
    rcases List.mem_cons.mp listed with rfl | listed
    · decide
    exact hyphenless part (List.mem_of_mem_drop listed)
  constructor
  · intro same
    rw [same] at cut
    have dropped : parts.drop 2 = [] := by
      have pieces : split '-' "cn-hangzhou".toList = ["cn".toList, "hangzhou".toList] := rfl
      rw [pieces] at cut
      exact (List.cons.inj (List.cons.inj cut).2).2.symm
    exact List.drop_eq_nil_iff.mp dropped
  · intro short
    rw [List.drop_eq_nil_iff.mpr short]
    rfl

end Parts

/-! The edits behind a recognised suffix. -/
section Edits

variable (text) in
/-- What is done to the reversed labels once the suffix is there. -/
def edited (s : List Text) : Checked (Option Name) := do
  let dpff1 := idx s "oss"
  let (ssdomains, ssdoaminloc) ← ossBody s dpff1
  let dpff3 := idx ssdomains "oss"
  let s ← (if s.length = 4 ∧ dpff1 = none then spliceRemove s 3 else .ok s)
  let ssdomains ← (if dpff3 = some 0 then Vec.remove ssdomains 0 else .ok ssdomains)
  let isbucket := ossRegions.contains (join "-" ssdomains)
  let ssdomains ← (if dpff1 = some 2 ∧ !isbucket then
      setExt ssdomains 0 "cn" >>= fun named => setExt named 1 "hangzhou"
    else .ok ssdomains)
  let s ← (if !ssdomains.isEmpty then
      if ssdoaminloc < s.length then Vec.assign s ssdoaminloc (join "-" ssdomains)
      else .ok (s ++ [join "-" ssdomains])
    else spliceRemove s 2)
  let s ← (if dpff3 = some 0 then spliceInsert s 2 "oss" else .ok s)
  .ok (nameFromLabels text s.reverse)

theorem idx_com (rest : List Text) : idx ("com".toList :: rest) "com" = some 0 :=
  idx_found [] rest "com" List.not_mem_nil

theorem idx_second (second : Text) (rest : List Text) (other : second ≠ "com".toList) :
    idx ("com".toList :: second :: rest) second = some 1 :=
  idx_found ["com"] rest second (List.not_mem_cons_of_ne_of_not_mem other List.not_mem_nil)

theorem idx_not_second (second token : Text) (rest : List Text) (other : second ≠ token) :
    idx ("com".toList :: second :: rest) token ≠ some 1 :=
  fun found => other (Option.some.inj (idx_some _ token 1 found))

theorem rewrite_suffixed (name : Name) (second third : Text) (rest : List Text)
    (listed : (labels text name).reverse = "com".toList :: second :: third :: rest)
    (suffix : second = "aliyuncs".toList ∨ second = "aliyun-inc".toList) :
    ossRewrite text name = edited text ("com".toList :: "aliyuncs".toList :: third :: rest) := by
  have long : ¬("com".toList :: "aliyuncs".toList :: third :: rest).length ≤ 2 := by simp
  rcases suffix with rfl | rfl
  · have first := idx_com ("aliyuncs".toList :: third :: rest)
    have second := idx_second "aliyuncs" (third :: rest) (by decide)
    have other := idx_not_second "aliyuncs" "aliyun-inc" (third :: rest) (by decide)
    unfold ossRewrite
    simp only [listed, first, second, other, if_false, bind, Except.bind, true_or, true_and,
      not_true_eq_false, long, or_self]
    rfl
  · have first := idx_com ("aliyun-inc".toList :: third :: rest)
    have second := idx_second "aliyun-inc" (third :: rest) (by decide)
    have assigned : Vec.assign ("com".toList :: "aliyun-inc".toList :: third :: rest) 1 "aliyuncs" =
        .ok ("com".toList :: "aliyuncs".toList :: third :: rest) := rfl
    unfold ossRewrite
    simp only [listed, first, second, if_true, assigned, bind, Except.bind, or_true, true_and,
      not_true_eq_false, long, or_self, if_false]
    rfl

/-- Of four labels without the service the first one goes. -/
def shortened (rest : List Text) : List Text := if rest.length = 1 then [] else rest

theorem shortened_step (third : Text) (rest : List Text) :
    (if ("com".toList :: "aliyuncs".toList :: third :: rest).length = 4 then
      spliceRemove ("com".toList :: "aliyuncs".toList :: third :: rest) 3
    else .ok ("com".toList :: "aliyuncs".toList :: third :: rest)) =
      .ok ("com".toList :: "aliyuncs".toList :: third :: shortened rest) := by
  match rest with
  | [] => rfl
  | [bucket] => rfl
  | bucket :: other :: more => simp [shortened]

/-- Without the service's label and prefix nothing but the length counts. -/
theorem other_edited (third : Text) (rest : List Text)
    (absent : idx ("com".toList :: "aliyuncs".toList :: third :: rest) "oss" = none)
    (undashed : idx (split '-' third) "oss" ≠ some 0) :
    edited text ("com".toList :: "aliyuncs".toList :: third :: rest) =
      .ok (nameFromLabels text ((shortened rest).reverse ++ third :: aliyuncs)) := by
  have body : ossBody ("com".toList :: "aliyuncs".toList :: third :: rest) none =
      .ok (split '-' third, 2) := rfl
  have full : (split '-' third).isEmpty = false := by
    rw [List.isEmpty_eq_false_iff]
    exact parts_ne_nil third
  have inside : 2 < ("com".toList :: "aliyuncs".toList :: third :: shortened rest).length := by simp
  have assigned : Vec.assign ("com".toList :: "aliyuncs".toList :: third :: shortened rest) 2
      third = .ok ("com".toList :: "aliyuncs".toList :: third :: shortened rest) := rfl
  have turned : ("com".toList :: "aliyuncs".toList :: third :: shortened rest).reverse =
      (shortened rest).reverse ++ third :: aliyuncs := by
    simp [-String.reduceToList, aliyuncs]
  unfold edited
  simp only [absent, bind, Except.bind, body, and_true, shortened_step, undashed, if_false,
    reduceCtorEq, false_and, full, Bool.not_false, if_true, joined_back, inside, assigned, turned]

/-- The service's prefix becomes a label of its own. -/
theorem dashed_edited (third : Text) (rest more : List Text)
    (absent : idx ("com".toList :: "aliyuncs".toList :: third :: rest) "oss" = none)
    (parts : split '-' third = "oss".toList :: more) (full : more ≠ []) :
    edited text ("com".toList :: "aliyuncs".toList :: third :: rest) =
      .ok (nameFromLabels text
        ((shortened rest).reverse ++ join "-" more :: "oss".toList :: aliyuncs)) := by
  have body : ossBody ("com".toList :: "aliyuncs".toList :: third :: rest) none =
      .ok (split '-' third, 2) := rfl
  have first : idx ("oss".toList :: more) "oss" = some 0 := (idx_head _ _ more).mpr rfl
  have removed : Vec.remove ("oss".toList :: more) 0 = .ok more := rfl
  have kept : more.isEmpty = false := List.isEmpty_eq_false_iff.mpr full
  have inside : 2 < ("com".toList :: "aliyuncs".toList :: third :: shortened rest).length := by simp
  have assigned : Vec.assign ("com".toList :: "aliyuncs".toList :: third :: shortened rest) 2
      (join "-" more) =
      .ok ("com".toList :: "aliyuncs".toList :: join "-" more :: shortened rest) := rfl
  have inserted : spliceInsert ("com".toList :: "aliyuncs".toList :: join "-" more ::
      shortened rest) 2 "oss" = .ok ("com".toList :: "aliyuncs".toList :: "oss".toList ::
        join "-" more :: shortened rest) := rfl
  have turned : ("com".toList :: "aliyuncs".toList :: "oss".toList :: join "-" more ::
      shortened rest).reverse =
      (shortened rest).reverse ++ join "-" more :: "oss".toList :: aliyuncs := by
    simp [-String.reduceToList, aliyuncs]
  unfold edited
  simp only [absent, bind, Except.bind, body, and_true, shortened_step, parts, first, removed,
    if_false, reduceCtorEq, false_and, kept, Bool.not_false, if_true, inside, assigned, inserted,
    turned]

theorem idx_oss (rest : List Text) :
    idx ("com".toList :: "aliyuncs".toList :: "oss".toList :: rest) "oss" = some 2 :=
  idx_found ["com", "aliyuncs"] rest "oss" (by decide)

/-- Without a bucket and a region the default one is filled in. -/
theorem plain_edited :
    edited text ["com", "aliyuncs", "oss"] =
      .ok (nameFromLabels text ("cn-hangzhou".toList :: "oss".toList :: aliyuncs)) := rfl

/-- A label before the service's is taken for a region, and overwritten when it is none. -/
theorem regional_edited (fourth : Text) (more : List Text)
    (undashed : idx (split '-' fourth) "oss" ≠ some 0) :
    edited text ("com".toList :: "aliyuncs".toList :: "oss".toList :: fourth :: more) =
      .ok (nameFromLabels text (more.reverse ++
        (if ossRegions.contains fourth then fourth
          else join "-" ("cn".toList :: "hangzhou".toList :: (split '-' fourth).drop 2)) ::
        "oss".toList :: aliyuncs)) := by
  have body : ossBody ("com".toList :: "aliyuncs".toList :: "oss".toList :: fourth :: more)
      (some 2) = .ok (split '-' fourth, 3) := by
    have deeper : 3 < ("com".toList :: "aliyuncs".toList :: "oss".toList :: fourth ::
        more).length := by simp
    have parts : split '-' "oss".toList = ["oss".toList] := rfl
    have first : idx ["oss".toList] "oss" = some 0 := rfl
    have third : Vec.index ("com".toList :: "aliyuncs".toList :: "oss".toList :: fourth :: more) 2 =
        .ok "oss".toList := rfl
    have listed : Vec.index ("com".toList :: "aliyuncs".toList :: "oss".toList :: fourth ::
        more) 3 = .ok fourth := rfl
    unfold ossBody
    simp only [third, bind, Except.bind, parts, first, deeper, and_self, if_true, listed]
  have region : ∀ label, Vec.assign ("com".toList :: "aliyuncs".toList :: "oss".toList :: fourth ::
      more) 3 label =
      .ok ("com".toList :: "aliyuncs".toList :: "oss".toList :: label :: more) := fun _ => rfl
  have inside : 3 < ("com".toList :: "aliyuncs".toList :: "oss".toList :: fourth ::
      more).length := by simp
  have turned : ∀ label, ("com".toList :: "aliyuncs".toList :: "oss".toList :: label ::
      more).reverse = more.reverse ++ label :: "oss".toList :: aliyuncs := by
    intro label
    simp [-String.reduceToList, aliyuncs]
  have full : (split '-' fourth).isEmpty = false :=
    List.isEmpty_eq_false_iff.mpr (parts_ne_nil fourth)
  have named := overwritten (split '-' fourth)
  unfold edited
  cases known : ossRegions.contains fourth with
  | true =>
      simp only [idx_oss, bind, Except.bind, body, undashed, reduceCtorEq, and_false, if_false,
        joined_back, known, Bool.not_true, Bool.false_eq_true, full, Bool.not_false, if_true,
        inside, region, turned]
  | false =>
      simp only [bind, Except.bind] at named
      simp only [idx_oss, bind, Except.bind, body, undashed, reduceCtorEq, and_false, if_false,
        joined_back, known, Bool.not_false, and_self, if_true, named, List.isEmpty_cons, inside,
        region, turned, Bool.false_eq_true]

end Edits

/-! The endpoints of the object storage. -/
section Endpoints

inductive Endpoint where
  | dashed (region : Text)
  | bucketDashed (bucket region : Text)
  | bucketRegional (bucket region : Text)
  | bucketInc (bucket region : Text)
  | regional (region : Text)
  | plain
  | bucketPlain (bucket : Text)

def oss : List Text := "oss".toList :: aliyuncs

def Endpoint.labels : Endpoint → List Text
  | .dashed region => ("oss-".toList ++ region) :: aliyuncs
  | .bucketDashed bucket region => bucket :: ("oss-".toList ++ region) :: aliyuncs
  | .bucketRegional bucket region => bucket :: region :: oss
  | .bucketInc bucket region => [bucket, region, "oss", "aliyun-inc", "com"]
  | .regional region => region :: oss
  | .plain => oss
  | .bucketPlain bucket => bucket :: oss

/-- The endpoint of the bucket's own region; a bucket that names none is in the default
one. -/
def Endpoint.target : Endpoint → List Text
  | .dashed region => region :: oss
  | .bucketDashed _ region => region :: oss
  | .bucketRegional bucket region => bucket :: region :: oss
  | .bucketInc bucket region => bucket :: region :: oss
  | .regional region => region :: oss
  | .plain => "cn-hangzhou".toList :: oss
  | .bucketPlain _ => "cn-hangzhou".toList :: oss

/-- A bucket label: a host label that is neither the service's nor a region. -/
structure Bucket (label : Text) : Prop where
  host : HostLabel label
  short : label.length ≤ 63
  other : label ≠ "oss".toList
  undashed : startsWith label "oss-" = false
  regionless : label ∉ ossRegions

def Endpoint.Valid : Endpoint → Prop
  | .dashed region => region ∈ ossRegions
  | .bucketDashed bucket region => Bucket bucket ∧ region ∈ ossRegions
  | .bucketRegional bucket region => Bucket bucket ∧ region ∈ ossRegions
  | .bucketInc bucket region => Bucket bucket ∧ region ∈ ossRegions
  | .regional region => region ∈ ossRegions
  | .plain => True
  | .bucketPlain bucket => Bucket bucket

/-- When the region is reached. -/
def Endpoint.Reached : Endpoint → Prop
  | .bucketPlain bucket => (split '-' bucket).length ≤ 2
  | _ => True

def Endpoint.asked : Endpoint → List Text
  | .bucketPlain bucket =>
      join "-" ("cn".toList :: "hangzhou".toList :: (split '-' bucket).drop 2) :: oss
  | endpoint => endpoint.target

variable (text) in
def MapsTo (name : Name) (parts : List Text) : Prop :=
  ∃ target, ossRewrite text name = .ok (some target) ∧ Synth.labels text target = parts

/-- Only the service's label and its prefix begin with the service. -/
theorem begins_with_oss (label : Text) (more : List Text)
    (parts : split '-' label = "oss".toList :: more) :
    label = "oss".toList ∨ startsWith label "oss-" = true := by
  have whole := joined_back label
  rw [parts] at whole
  cases more with
  | nil => exact .inl (whole.symm.trans rfl)
  | cons second rest =>
      right
      have joined : join "-" ("oss".toList :: second :: rest) =
          "oss-".toList ++ join "-" (second :: rest) := by
        simp [join, List.intercalate_cons_cons]
      rw [← whole, joined, startsWith, List.isPrefixOf_iff_prefix]
      exact List.prefix_append _ _

theorem undashed_parts (label : Text) (other : label ≠ "oss".toList)
    (undashed : startsWith label "oss-" = false) : idx (split '-' label) "oss" ≠ some 0 := by
  intro found
  cases parts : split '-' label with
  | nil => exact parts_ne_nil label parts
  | cons first more =>
      rw [parts] at found
      rw [(idx_head first _ more).mp found] at parts
      rcases begins_with_oss label more parts with same | dashed
      · exact other same
      · rw [undashed] at dashed
        cases dashed

theorem idx_no_oss (rest : List Text) (absent : "oss".toList ∉ rest) :
    idx ("com".toList :: "aliyuncs".toList :: rest) "oss" = none := by
  apply idx_none
  rw [List.mem_cons, List.mem_cons, not_or, not_or]
  exact ⟨by decide, by decide, absent⟩

/-- What holds of every region of the list. -/
structure RegionLabel (region : Text) : Prop where
  host : HostLabel region
  short : region.length ≤ 22
  other : region ≠ "oss".toList
  undashed : startsWith region "oss-" = false

theorem region_label (region : Text) (known : region ∈ ossRegions) : RegionLabel region := by
  have all : (ossRegions.all fun region => readable region && toAsciiLowercase region == region &&
      decide (region.length ≤ 22) && region != "oss".toList && !startsWith region "oss-") = true :=
    rfl
  have checked := List.all_eq_true.mp all region known
  simp only [Bool.and_eq_true, decide_eq_true_eq, beq_iff_eq, bne_iff_ne, Bool.not_eq_true',
    readable_iff] at checked
  rcases checked with ⟨⟨⟨⟨⟨present, host, unhyphened⟩, lower⟩, short⟩, other⟩, undashed⟩
  exact ⟨⟨present, host, unhyphened, lower⟩, short, other, undashed⟩

theorem dashed_parts (region : Text) :
    split '-' ("oss-".toList ++ region) = "oss".toList :: split '-' region := by
  have cut : split '-' ("oss".toList ++ '-' :: region) =
      split '-' "oss".toList ++ split '-' region := split_append '-' _ _
  exact cut

theorem dashed_asked (name : Name) (region : Text) (rest : List Text) (short : rest.length ≤ 1)
    (listed : labels text name = rest ++ ("oss-".toList ++ region) :: aliyuncs)
    (absent : "oss".toList ∉ rest) :
    ossRewrite text name = .ok (nameFromLabels text (region :: oss)) := by
  have turned : (labels text name).reverse =
      "com".toList :: "aliyuncs".toList :: ("oss-".toList ++ region) :: rest.reverse := by
    rw [listed]
    simp [-String.reduceToList, aliyuncs]
  have unlike : "oss-".toList ++ region ≠ "oss".toList := by
    intro same
    have length := congrArg List.length same
    rw [List.length_append] at length
    exact absurd length (Nat.ne_of_gt (Nat.lt_of_lt_of_le (by decide) (Nat.le_add_right _ _)))
  have missing := idx_no_oss (("oss-".toList ++ region) :: rest.reverse) (by
    rw [List.mem_cons, not_or, List.mem_reverse]
    exact ⟨unlike.symm, absent⟩)
  have gone : shortened rest.reverse = [] := by
    match rest with
    | [] => rfl
    | [bucket] => rfl
  rw [rewrite_suffixed name _ _ _ turned (.inl rfl),
    dashed_edited _ _ _ missing (dashed_parts region) (parts_ne_nil region), joined_back, gone]
  rfl

theorem regional_asked (name : Name) (second region : Text) (buckets : List Text)
    (listed : labels text name = buckets ++ [region, "oss", second, "com"])
    (suffix : second = "aliyuncs".toList ∨ second = "aliyun-inc".toList)
    (known : region ∈ ossRegions) :
    ossRewrite text name = .ok (nameFromLabels text (buckets ++ region :: oss)) := by
  have turned : (labels text name).reverse =
      "com".toList :: second :: "oss".toList :: region :: buckets.reverse := by
    rw [listed]
    simp [-String.reduceToList]
  have label := region_label region known
  have contained : ossRegions.contains region = true := List.contains_iff_mem.mpr known
  rw [rewrite_suffixed name _ _ _ turned suffix,
    regional_edited region _ (undashed_parts region label.other label.undashed), contained,
    List.reverse_reverse]
  rfl

theorem endpoint_asked (name : Name) (endpoint : Endpoint)
    (listed : labels text name = endpoint.labels) (valid : endpoint.Valid) :
    ossRewrite text name = .ok (nameFromLabels text endpoint.asked) := by
  cases endpoint with
  | dashed region =>
      exact dashed_asked name region [] (Nat.zero_le 1) listed List.not_mem_nil
  | bucketDashed bucket region =>
      apply dashed_asked name region [bucket] (Nat.le_refl 1) listed
      rw [List.mem_singleton]
      exact valid.1.other.symm
  | bucketRegional bucket region =>
      exact regional_asked name "aliyuncs" region [bucket] listed (.inl rfl) valid.2
  | bucketInc bucket region =>
      exact regional_asked name "aliyun-inc" region [bucket] listed (.inr rfl) valid.2
  | regional region => exact regional_asked name "aliyuncs" region [] listed (.inl rfl) valid
  | plain =>
      have turned : (labels text name).reverse = ["com", "aliyuncs", "oss"] := by
        rw [listed]
        rfl
      rw [rewrite_suffixed name _ _ _ turned (.inl rfl)]
      exact plain_edited
  | bucketPlain bucket =>
      have turned : (labels text name).reverse =
          ["com".toList, "aliyuncs".toList, "oss".toList, bucket] := by
        rw [listed]
        rfl
      have unknown : ossRegions.contains bucket = false := by
        rw [← Bool.not_eq_true, List.contains_iff_mem]
        exact valid.regionless
      rw [rewrite_suffixed name _ _ _ turned (.inl rfl),
        regional_edited bucket [] (undashed_parts bucket valid.other valid.undashed), unknown]
      rfl

theorem service_host : ∀ part ∈ oss, HostLabel part ∧ part.length ≤ 63 := hosts_checked oss rfl

theorem region_fits (front : List Text) (region : Text) (short : region.length ≤ 22)
    (buckets : ∀ bucket ∈ front, bucket.length ≤ 63) (few : front.length ≤ 1) :
    Fits (front ++ region :: oss) := by
  have service : (oss.map fun part => part.length + 1).sum = 17 := rfl
  constructor
  · intro part listed
    rcases List.mem_append.mp listed with inFront | inBack
    · exact buckets part inFront
    · rcases List.mem_cons.mp inBack with rfl | inService
      · omega
      · exact (service_host part inService).2
  · match front with
    | [] =>
        rw [List.nil_append, List.map_cons, List.sum_cons, service]
        omega
    | [bucket] =>
        have length := buckets bucket List.mem_cons_self
        rw [List.singleton_append, List.map_cons, List.map_cons, List.sum_cons, List.sum_cons,
          service]
        omega

theorem region_reaches (reads : Reads text) (name : Name) (front : List Text) (region : Text)
    (host : HostLabel region) (short : region.length ≤ 22)
    (buckets : ∀ bucket ∈ front, HostLabel bucket ∧ bucket.length ≤ 63) (few : front.length ≤ 1)
    (asked : ossRewrite text name = .ok (nameFromLabels text (front ++ region :: oss))) :
    MapsTo text name (front ++ region :: oss) := by
  have hosts : ∀ part ∈ front ++ region :: oss, HostLabel part := by
    intro part listed
    rcases List.mem_append.mp listed with inFront | inBack
    · exact (buckets part inFront).1
    · rcases List.mem_cons.mp inBack with rfl | inService
      · exact host
      · exact (service_host part inService).1
  have fits := region_fits front region short (fun bucket inFront => (buckets bucket inFront).2) few
  rcases reads.accepts _ (by simp) hosts fits with ⟨target, read⟩
  refine ⟨target, ?_, ?_⟩
  · rw [asked, read]
  · exact reads.recovers _ target (fun part listed => (hosts part listed).unescaped) read

theorem default_host : HostLabel "cn-hangzhou".toList := by
  have known : "cn-hangzhou".toList ∈ ossRegions := List.mem_cons_self
  exact (region_label _ known).host

theorem overwritten_unescaped (bucket : Text) (host : HostLabel bucket) :
    Unescaped (join "-" ("cn".toList :: "hangzhou".toList :: (split '-' bucket).drop 2)) := by
  have constant : ∀ part ∈ ["cn".toList, "hangzhou".toList], Unescaped part := by
    intro part listed
    simp only [List.mem_cons, List.not_mem_nil, or_false] at listed
    rcases listed with rfl | rfl
    · exact ⟨by decide, by decide, by decide, by decide⟩
    · exact ⟨by decide, by decide, by decide, by decide⟩
  apply unescaped_of_chars
  · simp [join, List.intercalate_cons_cons]
  · intro char inside
    rcases mem_join '-' _ char inside with rfl | ⟨part, listed, deeper⟩
    · decide
    have either : part ∈ ["cn".toList, "hangzhou".toList] ++ (split '-' bucket).drop 2 := listed
    rcases List.mem_append.mp either with fixed | kept
    · exact (constant part fixed).chars char deeper
    · have inBucket := part_mem '-' bucket part (List.mem_of_mem_drop kept) char deeper
      exact host.unescaped.chars char inBucket

/-- Every endpoint is mapped to the one of the bucket's region, a bucket without a region
only when its label has at most two dashed parts. -/
theorem region_reached_iff (reads : Reads text) (name : Name) (endpoint : Endpoint)
    (listed : labels text name = endpoint.labels) (valid : endpoint.Valid) :
    MapsTo text name endpoint.target ↔ endpoint.Reached := by
  have asked := endpoint_asked name endpoint listed valid
  have none : ∀ bucket ∈ ([] : List Text), HostLabel bucket ∧ bucket.length ≤ 63 :=
    fun _ impossible => nomatch impossible
  have one : ∀ bucket, Bucket bucket → ∀ label ∈ [bucket],
      HostLabel label ∧ label.length ≤ 63 := by
    intro bucket fine label only
    rw [List.mem_singleton.mp only]
    exact ⟨fine.host, fine.short⟩
  cases endpoint with
  | dashed region =>
      have known := region_label region valid
      exact iff_of_true (region_reaches reads name [] region known.host known.short none
        (Nat.zero_le 1) asked) trivial
  | bucketDashed bucket region =>
      have known := region_label region valid.2
      exact iff_of_true (region_reaches reads name [] region known.host known.short none
        (Nat.zero_le 1) asked) trivial
  | bucketRegional bucket region =>
      have known := region_label region valid.2
      exact iff_of_true (region_reaches reads name [bucket] region known.host known.short
        (one bucket valid.1) (Nat.le_refl 1) asked) trivial
  | bucketInc bucket region =>
      have known := region_label region valid.2
      exact iff_of_true (region_reaches reads name [bucket] region known.host known.short
        (one bucket valid.1) (Nat.le_refl 1) asked) trivial
  | regional region =>
      have known := region_label region valid
      exact iff_of_true (region_reaches reads name [] region known.host known.short none
        (Nat.zero_le 1) asked) trivial
  | plain =>
      exact iff_of_true (region_reaches reads name [] _ default_host (by decide) none
        (Nat.zero_le 1) asked) trivial
  | bucketPlain bucket =>
      have region := overwritten_iff (split '-' bucket) (separator_not_in_part '-' bucket)
      have unescaped : ∀ part ∈ (Endpoint.bucketPlain bucket).asked, Unescaped part := by
        intro part inside
        rcases List.mem_cons.mp inside with rfl | service
        · exact overwritten_unescaped bucket valid.host
        · exact (service_host part service).1.unescaped
      refine Iff.trans ⟨?_, ?_⟩ region
      · rintro ⟨target, mapped, same⟩
        have read : nameFromLabels text (Endpoint.bucketPlain bucket).asked = some target :=
          Except.ok.inj (asked.symm.trans mapped)
        rw [reads.recovers _ target unescaped read] at same
        exact (List.cons.inj same).1
      · intro same
        have reached : ossRewrite text name =
            .ok (nameFromLabels text ("cn-hangzhou".toList :: oss)) := by
          rw [asked, Endpoint.asked, same]
        exact region_reaches reads name [] _ default_host (by decide) none (Nat.zero_le 1) reached

theorem region_reached_two_parts :
    MapsTo hostText (named ["example-bucket", "oss", "aliyuncs", "com"])
        (Endpoint.bucketPlain "example-bucket").target ↔
      (Endpoint.bucketPlain "example-bucket").Reached := by
  have host : HostLabel "example-bucket".toList :=
    ⟨by decide, List.all_eq_true.mp rfl, by decide, by decide⟩
  exact region_reached_iff host_text_reads (named ["example-bucket", "oss", "aliyuncs", "com"])
    (.bucketPlain "example-bucket") rfl ⟨host, by decide, by decide, by decide, by decide⟩

/-- Of a label of three parts the last one stays behind the default region. -/
theorem three_parts_missed :
    labels hostText (named ["my-big-bucket", "oss", "aliyuncs", "com"]) =
        (Endpoint.bucketPlain "my-big-bucket").labels ∧
      ossRewrite hostText (named ["my-big-bucket", "oss", "aliyuncs", "com"]) =
        .ok (some (named ["cn-hangzhou-bucket", "oss", "aliyuncs", "com"])) ∧
      labels hostText (named ["cn-hangzhou-bucket", "oss", "aliyuncs", "com"]) ≠
        (Endpoint.bucketPlain "my-big-bucket").target :=
  ⟨rfl, rfl, by decide⟩

end Endpoints

/-! Other hosts under `aliyuncs.com`. -/
section Others

/-- No label is the object storage's. -/
def Other (parts : List Text) : Prop :=
  ∀ label ∈ parts, label ≠ "oss".toList ∧ startsWith label "oss-" = false

variable (text) in
/-- The name that stands for the labels of another. -/
def Same (name target : Name) : Prop := nameFromLabels text (labels text name) = some target

theorem other_asked (name : Name) (front : List Text)
    (under : labels text name = front ++ aliyuncs) (other : Other (labels text name)) :
    ossRewrite text name = .ok none ∨ ossRewrite text name =
      .ok (nameFromLabels text (if (labels text name).length = 4 then
        (labels text name).drop 1 else labels text name)) := by
  rcases List.eq_nil_or_concat front with rfl | ⟨before, third, shape⟩
  · left
    have turned : (labels text name).reverse = ["com".toList, "aliyuncs".toList] := by
      rw [under]
      rfl
    unfold ossRewrite
    rw [turned]
    rfl
  · right
    rw [List.concat_eq_append] at shape
    subst shape
    rw [List.append_assoc, List.singleton_append] at under
    have turned : (labels text name).reverse =
        "com".toList :: "aliyuncs".toList :: third :: before.reverse := by
      rw [under]
      simp [-String.reduceToList, aliyuncs]
    rw [under] at other
    have undashed := other third (List.mem_append_right _ List.mem_cons_self)
    have absent := idx_no_oss (third :: before.reverse) (by
      intro inside
      have listed : "oss".toList ∈ before ++ third :: aliyuncs := by
        rw [List.mem_append, List.mem_cons]
        rcases List.mem_cons.mp inside with same | early
        · exact .inr (.inl same)
        · exact .inl (List.mem_reverse.mp early)
      exact (other _ listed).1 rfl)
    have kept : (shortened before.reverse).reverse ++ third :: aliyuncs =
        if (before ++ third :: aliyuncs).length = 4 then (before ++ third :: aliyuncs).drop 1
        else before ++ third :: aliyuncs := by
      match before with
      | [] => rfl
      | [bucket] => rfl
      | first :: second :: more => simp [-String.reduceToList, shortened, aliyuncs]
    rw [rewrite_suffixed name _ _ _ turned (.inl rfl),
      other_edited third _ absent (undashed_parts third undashed.1 undashed.2), kept, under]

/-- A host of another service is left alone exactly when its name has not four labels;
what is resolved in its place is then the name itself. -/
theorem others_left_alone_iff (reads : Reads text) (name target : Name) (front : List Text)
    (under : labels text name = front ++ aliyuncs) (other : Other (labels text name))
    (found : ossRewrite text name = .ok (some target)) :
    (Same text name target ↔ (labels text name).length ≠ 4) ∧
      ((∀ label ∈ labels text name, '\\' ∉ label) →
        (labels text target = labels text name ↔ (labels text name).length ≠ 4)) ∧
      ∀ aRecords authority, MatchRewrite.detect (ossRewrite text)
        (SynthContext.new text name [] aRecords authority) = .ok (some ⟨[target], verbatim⟩) := by
  have asked : nameFromLabels text (if (labels text name).length = 4 then
      (labels text name).drop 1 else labels text name) = some target := by
    rcases other_asked name front under other with none | some
    · rw [none] at found
      cases found
    · exact Except.ok.inj (some.symm.trans found)
  have fewer : (labels text name).length = 4 → (labels text target).length = 3 := by
    intro four
    rw [if_pos four] at asked
    rw [reads.counts name _ target (List.drop_sublist 1 _) asked, List.length_drop, four]
  refine ⟨⟨?_, ?_⟩, ?_, ?_⟩
  · intro same four
    have length := reads.counts name _ target (List.Sublist.refl _) same
    rw [fewer four, four] at length
    cases length
  · intro many
    rwa [if_neg many] at asked
  · intro bare
    constructor
    · intro same four
      have length := fewer four
      rw [same, four] at length
      cases length
    · intro many
      rw [if_neg many] at asked
      exact reads.recovers _ target
        (fun label listed => listed_unescaped name label listed (bare label listed)) asked
  · intro aRecords authority
    have first : firstRewrite (ossRewrite text) [name] = .ok (some target) := by
      rw [firstRewrite, found]
      rfl
    have hostnames : (SynthContext.new text name [] aRecords authority).hostnames = [name] := rfl
    rw [MatchRewrite.detect, hostnames, first]
    rfl

theorem others_left_alone_three :
    (Same hostText (named ["ecs", "aliyuncs", "com"]) (named ["ecs", "aliyuncs", "com"]) ↔
        (labels hostText (named ["ecs", "aliyuncs", "com"])).length ≠ 4) ∧
      ((∀ label ∈ labels hostText (named ["ecs", "aliyuncs", "com"]), '\\' ∉ label) →
        (labels hostText (named ["ecs", "aliyuncs", "com"]) =
            labels hostText (named ["ecs", "aliyuncs", "com"]) ↔
          (labels hostText (named ["ecs", "aliyuncs", "com"])).length ≠ 4)) ∧
      ∀ aRecords authority, MatchRewrite.detect (ossRewrite hostText)
        (SynthContext.new hostText (named ["ecs", "aliyuncs", "com"]) [] aRecords authority) =
          .ok (some ⟨[named ["ecs", "aliyuncs", "com"]], verbatim⟩) := by
  have other : Other (labels hostText (named ["ecs", "aliyuncs", "com"])) := by
    have listed : labels hostText (named ["ecs", "aliyuncs", "com"]) =
        ["ecs".toList, "aliyuncs".toList, "com".toList] := rfl
    rw [listed]
    intro label inside
    simp only [List.mem_cons, List.not_mem_nil, or_false] at inside
    rcases inside with rfl | rfl | rfl
    · exact ⟨by decide, rfl⟩
    · exact ⟨by decide, rfl⟩
    · exact ⟨by decide, rfl⟩
  exact others_left_alone_iff host_text_reads (named ["ecs", "aliyuncs", "com"]) _ ["ecs"] rfl
    other rfl

/-- A host of four labels is answered with the addresses of its parent. -/
theorem four_labels_cut :
    labels hostText (named ["ecs", "cn-hangzhou", "aliyuncs", "com"]) =
        ["ecs".toList, "cn-hangzhou".toList] ++ aliyuncs ∧
      ossRewrite hostText (named ["ecs", "cn-hangzhou", "aliyuncs", "com"]) =
        .ok (some (named ["cn-hangzhou", "aliyuncs", "com"])) ∧
      named ["cn-hangzhou", "aliyuncs", "com"] ≠
        named ["ecs", "cn-hangzhou", "aliyuncs", "com"] :=
  ⟨rfl, rfl, by decide⟩

end Others

end Dnsix.AlibabaEndpoints
