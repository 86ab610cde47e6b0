import Dnsix.HostText
import Dnsix.Rewrites

/-!
Which S3 endpoints keep their bucket and their region when they are rewritten. The
labels the source asks for are written out per kind of endpoint; a bucket label is lost
or doubled, or the region is lost, exactly outside a condition on each kind.
-/

namespace Dnsix.S3Endpoints
open Ascii Dns HostText Panics Rewrites Synth

variable {text : NameText}

/-- The labels that no bucket label is. -/
def reserved : List Text :=
  ["cn", "amazonaws", "dualstack", "s3", "s3-control", "s3-accelerate", "s3-accesspoint",
    "s3-website", "console-l"]

/-- A region label: two or three words and a number, parted by hyphens. -/
structure Region where
  words : List Text
  number : Text
  count : words.length = 2 ∨ words.length = 3
  spelled : ∀ word ∈ words, word ≠ [] ∧ ∀ char ∈ word, char.isAlpha = true
  counted : number ≠ [] ∧ ∀ char ∈ number, char.isDigit = true

def Region.parts (region : Region) : List Text := region.words ++ [region.number]

def Region.label (region : Region) : Text := join "-" region.parts

/-- The services named by a label of their own before the region. -/
inductive Service where
  | s3 | control | accesspoint | website
  deriving DecidableEq

def Service.label : Service → Text
  | .s3 => "s3"
  | .control => "s3-control"
  | .accesspoint => "s3-accesspoint"
  | .website => "s3-website"

/-- What stands between the bucket and `amazonaws.com`. -/
inductive Endpoint where
  | plain
  | dotted (service : Service) (region : Region)
  | dashed (region : Region)
  | dashedWebsite (region : Region)

def amazonaws : List Text := ["amazonaws", "com"]

def Endpoint.labels : Endpoint → List Text
  | .plain => "s3".toList :: amazonaws
  | .dotted service region => service.label :: region.label :: amazonaws
  | .dashed region => ("s3-".toList ++ region.label) :: amazonaws
  | .dashedWebsite region => ("s3-website-".toList ++ region.label) :: amazonaws

def usEast1 : Text := "us-east-1"

/-- The dual-stack endpoint of the same service and region. -/
def Endpoint.dualStack : Endpoint → List Text
  | .plain => "s3".toList :: "dualstack".toList :: usEast1 :: amazonaws
  | .dotted service region => service.label :: "dualstack".toList :: region.label :: amazonaws
  | .dashed region => "s3".toList :: "dualstack".toList :: region.label :: amazonaws
  | .dashedWebsite region => "s3-website".toList :: "dualstack".toList :: region.label :: amazonaws

/-- Two bucket labels make five labels before a region has a place of its own, and the
first of them is doubled. -/
def doubled (buckets : List Text) : List Text :=
  if buckets.length = 2 then buckets.take 1 ++ buckets else buckets

/-- The labels the source asks for. -/
def Endpoint.asked (buckets : List Text) : Endpoint → List Text
  | .plain => doubled buckets ++ "s3".toList :: "dualstack".toList :: usEast1 :: amazonaws
  | .dotted service region =>
      (if buckets.length ≤ 1 then buckets else buckets.dropLast) ++
        service.label :: "dualstack".toList :: region.label :: amazonaws
  | .dashed region =>
      if region.words.head? = some "website".toList then
        (doubled buckets).dropLast ++
          "s3-website".toList :: "dualstack".toList :: usEast1 :: amazonaws
      else
        doubled buckets ++ "s3".toList :: "dualstack".toList ::
          (if region.words.length = 2 then region.label else "s3-".toList ++ region.label) ::
            amazonaws
  | .dashedWebsite _ =>
      (doubled buckets).dropLast ++
        "s3-website".toList :: "dualstack".toList :: usEast1 :: amazonaws

/-- When buckets and region are kept. -/
def Endpoint.Kept (buckets : List Text) : Endpoint → Prop
  | .plain => buckets.length ≠ 2
  | .dotted _ _ => buckets.length ≤ 1
  | .dashed region => region.words.length = 2 ∧ region.words.head? ≠ some "website".toList ∧
      buckets.length ≠ 2
  | .dashedWebsite region => region.label = usEast1 ∧
      (buckets = [] ∨ ∃ bucket, buckets = [bucket, bucket])

theorem dashed_website (buckets : List Text) (region : Region)
    (website : region.words.head? = some "website".toList) :
    (Endpoint.dashed region).asked buckets = (doubled buckets).dropLast ++
      "s3-website".toList :: "dualstack".toList :: usEast1 :: amazonaws := if_pos website

theorem dashed_other (buckets : List Text) (region : Region)
    (other : region.words.head? ≠ some "website".toList) :
    (Endpoint.dashed region).asked buckets = doubled buckets ++ "s3".toList ::
      "dualstack".toList ::
        (if region.words.length = 2 then region.label else "s3-".toList ++ region.label) ::
          amazonaws := if_neg other

/-! Region labels. -/
section Regions

theorem Region.hyphenless (region : Region) : ∀ part ∈ region.parts, '-' ∉ part := by
  intro part listed inside
  rcases List.mem_append.mp listed with word | number
  · exact absurd ((region.spelled part word).2 '-' inside) (by decide)
  · rw [List.mem_singleton.mp number] at inside
    exact absurd (region.counted.2 '-' inside) (by decide)

theorem Region.split_label (region : Region) : split '-' region.label = region.parts :=
  split_joined '-' region.parts (by simp [Region.parts]) region.hyphenless

theorem Region.split_dashed (region : Region) :
    split '-' ("s3-".toList ++ region.label) = "s3".toList :: region.parts := by
  have cut : split '-' ("s3".toList ++ '-' :: region.label) =
      split '-' "s3".toList ++ split '-' region.label := split_append '-' _ _
  rw [region.split_label] at cut
  exact cut

theorem Region.split_dashed_website (region : Region) :
    split '-' ("s3-website-".toList ++ region.label) =
      "s3".toList :: "website".toList :: region.parts := by
  have cut : split '-' ("s3-website".toList ++ '-' :: region.label) =
      split '-' "s3-website".toList ++ split '-' region.label := split_append '-' _ _
  rw [region.split_label] at cut
  exact cut

theorem Region.parts_length (region : Region) : region.parts.length = region.words.length + 1 := by
  simp [Region.parts]

theorem Region.parts_head (region : Region) : region.parts.head? = region.words.head? := by
  have count := region.count
  cases words : region.words with
  | nil => simp [words] at count
  | cons first rest => simp [Region.parts, words]

theorem Region.parts_ne_nil (region : Region) : region.parts ≠ [] := by
  intro empty
  have length := region.parts_length
  rw [empty] at length
  cases length

/-- A label of three parts or more is no reserved one. -/
theorem not_reserved (label : Text) (long : 3 ≤ (split '-' label).length) : label ∉ reserved := by
  intro listed
  have short : ∀ other ∈ reserved, (split '-' other).length ≤ 2 := by
    have all : (reserved.all fun other => decide ((split '-' other).length ≤ 2)) = true := rfl
    intro other known
    exact of_decide_eq_true (List.all_eq_true.mp all other known)
  have bound := short label listed
  omega

/-- No word has the digit of the service's name. -/
theorem Region.head_not_service (region : Region) : region.parts.head? ≠ some "s3".toList := by
  have count := region.count
  cases words : region.words with
  | nil => simp [words] at count
  | cons first rest =>
      intro same
      rw [Region.parts, words] at same
      have spelled := (region.spelled first (by simp [words])).2
      rw [Option.some.inj same] at spelled
      exact absurd (spelled '3' (by decide)) (by decide)

end Regions

/-! The reversed labels. -/
section Reversed

def Free (labels : List Text) : Prop := ∀ label ∈ labels, label ∉ reserved

theorem suffix_free (token : Text) (listed : token ∈ reserved)
    (other : token ≠ "amazonaws".toList) : token ∉ ["com".toList, "amazonaws".toList] := by
  have com : token ≠ "com".toList := by
    rintro rfl
    exact absurd listed (by decide)
  simp only [List.mem_cons, List.not_mem_nil, or_false, not_or]
  exact ⟨com, other⟩

theorem idx_third (third : Text) (rest : List Text) (token : Text) (listed : token ∈ reserved)
    (other : token ≠ "amazonaws".toList) (free : Free rest) :
    idx ("com".toList :: "amazonaws".toList :: third :: rest) token =
      if third = token then some 2 else none :=
  idx_place ["com", "amazonaws"] rest third token (suffix_free token listed other)
    fun inside => free token inside listed

theorem idx_fourth (third fourth : Text) (rest : List Text) (token : Text)
    (listed : token ∈ reserved) (other : token ≠ "amazonaws".toList) (apart : third ∉ reserved)
    (free : Free rest) :
    idx ("com".toList :: "amazonaws".toList :: third :: fourth :: rest) token =
      if fourth = token then some 3 else none := by
  have early : token ∉ ["com".toList, "amazonaws".toList] ++ [third] := by
    rw [List.mem_append, not_or, List.mem_singleton]
    refine ⟨suffix_free token listed other, ?_⟩
    rintro rfl
    exact apart listed
  exact idx_place ["com", "amazonaws", third] rest fourth token early
    fun inside => free token inside listed

theorem idx_amazonaws (rest : List Text) :
    idx ("com".toList :: "amazonaws".toList :: rest) "amazonaws" = some 1 :=
  idx_found ["com"] rest "amazonaws" (by decide)

theorem idx_absent (token : Text) (rest : List Text) (com : token ≠ "com".toList)
    (aws : token ≠ "amazonaws".toList) (absent : token ∉ rest) :
    idx ("com".toList :: "amazonaws".toList :: rest) token = none := by
  apply idx_none
  rw [List.mem_cons, List.mem_cons, not_or, not_or]
  exact ⟨com, aws, absent⟩

/-- Five labels get the last one a second time. -/
def pushed (s : List Text) : List Text := if s.length = 5 then s ++ s.drop 4 else s

theorem push_step (s : List Text) :
    (if s.length = 5 then (Vec.index s 4).map fun v => s ++ [v] else .ok s) = .ok (pushed s) := by
  unfold pushed
  split
  · rename_i five
    have inside : 4 < s.length := by omega
    have last : s.drop 4 = [s[4]] := by
      rw [List.drop_eq_getElem_cons inside, List.drop_eq_nil_of_le (by omega)]
    rw [Vec.index, List.getElem?_eq_getElem inside, last]
    rfl
  · rfl

/-- The removal takes the doubled label of five, and a label of its own of more. -/
theorem remove_pushed (first second third fourth : Text) (rest : List Text) :
    spliceRemove (pushed (first :: second :: third :: fourth :: rest)) 4 =
      .ok (first :: second :: third :: fourth ::
        if rest.length ≤ 1 then rest else rest.drop 1) := by
  match rest with
  | [] => rfl
  | [bucket] => rfl
  | bucket :: other :: more => simp [pushed, spliceRemove, Vec.remove]

/-- The labels behind the third one, in their reversed order, after the doubling. -/
def doubledBack (rest : List Text) : List Text :=
  if rest.length = 2 then rest ++ rest.drop 1 else rest

theorem pushed_third (first second third : Text) (rest : List Text) :
    pushed (first :: second :: third :: rest) = first :: second :: third :: doubledBack rest := by
  by_cases two : rest.length = 2
  · simp [pushed, doubledBack, two]
  · simp [pushed, doubledBack, two]

theorem Service.label_eq_iff (service other : Service) :
    service.label = other.label ↔ service = other := by
  cases service <;> cases other <;> decide

theorem dotted_reshape (service : Service) (region : Region) (rest : List Text)
    (free : Free rest) :
    s3Reshape ("com".toList :: "amazonaws".toList :: region.label :: service.label :: rest) none =
      .ok (some ("com".toList :: "amazonaws".toList :: region.label :: service.label ::
        (if rest.length ≤ 1 then rest else rest.drop 1), none)) := by
  have apart : region.label ∉ reserved := by
    apply not_reserved
    rw [region.split_label, region.parts_length]
    have count := region.count
    omega
  have place := fun token listed other =>
    idx_fourth region.label service.label rest token listed other apart free
  have placed : ∀ (other : Service) (token : Text), other.label = token →
      idx ("com".toList :: "amazonaws".toList :: region.label :: service.label :: rest) token =
        if service = other then some 3 else none := by
    rintro other _ rfl
    rw [place other.label (by cases other <;> decide) (by cases other <;> decide)]
    simp only [Service.label_eq_iff]
  have s3 := placed .s3 "s3" rfl
  have control := placed .control "s3-control" rfl
  have accesspoint := placed .accesspoint "s3-accesspoint" rfl
  have website := placed .website "s3-website" rfl
  have accelerate := (place "s3-accelerate" (by decide) (by decide)).trans
    (if_neg (by cases service <;> decide))
  have console := (place "console-l" (by decide) (by decide)).trans
    (if_neg (by cases service <;> decide))
  rcases List.exists_cons_of_ne_nil region.parts_ne_nil with ⟨head, tail, parts⟩
  have unlike : head ≠ "s3".toList := by
    rintro rfl
    exact region.head_not_service (by rw [parts]; rfl)
  have third : Vec.index ("com".toList :: "amazonaws".toList :: region.label ::
      service.label :: rest) 2 = .ok region.label := rfl
  have first : Vec.index region.parts 0 = .ok head := by
    rw [parts]
    rfl
  unfold s3Reshape
  simp only [bind, Except.bind, third, push_step, region.split_label, first, s3, control,
    accesspoint, website, accelerate, console, unlike, false_and, if_false, reduceCtorEq]
  cases service with
  | s3 => simp [remove_pushed]
  | control => simp [remove_pushed]
  | accesspoint => simp [remove_pushed]
  | website => simp [remove_pushed]

theorem plain_reshape (rest : List Text) (free : Free rest) :
    s3Reshape ("com".toList :: "amazonaws".toList :: "s3".toList :: rest) none =
      .ok (some ("com".toList :: "amazonaws".toList :: usEast1 :: "s3".toList ::
        doubledBack rest, none)) := by
  have place := fun token listed other => idx_third "s3" rest token listed other free
  have s3 := (place "s3" (by decide) (by decide)).trans (if_pos rfl)
  have control := (place "s3-control" (by decide) (by decide)).trans (if_neg (by decide))
  have accelerate := (place "s3-accelerate" (by decide) (by decide)).trans (if_neg (by decide))
  have accesspoint := (place "s3-accesspoint" (by decide) (by decide)).trans (if_neg (by decide))
  have website := (place "s3-website" (by decide) (by decide)).trans (if_neg (by decide))
  have console := (place "console-l" (by decide) (by decide)).trans (if_neg (by decide))
  have third : Vec.index ("com".toList :: "amazonaws".toList :: "s3".toList :: rest) 2 =
      .ok "s3".toList := rfl
  have parts : split '-' "s3".toList = ["s3".toList] := rfl
  have first : Vec.index ["s3".toList] 0 = .ok "s3".toList := rfl
  have inserted : spliceInsert ("com".toList :: "amazonaws".toList :: "s3".toList ::
      doubledBack rest) 2 "us-east-1" =
      .ok ("com".toList :: "amazonaws".toList :: usEast1 :: "s3".toList :: doubledBack rest) := rfl
  unfold s3Reshape
  simp only [bind, Except.bind, third, push_step, pushed_third, parts, first, s3, control,
    accesspoint, website, accelerate, console, idx_amazonaws]
  simp [-String.reduceToList, inserted]

/-- A third label that is none of the known ones is told by its dashed parts. -/
theorem website_reshape (third : Text) (rest more : List Text) (free : Free rest)
    (parts : split '-' third = "s3".toList :: "website".toList :: more) (long : 2 ≤ more.length) :
    s3Reshape ("com".toList :: "amazonaws".toList :: third :: rest) none =
      .ok (some ("com".toList :: "amazonaws".toList :: usEast1 :: "s3-website".toList ::
        (doubledBack rest).drop 1, none)) := by
  have apart : third ∉ reserved := by
    apply not_reserved
    rw [parts, List.length_cons, List.length_cons]
    omega
  have place : ∀ token ∈ reserved, token ≠ "amazonaws".toList →
      idx ("com".toList :: "amazonaws".toList :: third :: rest) token = none := by
    intro token listed other
    rw [idx_third third rest token listed other free, if_neg]
    rintro rfl
    exact apart listed
  have s3 := place "s3" (by decide) (by decide)
  have control := place "s3-control" (by decide) (by decide)
  have accelerate := place "s3-accelerate" (by decide) (by decide)
  have accesspoint := place "s3-accesspoint" (by decide) (by decide)
  have website := place "s3-website" (by decide) (by decide)
  have console := place "console-l" (by decide) (by decide)
  have listed : Vec.index ("com".toList :: "amazonaws".toList :: third :: rest) 2 = .ok third := rfl
  have first : Vec.index ("s3".toList :: "website".toList :: more) 0 = .ok "s3".toList := rfl
  have regional : spliceReplace ("com".toList :: "amazonaws".toList :: third ::
      doubledBack rest) 2 "us-east-1" =
      .ok ("com".toList :: "amazonaws".toList :: usEast1 :: doubledBack rest) := rfl
  have fourth : spliceReplace ("com".toList :: "amazonaws".toList :: usEast1 ::
      doubledBack rest) 3 "s3-website" =
      .ok ("com".toList :: "amazonaws".toList :: usEast1 :: "s3-website".toList ::
        (doubledBack rest).drop 1) := by
    cases doubledBack rest with
    | nil => rfl
    | cons bucket others => rfl
  have short : ¬(more.length + 1 + 1 = 3 ∨ more.length + 1 + 1 = 2) := by omega
  have marked : ("s3".toList :: "website".toList :: more)[1]? = some "website".toList := rfl
  unfold s3Reshape
  simp only [bind, Except.bind, listed, push_step, pushed_third, parts, first, s3, control,
    accesspoint, website, accelerate, console, marked, regional, fourth]
  simp only [List.length_cons, short, false_and, and_false, reduceCtorEq, or_self, and_self,
    if_false, if_true]

/-- The other dashed labels: the region is what is behind the service's part, which stays
in front of a region of four parts. -/
theorem dashed_reshape (third : Text) (rest : List Text) (region : Region) (free : Free rest)
    (parts : split '-' third = "s3".toList :: region.parts)
    (plain : region.words.head? ≠ some "website".toList) :
    s3Reshape ("com".toList :: "amazonaws".toList :: third :: rest) none =
      .ok (some ("com".toList :: "amazonaws".toList ::
        (if region.words.length = 2 then region.label else third) :: "s3".toList ::
          doubledBack rest, none)) := by
  have count := region.count
  have length := region.parts_length
  have apart : third ∉ reserved := by
    apply not_reserved
    rw [parts, List.length_cons]
    omega
  have place : ∀ token ∈ reserved, token ≠ "amazonaws".toList →
      idx ("com".toList :: "amazonaws".toList :: third :: rest) token = none := by
    intro token listed other
    rw [idx_third third rest token listed other free, if_neg]
    rintro rfl
    exact apart listed
  have s3 := place "s3" (by decide) (by decide)
  have control := place "s3-control" (by decide) (by decide)
  have accelerate := place "s3-accelerate" (by decide) (by decide)
  have accesspoint := place "s3-accesspoint" (by decide) (by decide)
  have website := place "s3-website" (by decide) (by decide)
  have console := place "console-l" (by decide) (by decide)
  have listed : Vec.index ("com".toList :: "amazonaws".toList :: third :: rest) 2 = .ok third := rfl
  have first : Vec.index ("s3".toList :: region.parts) 0 = .ok "s3".toList := rfl
  have removed : spliceRemove ("com".toList :: "amazonaws".toList :: third :: doubledBack rest) 2 =
      .ok ("com".toList :: "amazonaws".toList :: doubledBack rest) := rfl
  have short : ¬(region.parts.length + 1 = 3 ∨ region.parts.length + 1 = 2) := by omega
  have unmarked : ("s3".toList :: region.parts)[1]? ≠ some "website".toList := by
    rw [List.getElem?_cons_succ, ← List.head?_eq_getElem?, region.parts_head]
    exact plain
  have chosen : (if region.parts.length + 1 = 4 ∧ (none : Option Nat) ≠ some 0 then
      Vec.remove ("s3".toList :: region.parts) 0 else .ok ("s3".toList :: region.parts)) =
      .ok (if region.words.length = 2 then region.parts else "s3".toList :: region.parts) := by
    rcases count with two | three
    · rw [if_pos ⟨by omega, by simp⟩, if_pos two]
      rfl
    · rw [if_neg (by omega), if_neg (by omega)]
  have joined : join "-" (if region.words.length = 2 then region.parts
      else "s3".toList :: region.parts) =
      if region.words.length = 2 then region.label else third := by
    split
    · rfl
    · rw [← parts]
      exact join_split '-' third
  unfold s3Reshape
  simp only [bind, Except.bind, listed, push_step, pushed_third, parts, first, s3, control,
    accesspoint, website, accelerate, console, removed]
  simp only [List.length_cons, short, unmarked, false_and, and_false, reduceCtorEq, or_self,
    if_false]
  have region : 1 < region.parts.length + 1 := by omega
  simp only [region, if_true]
  rw [chosen]
  simp only [joined, ne_eq, not_true_eq_false, if_false]
  rfl

/-- From a reshaped list to the labels asked for. -/
theorem rewrite_of_reshape (name : Name) (third region service : Text) (rest back : List Text)
    (listed : (labels text name).reverse = "com".toList :: "amazonaws".toList :: third :: rest)
    (chinese : "cn".toList ∉ third :: rest) (single : "dualstack".toList ∉ third :: rest)
    (reshaped : s3Reshape ("com".toList :: "amazonaws".toList :: third :: rest) none =
      .ok (some ("com".toList :: "amazonaws".toList :: region :: service :: back, none)))
    (regional : region ≠ "dualstack".toList) :
    s3Rewrite text name = .ok (nameFromLabels text
      (back.reverse ++ service :: "dualstack".toList :: region :: amazonaws)) := by
  have cn := idx_absent "cn" (third :: rest) (by decide) (by decide) chinese
  have dual := idx_absent "dualstack" (third :: rest) (by decide) (by decide) single
  have other : ("com".toList :: "amazonaws".toList :: region :: service :: back)[2]? ≠
      some "dualstack".toList := fun same => regional (Option.some.inj same)
  have inserted : spliceInsert ("com".toList :: "amazonaws".toList :: region :: service :: back) 3
      "dualstack" = .ok ("com".toList :: "amazonaws".toList :: region :: "dualstack".toList ::
        service :: back) := rfl
  have length : 2 < ("com".toList :: "amazonaws".toList :: third :: rest).length := by simp
  have turned : ("com".toList :: "amazonaws".toList :: region :: "dualstack".toList ::
      service :: back).reverse =
      back.reverse ++ service :: "dualstack".toList :: region :: amazonaws := by
    simp [-String.reduceToList, amazonaws]
  unfold s3Rewrite
  simp only [listed, cn, dual, bind, Except.bind, reduceCtorEq, if_false, idx_amazonaws, false_and,
    true_and, length, not_true_eq_false, reshaped, ne_eq, other, not_false_eq_true, if_true,
    inserted, turned]

theorem doubled_back (buckets : List Text) :
    (doubledBack buckets.reverse).reverse = doubled buckets := by
  unfold doubledBack doubled
  rw [List.length_reverse]
  split
  · rename_i two
    rw [List.reverse_append, List.reverse_reverse, List.drop_reverse, List.reverse_reverse, two]
  · exact List.reverse_reverse buckets

end Reversed

/-! The labels asked for. -/
section Asked

theorem turned (buckets : List Text) (third : Text) :
    (buckets ++ third :: amazonaws).reverse =
      "com".toList :: "amazonaws".toList :: third :: buckets.reverse := by
  simp [-String.reduceToList, amazonaws]

theorem free_reverse (buckets : List Text) (free : Free buckets) : Free buckets.reverse :=
  fun label listed => free label (List.mem_reverse.mp listed)

/-- A reserved label is neither a label of several parts nor a bucket. -/
theorem absent_behind (token third : Text) (buckets : List Text) (known : token ∈ reserved)
    (other : third ≠ token) (free : Free buckets) : token ∉ third :: buckets.reverse := by
  rw [List.mem_cons, not_or, List.mem_reverse]
  exact ⟨other.symm, fun listed => free token listed known⟩

theorem Region.label_not_reserved (region : Region) : region.label ∉ reserved := by
  apply not_reserved
  have count := region.count
  rw [region.split_label, region.parts_length]
  omega

theorem website_asked (name : Name) (buckets more : List Text) (third : Text)
    (listed : labels text name = buckets ++ third :: amazonaws) (free : Free buckets)
    (parts : split '-' third = "s3".toList :: "website".toList :: more) (long : 2 ≤ more.length) :
    s3Rewrite text name = .ok (nameFromLabels text ((doubled buckets).dropLast ++
      "s3-website".toList :: "dualstack".toList :: usEast1 :: amazonaws)) := by
  have apart : third ∉ reserved := by
    apply not_reserved
    rw [parts, List.length_cons, List.length_cons]
    omega
  have other : ∀ token ∈ reserved, third ≠ token := by
    rintro token known rfl
    exact apart known
  have rewritten := rewrite_of_reshape name third usEast1 "s3-website" buckets.reverse _
    (by rw [listed, turned])
    (absent_behind "cn" third buckets (by decide) (other _ (by decide)) free)
    (absent_behind "dualstack" third buckets (by decide) (other _ (by decide)) free)
    (website_reshape third buckets.reverse more (free_reverse buckets free) parts long) (by decide)
  have shorter : ((doubledBack buckets.reverse).drop 1).reverse = (doubled buckets).dropLast := by
    rw [← doubled_back, List.drop_one, List.dropLast_reverse]
  rw [rewritten, shorter]

theorem plain_asked (name : Name) (buckets : List Text)
    (listed : labels text name = buckets ++ Endpoint.plain.labels) (free : Free buckets) :
    s3Rewrite text name = .ok (nameFromLabels text (Endpoint.plain.asked buckets)) := by
  have rewritten := rewrite_of_reshape name "s3" usEast1 "s3" buckets.reverse _
    (by rw [listed]; exact turned buckets "s3")
    (absent_behind "cn" "s3" buckets (by decide) (by decide) free)
    (absent_behind "dualstack" "s3" buckets (by decide) (by decide) free)
    (plain_reshape buckets.reverse (free_reverse buckets free)) (by decide)
  rw [rewritten, doubled_back]
  rfl

theorem dotted_asked (name : Name) (buckets : List Text) (service : Service) (region : Region)
    (listed : labels text name = buckets ++ (Endpoint.dotted service region).labels)
    (free : Free buckets) :
    s3Rewrite text name =
      .ok (nameFromLabels text ((Endpoint.dotted service region).asked buckets)) := by
  have other : ∀ token ∈ reserved, region.label ≠ token := by
    rintro token known rfl
    exact region.label_not_reserved known
  have shape : (labels text name).reverse = "com".toList :: "amazonaws".toList ::
      region.label :: service.label :: buckets.reverse := by
    have cut : (buckets ++ service.label :: region.label :: amazonaws).reverse =
        "com".toList :: "amazonaws".toList :: region.label :: service.label ::
          buckets.reverse := by
      simp [-String.reduceToList, amazonaws]
    rw [listed]
    exact cut
  have missing : ∀ token ∈ reserved, service.label ≠ token →
      token ∉ region.label :: service.label :: buckets.reverse := by
    intro token known unlike
    rw [List.mem_cons, not_or]
    exact ⟨(other token known).symm,
      absent_behind token service.label buckets known unlike free⟩
  have rewritten := rewrite_of_reshape name region.label region.label service.label _ _ shape
    (missing "cn" (by decide) (by cases service <;> decide))
    (missing "dualstack" (by decide) (by cases service <;> decide))
    (dotted_reshape service region buckets.reverse (free_reverse buckets free))
    (other _ (by decide))
  have kept : (if buckets.reverse.length ≤ 1 then buckets.reverse
      else buckets.reverse.drop 1).reverse =
      if buckets.length ≤ 1 then buckets else buckets.dropLast := by
    rw [List.length_reverse]
    split
    · exact List.reverse_reverse buckets
    · rw [List.drop_one, List.tail_reverse, List.reverse_reverse]
  rw [rewritten, kept]
  rfl

/-- A region whose first word is `website` is read as the website endpoint of the rest. -/
theorem dashed_asked (name : Name) (buckets : List Text) (region : Region)
    (listed : labels text name = buckets ++ (Endpoint.dashed region).labels)
    (free : Free buckets) :
    s3Rewrite text name = .ok (nameFromLabels text ((Endpoint.dashed region).asked buckets)) := by
  have parts := region.split_dashed
  have count := region.count
  have length := region.parts_length
  by_cases website : region.words.head? = some "website".toList
  · have shape : region.parts = "website".toList :: region.parts.tail := by
      rw [← region.parts_head] at website
      exact (List.cons_head?_tail website).symm
    have long : 2 ≤ region.parts.tail.length := by
      rw [List.length_tail]
      omega
    rw [shape] at parts
    rw [website_asked name buckets region.parts.tail _ listed free parts long,
      dashed_website buckets region website]
  · have apart : "s3-".toList ++ region.label ∉ reserved := by
      apply not_reserved
      rw [parts, List.length_cons]
      omega
    have other : ∀ token ∈ reserved, "s3-".toList ++ region.label ≠ token := by
      rintro token known same
      rw [same] at apart
      exact apart known
    have regional : (if region.words.length = 2 then region.label
        else "s3-".toList ++ region.label) ≠ "dualstack".toList := by
      split
      · rintro same
        exact region.label_not_reserved (same ▸ by decide)
      · exact other _ (by decide)
    have rewritten := rewrite_of_reshape name ("s3-".toList ++ region.label) _ "s3"
      buckets.reverse _ (by rw [listed]; exact turned buckets _)
      (absent_behind "cn" _ buckets (by decide) (other _ (by decide)) free)
      (absent_behind "dualstack" _ buckets (by decide) (other _ (by decide)) free)
      (dashed_reshape _ buckets.reverse region (free_reverse buckets free) parts website) regional
    rw [rewritten, doubled_back, dashed_other buckets region website]

/-- Every endpoint with any buckets before it. -/
theorem endpoint_asked (name : Name) (buckets : List Text) (endpoint : Endpoint)
    (listed : labels text name = buckets ++ endpoint.labels) (free : Free buckets) :
    s3Rewrite text name = .ok (nameFromLabels text (endpoint.asked buckets)) := by
  cases endpoint with
  | plain => exact plain_asked name buckets listed free
  | dotted service region => exact dotted_asked name buckets service region listed free
  | dashed region => exact dashed_asked name buckets region listed free
  | dashedWebsite region =>
      have count := region.count
      exact website_asked name buckets region.parts _ listed free region.split_dashed_website
        (by rw [region.parts_length]; omega)

end Asked

/-! Buckets and regions kept. -/
section Kept

theorem doubled_eq_iff (buckets : List Text) : doubled buckets = buckets ↔ buckets.length ≠ 2 := by
  unfold doubled
  split
  · rename_i two
    constructor
    · intro same
      have longer := congrArg List.length same
      rw [List.length_append, List.length_take] at longer
      omega
    · exact fun other => absurd two other
  · rename_i other
    exact ⟨fun _ => other, fun _ => rfl⟩

theorem doubled_shorter_iff (buckets : List Text) :
    (doubled buckets).dropLast = buckets ↔
      buckets = [] ∨ ∃ bucket, buckets = [bucket, bucket] := by
  constructor
  · intro same
    have shorter := congrArg List.length same
    rw [List.length_dropLast] at shorter
    match buckets with
    | [] => exact .inl rfl
    | [only] => simp [doubled] at shorter
    | [first, second] =>
        right
        have pair : [first, first] = [first, second] := same
        cases pair
        exact ⟨first, rfl⟩
    | first :: second :: third :: more =>
        simp [doubled] at shorter
  · rintro (rfl | ⟨bucket, rfl⟩)
    · rfl
    · rfl

theorem last_dropped_iff (buckets : List Text) :
    (if buckets.length ≤ 1 then buckets else buckets.dropLast) = buckets ↔ buckets.length ≤ 1 := by
  split
  · rename_i short
    exact ⟨fun _ => short, fun _ => rfl⟩
  · rename_i long
    constructor
    · intro same
      have shorter := congrArg List.length same
      rw [List.length_dropLast] at shorter
      omega
    · exact fun short => absurd short long

theorem append_four_iff (left right : List Text) (a b c d : Text) :
    left ++ a :: "dualstack".toList :: b :: amazonaws =
        right ++ c :: "dualstack".toList :: d :: amazonaws ↔ left = right ∧ a = c ∧ b = d := by
  constructor
  · intro same
    rcases List.append_inj' same rfl with ⟨front, back⟩
    simp only [List.cons.injEq, and_true, true_and] at back
    exact ⟨front, back⟩
  · rintro ⟨rfl, rfl, rfl⟩
    rfl

theorem asked_iff (buckets : List Text) (endpoint : Endpoint) :
    endpoint.asked buckets = buckets ++ endpoint.dualStack ↔ endpoint.Kept buckets := by
  cases endpoint with
  | plain =>
      have parts := append_four_iff (doubled buckets) buckets "s3" usEast1 "s3" usEast1
      rw [doubled_eq_iff] at parts
      exact parts.trans ⟨fun kept => kept.1, fun kept => ⟨kept, rfl, rfl⟩⟩
  | dotted service region =>
      have parts := append_four_iff (if buckets.length ≤ 1 then buckets else buckets.dropLast)
        buckets service.label region.label service.label region.label
      rw [last_dropped_iff] at parts
      exact parts.trans ⟨fun kept => kept.1, fun kept => ⟨kept, rfl, rfl⟩⟩
  | dashed region =>
      by_cases website : region.words.head? = some "website".toList
      · have parts := append_four_iff (doubled buckets).dropLast buckets "s3-website" usEast1 "s3"
          region.label
        rw [dashed_website buckets region website]
        refine parts.trans ⟨fun kept => ?_, fun kept => ?_⟩
        · exact absurd kept.2.1 (by decide)
        · exact absurd website kept.2.1
      · have parts := append_four_iff (doubled buckets) buckets "s3"
          (if region.words.length = 2 then region.label else "s3-".toList ++ region.label) "s3"
          region.label
        have regional : (if region.words.length = 2 then region.label
            else "s3-".toList ++ region.label) = region.label ↔ region.words.length = 2 := by
          split
          · rename_i two
            exact ⟨fun _ => two, fun _ => rfl⟩
          · rename_i other
            constructor
            · intro same
              have longer := congrArg List.length same
              rw [List.length_append] at longer
              exact absurd longer (Nat.ne_of_gt (Nat.lt_add_of_pos_left (by decide)))
            · exact fun two => absurd two other
        rw [doubled_eq_iff, regional] at parts
        rw [dashed_other buckets region website]
        refine parts.trans ⟨fun kept => ?_, fun kept => ?_⟩
        · exact ⟨kept.2.2, website, kept.1⟩
        · exact ⟨kept.2.2, rfl, kept.1⟩
  | dashedWebsite region =>
      have parts := append_four_iff (doubled buckets).dropLast buckets "s3-website" usEast1
        "s3-website" region.label
      rw [doubled_shorter_iff] at parts
      refine parts.trans ⟨fun kept => ?_, fun kept => ?_⟩
      · exact ⟨kept.2.2.symm, kept.1⟩
      · exact ⟨kept.2, rfl, kept.1.symm⟩

/-- A bucket label: none of the reserved ones, and printed without an escape. -/
structure Bucket (label : Text) : Prop where
  free : label ∉ reserved
  bare : '\\' ∉ label

theorem Region.label_chars (region : Region) :
    ∀ char ∈ region.label, char.isAlpha = true ∨ char.isDigit = true ∨ char = '-' := by
  intro char inside
  rcases mem_join '-' region.parts char inside with hyphen | ⟨part, listed, inPart⟩
  · exact .inr (.inr hyphen)
  · rcases List.mem_append.mp listed with word | number
    · exact .inl ((region.spelled part word).2 char inPart)
    · rw [List.mem_singleton.mp number] at inPart
      exact .inr (.inl (region.counted.2 char inPart))

theorem Region.label_unescaped (region : Region)
    (lower : toAsciiLowercase region.label = region.label) : Unescaped region.label where
  present := by
    intro empty
    have parts := region.split_label
    rw [empty] at parts
    have length := congrArg List.length parts
    have count := region.count
    rw [region.parts_length] at length
    have one : (split '-' []).length = 1 := rfl
    omega
  whole := fun dot => by
    rcases region.label_chars '.' dot with alpha | digit | hyphen
    · exact absurd alpha (by decide)
    · exact absurd digit (by decide)
    · exact absurd hyphen (by decide)
  bare := fun slash => by
    rcases region.label_chars '\\' slash with alpha | digit | hyphen
    · exact absurd alpha (by decide)
    · exact absurd digit (by decide)
    · exact absurd hyphen (by decide)
  lower := lower

theorem rewritten_unescaped (front : List Text) (service region : Text)
    (buckets : ∀ part ∈ front, Unescaped part) (served : Unescaped service)
    (regional : Unescaped region) :
    ∀ part ∈ front ++ service :: "dualstack".toList :: region :: amazonaws, Unescaped part := by
  have dual : Unescaped "dualstack".toList := ⟨by decide, by decide, by decide, by decide⟩
  have aws : Unescaped "amazonaws".toList := ⟨by decide, by decide, by decide, by decide⟩
  have com : Unescaped "com".toList := ⟨by decide, by decide, by decide, by decide⟩
  intro part listed
  rcases List.mem_append.mp listed with inFront | inBack
  · exact buckets part inFront
  · rw [amazonaws] at inBack
    simp only [List.mem_cons, List.not_mem_nil, or_false] at inBack
    rcases inBack with rfl | rfl | rfl | rfl | rfl
    · exact served
    · exact dual
    · exact regional
    · exact aws
    · exact com

theorem doubled_mem (buckets : List Text) (part : Text) (listed : part ∈ doubled buckets) :
    part ∈ buckets := by
  unfold doubled at listed
  split at listed
  · rcases List.mem_append.mp listed with first | whole
    · exact List.mem_of_mem_take first
    · exact whole
  · exact listed

theorem asked_unescaped (name : Name) (buckets : List Text) (endpoint : Endpoint)
    (listed : labels text name = buckets ++ endpoint.labels)
    (fine : ∀ bucket ∈ buckets, Bucket bucket) :
    ∀ part ∈ endpoint.asked buckets, Unescaped part := by
  have lower : ∀ part ∈ endpoint.labels, toAsciiLowercase part = part := by
    intro part inside
    exact (labels_listed name part (by rw [listed]; exact List.mem_append_right _ inside)).2.2
  have bucket : ∀ part ∈ buckets, Unescaped part := by
    intro part inside
    exact listed_unescaped name part (by rw [listed]; exact List.mem_append_left _ inside)
      (fine part inside).bare
  have twice : ∀ part ∈ doubled buckets, Unescaped part :=
    fun part inside => bucket part (doubled_mem buckets part inside)
  have shorter : ∀ part ∈ (doubled buckets).dropLast, Unescaped part :=
    fun part inside => twice part (List.mem_of_mem_dropLast inside)
  have s3 : Unescaped "s3".toList := ⟨by decide, by decide, by decide, by decide⟩
  have website : Unescaped "s3-website".toList := ⟨by decide, by decide, by decide, by decide⟩
  have us : Unescaped usEast1 := ⟨by decide, by decide, by decide, by decide⟩
  cases endpoint with
  | plain => exact rewritten_unescaped _ _ _ twice s3 us
  | dotted service region =>
      have served : Unescaped service.label := by
        cases service <;> exact ⟨by decide, by decide, by decide, by decide⟩
      have regional := region.label_unescaped
        (lower region.label (List.mem_cons_of_mem _ List.mem_cons_self))
      refine rewritten_unescaped _ _ _ ?_ served regional
      intro part inside
      split at inside
      · exact bucket part inside
      · exact bucket part (List.mem_of_mem_dropLast inside)
  | dashed region =>
      have whole : toAsciiLowercase ("s3-".toList ++ region.label) = "s3-".toList ++ region.label :=
        lower _ List.mem_cons_self
      have behind : toAsciiLowercase region.label = region.label := by
        rw [toAsciiLowercase, List.map_append] at whole
        exact List.append_cancel_left whole
      have regional := region.label_unescaped behind
      have unsplit : Unescaped ("s3-".toList ++ region.label) := by
        refine ⟨List.cons_ne_nil _ _, ?_, ?_, whole⟩
        · rw [List.mem_append, not_or]
          exact ⟨by decide, regional.whole⟩
        · rw [List.mem_append, not_or]
          exact ⟨by decide, regional.bare⟩
      by_cases site : region.words.head? = some "website".toList
      · rw [dashed_website buckets region site]
        exact rewritten_unescaped _ _ _ shorter website us
      · rw [dashed_other buckets region site]
        apply rewritten_unescaped _ _ _ twice s3
        split
        · exact regional
        · exact unsplit
  | dashedWebsite region => exact rewritten_unescaped _ _ _ shorter website us

/-- The name that is resolved in an endpoint's place is the dual-stack endpoint of the
same buckets and region exactly under the condition of its kind. -/
theorem bucket_and_region_kept_iff (reads : Reads text) (name target : Name)
    (buckets : List Text) (endpoint : Endpoint)
    (listed : labels text name = buckets ++ endpoint.labels)
    (fine : ∀ bucket ∈ buckets, Bucket bucket)
    (found : s3Rewrite text name = .ok (some target)) :
    labels text target = buckets ++ endpoint.dualStack ↔ endpoint.Kept buckets := by
  have asked := endpoint_asked name buckets endpoint listed fun bucket inside =>
    (fine bucket inside).free
  have read : nameFromLabels text (endpoint.asked buckets) = some target :=
    Except.ok.inj (asked.symm.trans found)
  rw [reads.recovers _ target (asked_unescaped name buckets endpoint listed fine) read]
  exact asked_iff buckets endpoint

def usWest2 : Region :=
  { words := ["us", "west"]
    number := "2"
    count := .inl rfl
    spelled := by
      intro word listed
      rcases List.mem_cons.mp listed with rfl | listed
      · exact ⟨by decide, List.all_eq_true.mp rfl⟩
      · rw [List.mem_singleton.mp listed]
        exact ⟨by decide, List.all_eq_true.mp rfl⟩
    counted := ⟨by decide, List.all_eq_true.mp rfl⟩ }

theorem bucket_and_region_kept_one :
    labels hostText (named ["assets", "s3", "dualstack", "us-west-2", "amazonaws", "com"]) =
        ["assets".toList] ++ (Endpoint.dotted .s3 usWest2).dualStack ↔
      (Endpoint.dotted .s3 usWest2).Kept ["assets"] :=
  bucket_and_region_kept_iff host_text_reads
    (named ["assets", "s3", "us-west-2", "amazonaws", "com"]) _ ["assets"] _ rfl
    (by
      intro bucket listed
      rw [List.mem_singleton.mp listed]
      exact ⟨by decide, by decide⟩)
    rfl

/-- Of two bucket labels the one next to the service is dropped. -/
theorem two_buckets_one_dropped :
    labels hostText (named ["my", "bucket", "s3", "us-west-2", "amazonaws", "com"]) =
        ["my".toList, "bucket".toList] ++ (Endpoint.dotted .s3 usWest2).labels ∧
      s3Rewrite hostText (named ["my", "bucket", "s3", "us-west-2", "amazonaws", "com"]) =
        .ok (some (named ["my", "s3", "dualstack", "us-west-2", "amazonaws", "com"])) ∧
      labels hostText (named ["my", "s3", "dualstack", "us-west-2", "amazonaws", "com"]) ≠
        ["my".toList, "bucket".toList] ++ (Endpoint.dotted .s3 usWest2).dualStack :=
  ⟨rfl, rfl, by decide⟩

end Kept

end Dnsix.S3Endpoints
