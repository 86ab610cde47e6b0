import Dnsix.Synth

/-!
The hostname rewrites of `cdn.rs`. Each turns a host name of its provider into the
dual-stack name to resolve, on the list of labels and with the checked vector
operations the source uses; none of them panics, whatever the name.
-/

namespace Dnsix.Rewrites
open Ascii Dns Panics Synth

variable (text : NameText)

/-! Insert and remove that tolerate positions out of range. -/
section Splice

def spliceInsert (v : List Text) (i : Nat) (val : Text) : Checked (List Text) :=
  Vec.insert v (min i v.length) val

def spliceRemove (v : List Text) (i : Nat) : Checked (List Text) :=
  if i < v.length then Vec.remove v i else .ok v

def spliceReplace (v : List Text) (i : Nat) (val : Text) : Checked (List Text) :=
  if i < v.length then Vec.assign v i val else Vec.insert v (min i v.length) val

def setExt (v : List Text) (i : Nat) (val : Text) : Checked (List Text) :=
  Vec.assign (v ++ List.replicate (i + 1 - v.length) []) i val

theorem ensures_splice_insert (v : List Text) (i : Nat) (val : Text) :
    Ensures (spliceInsert v i val) fun result => result.length = v.length + 1 :=
  ensures_insert v _ val (Nat.min_le_right _ _)

theorem ensures_splice_remove (v : List Text) (i : Nat) :
    Ensures (spliceRemove v i) fun result => v.length ≤ result.length + 1 := by
  refine ensures_ite ?_ ?_
  · intro inside
    exact ensures_weaken (ensures_remove v i inside) fun _ same => same.ge
  · intro _
    exact ensures_ok _ (Nat.le_succ _)

theorem ensures_splice_replace (v : List Text) (i : Nat) (val : Text) :
    Ensures (spliceReplace v i val) fun result => v.length ≤ result.length := by
  refine ensures_ite ?_ ?_
  · intro inside
    exact ensures_weaken (ensures_assign v i val inside) fun _ same => same.ge
  · intro _
    refine ensures_weaken (ensures_insert v _ val (Nat.min_le_right _ _)) ?_
    intro result same
    omega

theorem completes_set_ext (v : List Text) (i : Nat) (val : Text) : Completes (setExt v i val) := by
  refine completes_weaken (ensures_assign _ i val ?_)
  rw [List.length_append, List.length_replicate]
  omega

end Splice

def akamaiRewrite (name : Name) : Checked (Option Name) := do
  let l := labels text name
  if l.length < 3 then .ok none
  else if !(← andAlso (Vec.backIs l 1 "net")
      (orElse (Vec.backIs l 2 "akamaiedge") (Vec.backIs l 2 "akamai"))) then .ok none
  else
    let lab ← Vec.indexBack l 3
    let l ← Vec.assignBack l 3
      (if lab = "cj" then ("ds" : Text) ++ lab else ("dsc" : Text) ++ lab)
    .ok (nameFromLabels text l)

def awsglbRewrite (name : Name) : Checked (Option Name) := do
  let l := labels text name
  if l.length < 2 then .ok none
  else if !(← andAlso (Vec.backIs l 1 "com") (Vec.backIs l 2 "awsglobalaccelerator")) then
    .ok none
  else if ← andAlso (.ok (decide (3 ≤ l.length))) (Vec.backIs l 3 "dualstack") then
    .ok (nameFromLabels text l)
  else
    let l ← Vec.insertBack l 2 "dualstack"
    .ok (nameFromLabels text l)

def azureRewrite (name : Name) : Checked (Option Name) := do
  let l := labels text name
  if l.length < 4 then .ok none
  else if !(← andAlso (Vec.backIs l 1 "net")
      (andAlso (Vec.backIs l 2 "windows") (Vec.backIs l 3 "azurewebsites"))) then .ok none
  else
    -- The label before `azurewebsites` is overwritten, not inserted before.
    let l ← Vec.assignBack l 4 "sip-v4andv6"
    .ok (nameFromLabels text l)

/-- `^r?vip\d+$` -/
def isVipLabel (s : Text) : Bool :=
  let s := (stripPrefix s "r").getD s
  match stripPrefix s "vip" with
  | some d => !d.isEmpty && d.all Char.isDigit
  | none => false

def cacheflyRewrite (name : Name) : Checked (Option Name) := do
  let l := labels text name
  if l.length < 4 then .ok none
  else if !(← andAlso (Vec.backIs l 2 "cachefly") (Vec.backIs l 1 "net")) then .ok none
  else
    let first ← Vec.index l 0
    if !isVipLabel first then .ok none
    else
      let first := if startsWith first "vip" then 'r' :: first else first
      let inner ← Vec.sliceBack l 1 2
      let middle := join "." inner
      if middle.isEmpty then .ok none
      else
        let middle : Text := if middle = "g-anycast1" then "g" else middle
        .ok (parseName text (first ++ "-dstack.".toList ++ middle ++ ".cachefly.net".toList))

/-- The place of a label, where the source has -1 for none. -/
def idx (v : List Text) (t : Text) : Option Nat := v.idxOf? t

/-- The reversed labels of an S3 endpoint reshaped, with the place of `cn` as the
source leaves it in `dp1`; none where it gives up. -/
def s3Reshape (s : List Text) (dp1 : Option Nat) : Checked (Option (List Text × Option Nat)) := do
  let dp2 := idx s "amazonaws"
  let dp3 := idx s "s3"
  let dp4 := idx s "s3-control"
  let dp6 := idx s "s3-accelerate"
  let dp7 := idx s "s3-accesspoint"
  let dp8 := idx s "s3-website"
  let dp9 := idx s "console-l"
  let third ← Vec.index s 2
  let ssdomains := split '-' third
  -- Five labels: the last one is pushed once more, so a removal keeps one copy.
  let s ← (if s.length = 5 then (Vec.index s 4).map fun v => s ++ [v] else .ok s)
  let head ← Vec.index ssdomains 0
  if dp6 = some 2 then
    let s ← spliceInsert s 2 "dualstack"
    .ok (some (s, none))
  else if dp7 = some 3 then
    let s ← spliceRemove s 4
    .ok (some (s, dp1))
  else if dp8 = some 3 then
    let s ← spliceRemove s 4
    .ok (some (s, none))
  -- The console has no dual-stack name.
  else if dp9 = some 2 then .ok none
  else if head = "s3" ∧ (ssdomains.length = 3 ∨ ssdomains.length = 2) ∧ dp1 ≠ some 0 then
    let s ← spliceInsert s 2 "us-east-1"
    let s ← (if ssdomains[1]? = some ("1" : Text) then Vec.assign s 3 "s3-r-w" else .ok s)
    .ok (some (s, dp1))
  else if dp3 = some 3 ∨ dp4 = some 3 then
    let s ← spliceRemove s 4
    .ok (some (s, dp1))
  else if head = "s3" ∧ ssdomains[1]? = some ("website" : Text) then
    let s ← spliceReplace s 2 "us-east-1"
    let s ← spliceReplace s 3 "s3-website"
    .ok (some (s, dp1))
  else if 1 < ssdomains.length then
    if head ≠ "s3" then .ok none
    else
      let s ← spliceRemove s 2
      let region ← (if ssdomains.length = 4 ∧ dp1 ≠ some 0 then Vec.remove ssdomains 0
        else .ok ssdomains)
      let s ← spliceInsert s 2 (join "-" region)
      let s ← (if dp3 = none then spliceInsert s 3 "s3" else .ok s)
      .ok (some (s, dp1))
  else if dp2 = some 1 ∧ dp3 = some 2 ∧ dp1 ≠ some 0 then
    let s ← spliceInsert s 2 "us-east-1"
    .ok (some (s, dp1))
  else .ok none

def s3Rewrite (name : Name) : Checked (Option Name) := do
  let s := (labels text name).reverse
  let dp1 := idx s "cn"
  -- The Chinese suffix is taken off here and put back at the end.
  let s ← (if dp1 = some 0 then Vec.remove s 0 else .ok s)
  let dp2 := idx s "amazonaws"
  if idx s "dualstack" = some 3 ∧ dp2 = some 1 then .ok none
  else if ¬(dp2 = some 1 ∧ 2 < s.length) then .ok none
  else
    match ← s3Reshape s dp1 with
    | none => .ok none
    | some (s, dp1) =>
        let s ← (if s[2]? ≠ some ("dualstack" : Text) then spliceInsert s 3 "dualstack" else .ok s)
        let s ← (if dp1 = some 0 then spliceInsert s 0 "cn" else .ok s)
        .ok (nameFromLabels text s.reverse)

def ossRegions : List Text :=
  ["cn-hangzhou", "cn-shanghai", "cn-nanjing", "cn-qingdao", "cn-beijing", "cn-zhangjiakou",
    "cn-huhehaote", "cn-wulanchabu", "cn-shenzhen", "cn-heyuan", "cn-guangzhou", "cn-chengdu",
    "cn-hongkong", "us-west-1", "us-east-1", "ap-southeast-1", "ap-southeast-2",
    "ap-southeast-3", "ap-southeast-4", "ap-southeast-5", "ap-southeast-6", "ap-southeast-7",
    "ap-northeast-1", "ap-northeast-2", "ap-south-1", "eu-central-1", "eu-west-1", "me-east-1",
    "me-central-1", "cn-hangzhou-finance", "cn-shanghai-finance", "cn-shenzhen-finance",
    "cn-beijing-finance-1", "cn-beijing-finance-2"]

/-- The dashed parts of the label that carries the region, and the place of that
label. -/
def ossBody (s : List Text) (dpff1 : Option Nat) : Checked (List Text × Nat) := do
  let third ← Vec.index s 2
  let ssdomains := split '-' third
  if dpff1 = some 2 ∧ idx ssdomains "oss" = some 0 ∧ 3 < s.length then
    let fourth ← Vec.index s 3
    .ok (split '-' fourth, 3)
  else .ok (ssdomains, 2)

def ossRewrite (name : Name) : Checked (Option Name) := do
  let s := (labels text name).reverse
  let dp0 := idx s "com"
  let dp1 := idx s "aliyuncs"
  let dp2 := idx s "aliyun-inc"
  let s ← (if dp2 = some 1 then Vec.assign s 1 "aliyuncs" else .ok s)
  if ¬(dp0 = some 0 ∧ (dp1 = some 1 ∨ dp2 = some 1)) ∨ s.length ≤ 2 then .ok none
  else
    let dpff1 := idx s "oss"
    let (ssdomains, ssdoaminloc) ← ossBody s dpff1
    let dpff3 := idx ssdomains "oss"
    let s ← (if s.length = 4 ∧ dpff1 = none then spliceRemove s 3 else .ok s)
    let ssdomains ← (if dpff3 = some 0 then Vec.remove ssdomains 0 else .ok ssdomains)
    let isbucket := ossRegions.contains (join "-" ssdomains)
    let ssdomains ← (if dpff1 = some 2 ∧ !isbucket then
        setExt ssdomains 0 "cn" >>= fun named => setExt named 1 "hangzhou"
      else .ok ssdomains)
    -- An emptied region label leaves the list.
    let s ← (if !ssdomains.isEmpty then
        if ssdoaminloc < s.length then Vec.assign s ssdoaminloc (join "-" ssdomains)
        else .ok (s ++ [join "-" ssdomains])
      else spliceRemove s 2)
    let s ← (if dpff3 = some 0 then spliceInsert s 2 "oss" else .ok s)
    .ok (nameFromLabels text s.reverse)

/-- The suffix an Oracle endpoint ends with, and whether it is `oraclecloud.com`. -/
def oracleSuffix (l : List Text) : Checked (Option (List Text × Bool)) := do
  if ← andAlso (.ok (decide (2 ≤ l.length)))
      (andAlso (Vec.backIs l 2 "oraclecloud") (Vec.backIs l 1 "com")) then
    .ok (some (["oraclecloud", "com"], true))
  else if ← andAlso (.ok (decide (3 ≤ l.length))) (andAlso (Vec.backIs l 3 "oci")
      (andAlso (Vec.backIs l 2 "customer-oci") (Vec.backIs l 1 "com"))) then
    .ok (some (["oci", "customer-oci", "com"], false))
  else .ok none

/-- An Oracle endpoint taken apart. -/
structure OracleEndpoint where
  ns : Option Text
  isCompat : Bool
  service : Text
  region : Text
  deriving DecidableEq

/-- The labels before the suffix and `ds`. Every index of the source is under a
test of the length. The compat form without a namespace is the one answered at
once with the plain service. -/
def oracleEndpoint (body : List Text) : Option (OracleEndpoint × Bool) :=
  match body with
  | [service, region] =>
      if service = "objectstorage" ∨ service = "swiftobjectstorage" then
        some (⟨none, false, service, region⟩, false)
      else none
  | [first, second, region] =>
      if first = "compat" ∧ second = "objectstorage" then
        some (⟨none, false, "objectstorage", region⟩, true)
      else if second = "objectstorage" ∨ second = "swiftobjectstorage" then
        some (⟨some first, false, second, region⟩, false)
      else none
  | [ns, compat, service, region] =>
      if compat = "compat" ∧ service = "objectstorage" then
        some (⟨some ns, true, service, region⟩, false)
      else none
  | _ => none

def oracleTarget (endpoint : OracleEndpoint) (outputSuffix : List Text) : Text :=
  let compat : List Text := if endpoint.isCompat then ["compat"] else []
  let out := endpoint.ns.toList ++ compat ++ [endpoint.service, endpoint.region, "ds".toList] ++
    outputSuffix
  join "." out

def oracleRewrite (name : Name) : Checked (Option Name) := do
  let l := labels text name
  match ← oracleSuffix l with
  | none => .ok none
  | some (suffix, suffixOraclecloud) =>
      let body ← Vec.sliceBack l 0 suffix.length
      if body.length < 2 then .ok none
      else
        let last ← Vec.unwrapLast body
        let dsEnabled : Bool := last == "ds".toList
        let body := if dsEnabled then body.dropLast else body
        match oracleEndpoint body with
        | none => .ok none
        | some (endpoint, atOnce) =>
            let outputSuffix : List Text :=
              if atOnce || suffixOraclecloud && !dsEnabled then ["oci", "customer-oci", "com"]
              else suffix
            .ok (parseName text (oracleTarget endpoint outputSuffix))

/-! Places of labels. -/
section Places

theorem idx_some (v : List Text) (t : Text) (place : Nat) (found : idx v t = some place) :
    v[place]? = some t := by
  obtain ⟨inside, same, _⟩ := List.idxOf?_eq_some_iff.mp found
  exact List.getElem?_eq_some_iff.mpr ⟨inside, same⟩

theorem idx_none (v : List Text) (t : Text) (absent : t ∉ v) : idx v t = none :=
  List.idxOf?_eq_none_iff.mpr absent

theorem idx_head (first token : Text) (rest : List Text) :
    idx (first :: rest) token = some 0 ↔ first = token := by
  constructor
  · intro found
    exact Option.some.inj (idx_some _ token 0 found)
  · rintro rfl
    rw [idx, List.idxOf?_cons, if_pos (beq_self_eq_true first)]

/-- The first place counts. -/
theorem idx_found (front rest : List Text) (token : Text) (early : token ∉ front) :
    idx (front ++ token :: rest) token = some front.length := by
  induction front with
  | nil => exact (idx_head token token rest).mpr rfl
  | cons first others ih =>
      rw [List.mem_cons, not_or] at early
      have found := ih early.2
      rw [idx] at found
      rw [idx, List.cons_append, List.idxOf?_cons, found, if_neg (by simp [Ne.symm early.1])]
      rfl

theorem idx_place (front rest : List Text) (item token : Text) (early : token ∉ front)
    (late : token ∉ rest) :
    idx (front ++ item :: rest) token = if item = token then some front.length else none := by
  split
  · rename_i same
    rw [same, idx_found front rest token early]
  · rename_i other
    apply idx_none
    simp [early, late, Ne.symm other]

end Places

/-! No rewrite panics. -/
section Completes
variable {text}

theorem akamai_completes (name : Name) : Completes (akamaiRewrite text name) := by
  refine ensures_ite (fun _ => completes_ok _) ?_
  intro short
  have long : 3 ≤ (labels text name).length := Nat.le_of_not_lt short
  refine completes_bind ?_ ?_
  · refine completes_and_also (ensures_back_is _ 1 _ (by omega) (by omega)) ?_
    exact completes_or_else (ensures_back_is _ 2 _ (by omega) (by omega))
      (ensures_back_is _ 2 _ (by omega) (by omega))
  · intro matched
    refine ensures_ite (fun _ => completes_ok _) fun _ => ?_
    refine ensures_bind (ensures_index_back _ 3 (by omega) long) fun lab _ => ?_
    refine ensures_bind (ensures_assign_back _ 3 _ (by omega) long) fun _ _ => ?_
    exact completes_ok _

theorem awsglb_completes (name : Name) : Completes (awsglbRewrite text name) := by
  refine ensures_ite (fun _ => completes_ok _) ?_
  intro short
  have long : 2 ≤ (labels text name).length := Nat.le_of_not_lt short
  refine completes_bind ?_ ?_
  · exact completes_and_also (ensures_back_is _ 1 _ (by omega) (by omega))
      (ensures_back_is _ 2 _ (by omega) long)
  · intro matched
    refine ensures_ite (fun _ => completes_ok _) fun _ => ?_
    have tested : Ensures (andAlso (.ok (decide (3 ≤ (labels text name).length)))
        (Vec.backIs (labels text name) 3 "dualstack"))
        fun holds => holds = true → 3 ≤ (labels text name).length :=
      ensures_guarded (ensures_ok _ of_decide_eq_true) fun longer =>
        ensures_back_is _ 3 _ (by omega) longer
    refine ensures_bind tested fun dual _ => ?_
    refine ensures_ite (fun _ => completes_ok _) fun _ => ?_
    refine ensures_bind (ensures_insert_back _ 2 _ long) fun _ _ => ?_
    exact completes_ok _

theorem azure_completes (name : Name) : Completes (azureRewrite text name) := by
  refine ensures_ite (fun _ => completes_ok _) ?_
  intro short
  have long : 4 ≤ (labels text name).length := Nat.le_of_not_lt short
  refine completes_bind ?_ ?_
  · refine completes_and_also (ensures_back_is _ 1 _ (by omega) (by omega)) ?_
    exact completes_and_also (ensures_back_is _ 2 _ (by omega) (by omega))
      (ensures_back_is _ 3 _ (by omega) (by omega))
  · intro matched
    refine ensures_ite (fun _ => completes_ok _) fun _ => ?_
    refine ensures_bind (ensures_assign_back _ 4 _ (by omega) long) fun _ _ => ?_
    exact completes_ok _

theorem cachefly_completes (name : Name) : Completes (cacheflyRewrite text name) := by
  refine ensures_ite (fun _ => completes_ok _) ?_
  intro short
  have long : 4 ≤ (labels text name).length := Nat.le_of_not_lt short
  refine completes_bind ?_ ?_
  · exact completes_and_also (ensures_back_is _ 2 _ (by omega) (by omega))
      (ensures_back_is _ 1 _ (by omega) (by omega))
  · intro matched
    refine ensures_ite (fun _ => completes_ok _) fun _ => ?_
    refine ensures_bind (ensures_index _ 0 (by omega)) fun first _ => ?_
    refine ensures_ite (fun _ => completes_ok _) fun _ => ?_
    refine ensures_bind (ensures_slice_back _ 1 2 (by omega)) fun inner _ => ?_
    exact ensures_ite (fun _ => completes_ok _) fun _ => completes_ok _

theorem idx_lt (v : List Text) (t : Text) (place : Nat) (found : idx v t = some place) :
    place < v.length := (List.getElem?_eq_some_iff.mp (idx_some v t place found)).1

/-- Every position the reshaping touches is inside once there are three labels. -/
theorem s3_reshape_completes (s : List Text) (dp1 : Option Nat) (long : 2 < s.length) :
    Completes (s3Reshape s dp1) := by
  refine ensures_bind (ensures_index s 2 long) fun third _ => ?_
  -- The label pushed behind five others only makes the list longer.
  have pushed : Ensures (if s.length = 5 then (Vec.index s 4).map fun v => s ++ [v] else .ok s)
      fun pushed => 2 < pushed.length := by
    refine ensures_ite ?_ fun _ => ensures_ok _ long
    intro five
    rcases ensures_index s 4 (by omega) with ⟨v, read, _⟩
    rw [read]
    refine ensures_ok _ ?_
    rw [List.length_append]
    omega
  refine ensures_bind pushed fun s long => ?_
  refine ensures_bind (ensures_index _ 0 (split_length_pos '-' third)) fun head _ => ?_
  refine ensures_ite (fun _ => ?_) fun _ => ?_
  · exact ensures_bind (ensures_splice_insert s 2 _) fun _ _ => completes_ok _
  refine ensures_ite (fun _ => ?_) fun _ => ?_
  · exact ensures_bind (ensures_splice_remove s 4) fun _ _ => completes_ok _
  refine ensures_ite (fun _ => ?_) fun _ => ?_
  · exact ensures_bind (ensures_splice_remove s 4) fun _ _ => completes_ok _
  refine ensures_ite (fun _ => completes_ok _) fun _ => ?_
  refine ensures_ite (fun _ => ?_) fun _ => ?_
  · refine ensures_bind (ensures_splice_insert s 2 _) fun grown longer => ?_
    refine completes_bind ?_ fun _ => completes_ok _
    refine ensures_ite (fun _ => ?_) fun _ => completes_ok _
    exact completes_weaken (ensures_assign grown 3 _ (by omega))
  refine ensures_ite (fun _ => ?_) fun _ => ?_
  · exact ensures_bind (ensures_splice_remove s 4) fun _ _ => completes_ok _
  refine ensures_ite (fun _ => ?_) fun _ => ?_
  · refine ensures_bind (ensures_splice_replace s 2 _) fun first _ => ?_
    exact ensures_bind (ensures_splice_replace first 3 _) fun _ _ =>
      completes_ok _
  refine ensures_ite (fun _ => ?_) fun _ => ?_
  · refine ensures_ite (fun _ => completes_ok _) fun _ => ?_
    refine ensures_bind (ensures_splice_remove s 2) fun shorter _ => ?_
    refine completes_bind ?_ fun region => ?_
    · refine ensures_ite (fun four => ?_) fun _ => completes_ok _
      exact completes_weaken (ensures_remove _ 0 (by omega))
    refine ensures_bind (ensures_splice_insert shorter 2 _) fun regional _ => ?_
    refine completes_bind ?_ fun _ => completes_ok _
    refine ensures_ite (fun _ => ?_) fun _ => completes_ok _
    exact completes_weaken (ensures_splice_insert regional 3 _)
  refine ensures_ite (fun _ => ?_) fun _ => completes_ok _
  exact ensures_bind (ensures_splice_insert s 2 _) fun _ _ => completes_ok _

theorem s3_completes (name : Name) : Completes (s3Rewrite text name) := by
  refine completes_bind ?_ fun s => ?_
  · refine ensures_ite (fun found => ?_) fun _ => completes_ok _
    exact completes_weaken (ensures_remove _ 0 (idx_lt _ _ 0 found))
  refine ensures_ite (fun _ => completes_ok _) fun _ => ?_
  refine ensures_ite (fun _ => completes_ok _) fun matched => ?_
  -- The guard of the source is what puts every later index in range.
  have long : 2 < s.length := (not_not.mp matched).2
  refine ensures_bind (s3_reshape_completes s _ long) fun reshaped _ => ?_
  cases reshaped with
  | none => exact completes_ok _
  | some found =>
      rcases found with ⟨s, dp1⟩
      refine completes_bind ?_ fun dual => ?_
      · refine ensures_ite (fun _ => ?_) fun _ => completes_ok _
        exact completes_weaken (ensures_splice_insert s 3 _)
      refine completes_bind ?_ fun _ => completes_ok _
      refine ensures_ite (fun _ => ?_) fun _ => completes_ok _
      exact completes_weaken (ensures_splice_insert dual 0 _)

theorem oss_body_completes (s : List Text) (dpff1 : Option Nat) (long : 2 < s.length) :
    Completes (ossBody s dpff1) := by
  refine ensures_bind (ensures_index s 2 long) fun third _ => ?_
  refine ensures_ite (fun deeper => ?_) fun _ => completes_ok _
  exact ensures_bind (ensures_index s 3 deeper.2.2) fun _ _ => completes_ok _

theorem oss_completes (name : Name) : Completes (ossRewrite text name) := by
  refine completes_bind ?_ fun s => ?_
  · refine ensures_ite (fun found => ?_) fun _ => completes_ok _
    exact completes_weaken (ensures_assign _ 1 _ (idx_lt _ _ 1 found))
  refine ensures_ite (fun _ => completes_ok _) fun matched => ?_
  have long : 2 < s.length := Nat.lt_of_not_le (not_or.mp matched).2
  refine ensures_bind (oss_body_completes s _ long) fun body _ => ?_
  rcases body with ⟨ssdomains, ssdoaminloc⟩
  refine completes_bind ?_ fun s => ?_
  · refine ensures_ite (fun _ => ?_) fun _ => completes_ok _
    exact completes_weaken (ensures_splice_remove _ 3)
  refine completes_bind ?_ fun region => ?_
  · refine ensures_ite (fun found => ?_) fun _ => completes_ok _
    exact completes_weaken (ensures_remove _ 0 (idx_lt _ _ 0 found))
  refine completes_bind ?_ fun region => ?_
  · refine ensures_ite (fun _ => ?_) fun _ => completes_ok _
    exact ensures_bind (completes_set_ext _ 0 _) fun named _ =>
      completes_set_ext named 1 _
  refine completes_bind ?_ fun s => ?_
  · refine ensures_ite (fun _ => ?_) fun _ => ?_
    · refine ensures_ite (fun inside => ?_) fun _ => completes_ok _
      exact completes_weaken (ensures_assign _ _ _ inside)
    · exact completes_weaken (ensures_splice_remove _ 2)
  refine completes_bind ?_ fun _ => completes_ok _
  refine ensures_ite (fun _ => ?_) fun _ => completes_ok _
  exact completes_weaken (ensures_splice_insert s 2 _)

/-- The suffix is found among the labels, so the slice before it is in range. -/
theorem oracle_suffix_ensures (l : List Text) :
    Ensures (oracleSuffix l) fun found =>
      ∀ suffix cloud, found = some (suffix, cloud) → suffix.length ≤ l.length := by
  have cloudy : Ensures (andAlso (.ok (decide (2 ≤ l.length)))
      (andAlso (Vec.backIs l 2 "oraclecloud") (Vec.backIs l 1 "com")))
      fun holds => holds = true → 2 ≤ l.length := by
    refine ensures_guarded (ensures_ok _ of_decide_eq_true) fun long => ?_
    exact completes_and_also (ensures_back_is _ 2 _ (by omega) long)
      (ensures_back_is _ 1 _ (by omega) (by omega))
  have customer : Ensures (andAlso (.ok (decide (3 ≤ l.length))) (andAlso (Vec.backIs l 3 "oci")
      (andAlso (Vec.backIs l 2 "customer-oci") (Vec.backIs l 1 "com"))))
      fun holds => holds = true → 3 ≤ l.length := by
    refine ensures_guarded (ensures_ok _ of_decide_eq_true) fun long => ?_
    refine completes_and_also (ensures_back_is _ 3 _ (by omega) long) ?_
    exact completes_and_also (ensures_back_is _ 2 _ (by omega) (by omega))
      (ensures_back_is _ 1 _ (by omega) (by omega))
  refine ensures_bind cloudy fun holds long => ?_
  refine ensures_ite (fun yes => ensures_ok _ ?_) fun _ => ?_
  · intro suffix cloud same
    cases same
    exact long yes
  refine ensures_bind customer fun holds long => ?_
  refine ensures_ite (fun yes => ensures_ok _ ?_) fun _ => ensures_ok _ ?_
  · intro suffix cloud same
    cases same
    exact long yes
  · intro suffix cloud same
    cases same

theorem oracle_completes (name : Name) : Completes (oracleRewrite text name) := by
  refine ensures_bind (oracle_suffix_ensures _) fun found inside => ?_
  cases found with
  | none => exact completes_ok _
  | some pair =>
      rcases pair with ⟨suffix, cloud⟩
      have inside := inside suffix cloud rfl
      refine ensures_bind (ensures_slice_back _ 0 _ (by omega)) fun body _ => ?_
      refine ensures_ite (fun _ => completes_ok _) fun long => ?_
      have present : body ≠ [] := by
        intro empty
        rw [empty] at long
        exact long (by decide)
      refine ensures_bind (ensures_unwrap_last body present) fun last _ => ?_
      dsimp only
      split
      · exact completes_ok _
      · exact completes_ok _

end Completes

end Dnsix.Rewrites
