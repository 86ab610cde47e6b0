import Dnsix.ListFetch
import Dnsix.References

/-!
Redirects of a list fetch against the resolution of references. The base path is dropped and
the kinds of a location are told apart by what it starts with, so the next request is the
right one only where nothing of the base path is needed and nothing has to be normalised.
-/

namespace Dnsix.Redirects
open Ascii Http ListFetch References

/-! Where the next hop goes. -/
section Follow

/-- The request after a redirect, as the loop makes it: the host of the current URL, the
location made absolute, and the result taken apart. -/
def follow (current location : Text) : Except UrlError (Text × Text) := do
  let (host, _) ← splitHttpsUrl current
  splitHttpsUrl (absolutize host location)

/-- The same without the fragment, which is sent along with the path. -/
def followed (current location : Text) : Except UrlError (Text × Text) :=
  (follow current location).map fun (host, path) => (host, path.takeWhile (· != '#'))

/-- Any URL with the base's host and path, whatever stands behind the path. -/
def currentUrl (base : Base) (more : Text) : Text :=
  "https://".toList ++ (base.host ++ (pathText base.segments ++ more))

theorem split_head (separator : Char) (text other : Text) :
    (split separator text).headD other = text.takeWhile (· != separator) := by
  induction text with
  | nil => rfl
  | cons char rest ih =>
      rw [split_cons]
      by_cases same : char = separator
      · simp [same]
      · simp only [if_neg same, List.takeWhile_cons, bne_iff_ne.mpr same, if_true, ← ih]
        cases parts : split separator rest with
        | nil => exact absurd parts (split_ne_nil separator rest)
        | cons head tail => rfl

/-- What is taken of a URL, up to the first slash and from there on. -/
theorem split_url (rest : Text) :
    splitHttpsUrl ("https://".toList ++ rest) =
      if ((rest.takeWhile (· != '/')).takeWhile (· != ':')).isEmpty then
        .error (.emptyHost ("https://".toList ++ rest))
      else .ok ((rest.takeWhile (· != '/')).takeWhile (· != ':'),
        if '/' ∈ rest then rest.dropWhile (· != '/') else ['/']) := by
  have stripped : stripPrefix ("https://".toList ++ rest) "https://" = some rest := rfl
  unfold splitHttpsUrl
  rw [stripped]
  dsimp only
  rw [split_head]
  rfl

theorem whole_taken (mark : Char) (front back : Text) (whole : mark ∉ front) :
    (front ++ back).takeWhile (· != mark) = front ++ back.takeWhile (· != mark) ∧
      (front ++ back).dropWhile (· != mark) = back.dropWhile (· != mark) := by
  have other : ∀ char ∈ front, (char != mark) = true := by
    intro char inside
    rw [bne_iff_ne]
    rintro rfl
    exact whole inside
  exact ⟨List.takeWhile_append_of_pos other, List.dropWhile_append_of_pos other⟩

/-- An authority and a path that starts with a slash. -/
theorem split_rooted (authority path : Text) (whole : '/' ∉ authority) :
    splitHttpsUrl ("https://".toList ++ (authority ++ '/' :: path)) =
      if (authority.takeWhile (· != ':')).isEmpty then
        .error (.emptyHost ("https://".toList ++ (authority ++ '/' :: path)))
      else .ok (authority.takeWhile (· != ':'), '/' :: path) := by
  obtain ⟨taken, dropped⟩ := whole_taken '/' authority ('/' :: path) whole
  have front : (authority ++ '/' :: path).takeWhile (· != '/') = authority := by simp [taken]
  have back : (authority ++ '/' :: path).dropWhile (· != '/') = '/' :: path := by simp [dropped]
  have inside : '/' ∈ authority ++ '/' :: path := by simp
  rw [split_url, front, back, if_pos inside]

variable (base : Base) (more : Text)

theorem base_host : base.host.takeWhile (· != ':') = base.host := by
  have kept := (whole_taken ':' base.host [] base.portless).1
  rwa [List.append_nil, List.takeWhile_nil, List.append_nil] at kept

theorem base_rooted (path : Text) :
    splitHttpsUrl ("https://".toList ++ (base.host ++ '/' :: path)) =
      .ok (base.host, '/' :: path) := by
  have filled : base.host.isEmpty = false := by
    rw [List.isEmpty_eq_false_iff]
    exact base.present
  rw [split_rooted base.host path (part_slashless _ base.part), base_host, filled]
  rfl

theorem current_split :
    splitHttpsUrl (currentUrl base more) = .ok (base.host, pathText base.segments ++ more) := by
  obtain ⟨first, rest, shape⟩ := List.exists_cons_of_ne_nil base.rooted
  have path : pathText base.segments ++ more = '/' :: (first ++ pathText rest ++ more) := by
    rw [shape, path_cons, List.cons_append]
  have url := congrArg (fun path => splitHttpsUrl ("https://".toList ++ (base.host ++ path))) path
  exact url.trans ((base_rooted base _).trans
    (congrArg (fun path => Except.ok (base.host, path)) path.symm))

theorem follow_base (location : Text) :
    follow (currentUrl base more) location = splitHttpsUrl (absolutize base.host location) := by
  rw [follow, current_split]
  simp only [bind, Except.bind]

theorem follow_slash (location : Text) :
    follow (currentUrl base more) ('/' :: location) = .ok (base.host, '/' :: location) := by
  have secure : startsWith ('/' :: location) "https://" = false := rfl
  have plain : startsWith ('/' :: location) "http://" = false := rfl
  have rooted : startsWith ('/' :: location) "/" = true := rfl
  have joined : absolutize base.host ('/' :: location) =
      "https://".toList ++ (base.host ++ '/' :: location) := by
    simp only [absolutize, secure, plain, rooted, Bool.or_self, Bool.false_eq_true, if_false,
      if_true, List.append_assoc]
  rw [follow_base, joined, base_rooted]

theorem follow_other (first : Char) (location : Text) (slashless : first ≠ '/')
    (secure : startsWith (first :: location) "https://" = false)
    (plain : startsWith (first :: location) "http://" = false) :
    follow (currentUrl base more) (first :: location) =
      .ok (base.host, '/' :: first :: location) := by
  have rootless : startsWith (first :: location) "/" = false := by
    simp [startsWith, List.isPrefixOf, Ne.symm slashless]
  have joined : absolutize base.host (first :: location) =
      "https://".toList ++ (base.host ++ '/' :: first :: location) := by
    rw [absolutize, secure, plain, rootless]
    simp only [Bool.or_self, Bool.false_eq_true, if_false, List.append_assoc]
    rfl
  rw [follow_base, joined, base_rooted]

end Follow

/-! Resolution. -/
section Resolution

/-- The path the code finds behind an authority without one. -/
def pathBehind (rest : Text) : Text :=
  (if '/' ∈ rest then rest.dropWhile (· != '/') else ['/']).takeWhile (· != '#')

/-- The locations that are followed as they are meant. No network path is. The others need a
path without dot segments; an absolute URL also a scheme in lower case, an authority that is
its host up to the first colon, and a path before the query or fragment; and a relative path
a base whose segments above the last come to nothing. -/
def Kept (base : Base) : Reference → Prop
  | .absolute scheme authority tail =>
      scheme = "https".toList ∧ authority.text.takeWhile (· != ':') = authority.host ∧
        Dotless tail.segments ∧ (tail.segments = [] →
          tail.rest = [] ∨ (':' ∈ authority.text ∧ pathBehind tail.rest = '/' :: tail.queryText))
  | .network _ _ => False
  | .absolutePath _ tail _ _ _ => Dotless tail.segments
  | .relativePath _ tail _ _ _ _ =>
      Dotless tail.segments ∧ climb base.segments.dropLast = []

variable (base : Base) (more : Text)

theorem target_path (segments : List Text) (tail : Tail) (present : segments ≠ []) :
    target segments tail = pathText segments ++ tail.queryText := by
  rw [target, if_neg present]

theorem target_iff (segments : List Text) (tail : Tail) (present : segments ≠ [])
    (parts : ∀ segment ∈ segments, Part segment) :
    pathText tail.segments ++ tail.queryText = target segments tail ↔
      segments = tail.segments := by
  rw [target_path segments tail present, List.append_cancel_right_eq,
    path_injective _ _ (fun segment listed => part_slashless _ (tail.parts segment listed))
      fun segment listed => part_slashless _ (parts segment listed), eq_comm]

/-- A target is no longer than the path and the query it comes from. -/
theorem target_length (tail : Tail) :
    (target (removeDots [] tail.segments) tail).length ≤
      1 + ((pathText tail.segments).length + tail.queryText.length) := by
  have shorter := removed_length tail.segments []
  rw [List.nil_append] at shorter
  unfold target
  split
  · simp only [List.length_append, List.length_cons, List.length_nil]
    omega
  · rw [List.length_append]
    omega

/-- A tail behind a slash and a text without a fragment. -/
theorem reached_path (location front : Text) (tail : Tail) (unmarked : '#' ∉ front)
    (reached : follow (currentUrl base more) location =
      .ok (base.host, '/' :: (front ++ (pathText tail.segments ++ tail.rest)))) :
    followed (currentUrl base more) location =
      .ok (base.host, '/' :: (front ++ (pathText tail.segments ++ tail.queryText))) := by
  have whole : '#' ∉ '/' :: (front ++ pathText tail.segments) := by
    simp only [List.mem_cons, List.mem_append, not_or]
    exact ⟨by decide, unmarked, path_unmarked _ tail.parts⟩
  have stripped := unfragmented ('/' :: (front ++ pathText tail.segments)) tail whole
  simp only [List.cons_append, List.append_assoc] at stripped
  rw [followed, reached]
  simp only [Except.map, stripped]

/-- Where more than the path is asked for, it is not the path. -/
theorem longer_path (host front : Text) (tail : Tail) (present : front ≠ []) :
    (Except.ok (base.host, '/' :: (front ++ (pathText tail.segments ++ tail.queryText))) :
        Except UrlError (Text × Text)) ≠
      .ok (host, target (removeDots [] tail.segments) tail) := by
  intro same
  have bound := target_length tail
  have size : 0 < front.length := List.length_pos_of_ne_nil present
  rw [Except.ok.injEq, Prod.mk.injEq] at same
  rw [← same.2] at bound
  simp only [List.length_cons, List.length_append] at bound
  omega

theorem rooted_path_iff (above : List Text) (tail : Tail) (rooted : tail.segments ≠ [])
    (parts : ∀ segment ∈ above, Part segment) :
    (Except.ok (base.host, pathText tail.segments ++ tail.queryText) :
        Except UrlError (Text × Text)) =
      .ok (base.host, target (removeDots [] (above ++ tail.segments)) tail) ↔
        Dotless tail.segments ∧ climb above = [] := by
  have filled : above ++ tail.segments ≠ [] := by simp [rooted]
  have removed : ∀ segment ∈ removeDots [] (above ++ tail.segments), Part segment := by
    apply removed_part Part (fun _ impossible => nomatch impossible)
    · exact fun _ impossible => nomatch impossible
    · intro segment listed
      rcases List.mem_append.mp listed with upper | lower
      · exact parts segment upper
      · exact tail.parts segment lower
  rw [Except.ok.injEq, Prod.mk.injEq, ← remove_merged_iff above tail.segments rooted]
  simp only [true_and]
  exact target_iff _ tail (removed_present _ [] filled) removed

theorem absolute_path_iff (first : Text) (tail : Tail) (rest : List Text)
    (shape : tail.segments = first :: rest) :
    followed (currentUrl base more) tail.text =
        .ok (base.host, target (removeDots [] tail.segments) tail) ↔ Dotless tail.segments := by
  have path : pathText tail.segments = '/' :: (first ++ pathText rest) := by
    rw [shape, path_cons]
  have text : tail.text = '/' :: (first ++ pathText rest ++ tail.rest) := by
    rw [Tail.text, path, List.cons_append]
  have front : '#' ∉ pathText tail.segments := path_unmarked _ tail.parts
  have stripped := unfragmented (pathText tail.segments) tail front
  have reached : followed (currentUrl base more) tail.text =
      .ok (base.host, pathText tail.segments ++ tail.queryText) := by
    rw [followed, text, follow_slash]
    simp only [Except.map]
    rw [← stripped, path, List.cons_append]
  have kept := rooted_path_iff base [] tail (by simp [shape]) fun _ impossible => nomatch impossible
  rw [List.nil_append] at kept
  rw [reached, kept]
  simp [climb]

/-- A network path is asked for at the host it was to leave. -/
theorem network_missed (authority : Authority) (tail : Tail) :
    followed (currentUrl base more) (Reference.network authority tail).text ≠
      .ok (resolve base (.network authority tail)) := by
  have unmarked : '#' ∉ '/' :: authority.text := by
    rw [List.mem_cons, not_or]
    exact ⟨by decide, part_unmarked _ authority.part_text⟩
  have reached := follow_slash base more ('/' :: (authority.text ++ tail.text))
  rw [Reference.text, reached_path base more _ ('/' :: authority.text) tail unmarked reached]
  exact longer_path base _ _ tail (List.cons_ne_nil _ _)

/-- What stands before the first mark of a component. -/
theorem part_taken (front back : Text) (part : Part front)
    (stops : ∀ char ∈ back.head?, char = '/' ∨ char = '?' ∨ char = '#') :
    (front ++ back).takeWhile (fun char => char != '/' && char != '?' && char != '#') = front := by
  have plain : ∀ char ∈ front, (char != '/' && char != '?' && char != '#') = true := by
    intro char inside
    obtain ⟨slash, question, hash⟩ := part char inside
    simp [slash, question, hash]
  rw [List.takeWhile_append_of_pos plain]
  cases back with
  | nil => exact List.append_nil front
  | cons char rest =>
      rcases stops char rfl with rfl | rfl | rfl
      · exact List.append_nil front
      · exact List.append_nil front
      · exact List.append_nil front

theorem tail_stops (segments : List Text) (tail : Tail) :
    ∀ char ∈ (pathText segments ++ tail.rest).head?, char = '/' ∨ char = '?' ∨ char = '#' := by
  cases segments with
  | cons segment rest =>
      intro char head
      rw [path_cons] at head
      cases head
      exact .inl rfl
  | nil =>
      intro char head
      unfold Tail.rest Tail.queryText at head
      cases query : tail.query with
      | some text =>
          rw [query] at head
          cases head
          exact .inr (.inl rfl)
      | none =>
          rw [query] at head
          cases fragment : tail.fragment with
          | none =>
              rw [fragment] at head
              cases head
          | some text =>
              rw [fragment] at head
              cases head
              exact .inr (.inr rfl)

/-- A first segment without a colon hides no scheme. -/
theorem schemeless_start (first : Text) (segments : List Text) (tail : Tail) (part : Part first)
    (schemeless : ':' ∉ first) (scheme : Text) (known : scheme = "https://" ∨ scheme = "http://") :
    startsWith (first ++ (pathText segments ++ tail.rest)) scheme = false := by
  by_contra starts
  rw [Bool.not_eq_false] at starts
  obtain ⟨rest, shape⟩ := List.isPrefixOf_iff_prefix.mp starts
  have taken := part_taken first _ part (tail_stops segments tail)
  rw [← shape] at taken
  apply schemeless
  rw [← taken]
  rcases known with rfl | rfl
  · exact List.mem_of_elem_eq_true rfl
  · exact List.mem_of_elem_eq_true rfl

theorem relative_path_iff (first : Text) (tail : Tail) (rest : List Text)
    (shape : tail.segments = first :: rest) (present : first ≠ []) (schemeless : ':' ∉ first) :
    followed (currentUrl base more) (first ++ (pathText rest ++ tail.rest)) =
        .ok (base.host, target (removeDots [] (base.segments.dropLast ++ tail.segments)) tail) ↔
      Dotless tail.segments ∧ climb base.segments.dropLast = [] := by
  have part : Part first := tail.parts first (by rw [shape]; exact List.mem_cons_self)
  have secure := schemeless_start first rest tail part schemeless "https://" (.inl rfl)
  have plain := schemeless_start first rest tail part schemeless "http://" (.inr rfl)
  have path : pathText tail.segments ++ tail.rest =
      '/' :: (first ++ (pathText rest ++ tail.rest)) := by
    rw [shape, path_cons, List.cons_append, List.append_assoc]
  have stripped := unfragmented (pathText tail.segments) tail (path_unmarked _ tail.parts)
  have reached : follow (currentUrl base more) (first ++ (pathText rest ++ tail.rest)) =
      .ok (base.host, pathText tail.segments ++ tail.rest) := by
    rw [path]
    cases start : first with
    | nil => exact absurd start present
    | cons char others =>
        rw [start] at secure plain part
        exact follow_other base more char _ (part char List.mem_cons_self).1 secure plain
  rw [followed, reached]
  simp only [Except.map, stripped]
  exact rooted_path_iff base _ tail (by simp [shape]) fun segment listed =>
    base.parts segment (List.mem_of_mem_dropLast listed)

/-- A spelling of a scheme holds nothing but letters where the scheme does. -/
theorem scheme_lacks (scheme lower : Text) (spelled : toAsciiLowercase scheme = lower)
    (mark : Char) (plain : mark.isAlpha = false) (absent : mark ∉ lower) : mark ∉ scheme := by
  intro inside
  apply absent
  rw [← spelled]
  exact List.mem_map.mpr ⟨mark, inside, (to_lower_eq_iff mark mark plain).mpr rfl⟩

theorem scheme_taken (scheme rest : Text) (colonless : ':' ∉ scheme) :
    (scheme ++ ':' :: rest).takeWhile (· != ':') = scheme := by
  rw [(whole_taken ':' scheme (':' :: rest) colonless).1]
  exact List.append_nil scheme

/-- The two schemes are only known in lower case. -/
theorem scheme_start (scheme known rest : Text) (colonless : ':' ∉ scheme)
    (knownColonless : ':' ∉ known)
    (starts : startsWith (scheme ++ ':' :: '/' :: '/' :: rest) (known ++ "://".toList) = true) :
    scheme = known := by
  obtain ⟨more, shape⟩ := List.isPrefixOf_iff_prefix.mp starts
  have one := scheme_taken scheme ('/' :: '/' :: rest) colonless
  have two := scheme_taken known ('/' :: '/' :: more) knownColonless
  have same : known ++ ':' :: '/' :: '/' :: more = scheme ++ ':' :: '/' :: '/' :: rest := by
    rw [← shape, List.append_assoc]
    rfl
  rw [← one, ← same, two]

/-- A scheme that is spelled in another way is taken for a relative path. -/
theorem follow_cased (scheme lower rest : Text) (spelled : toAsciiLowercase scheme = lower)
    (known : lower = "https" ∨ lower = "http") (cased : scheme ≠ lower) :
    follow (currentUrl base more) (scheme ++ ':' :: '/' :: '/' :: rest) =
      .ok (base.host, '/' :: (scheme ++ ':' :: '/' :: '/' :: rest)) := by
  have lacks : ':' ∉ scheme ∧ '/' ∉ scheme := by
    rcases known with rfl | rfl
    · exact ⟨scheme_lacks scheme _ spelled ':' rfl (by decide),
        scheme_lacks scheme _ spelled '/' rfl (by decide)⟩
    · exact ⟨scheme_lacks scheme _ spelled ':' rfl (by decide),
        scheme_lacks scheme _ spelled '/' rfl (by decide)⟩
  have other : scheme ≠ "https".toList ∧ scheme ≠ "http".toList := by
    constructor
    · rintro rfl
      exact cased spelled
    · rintro rfl
      exact cased spelled
  have secure : startsWith (scheme ++ ':' :: '/' :: '/' :: rest) "https://" = false := by
    by_contra starts
    rw [Bool.not_eq_false] at starts
    exact other.1 (scheme_start scheme "https" rest lacks.1 (by decide) starts)
  have plain : startsWith (scheme ++ ':' :: '/' :: '/' :: rest) "http://" = false := by
    by_contra starts
    rw [Bool.not_eq_false] at starts
    exact other.2 (scheme_start scheme "http" rest lacks.1 (by decide) starts)
  cases shape : scheme with
  | nil =>
      rw [shape] at spelled
      rcases known with rfl | rfl
      · exact absurd spelled (by decide)
      · exact absurd spelled (by decide)
  | cons first others =>
      rw [shape] at secure plain lacks
      rw [List.mem_cons, not_or, List.mem_cons, not_or] at lacks
      exact follow_other base more first _ (Ne.symm lacks.2.1) secure plain

theorem cased_missed (scheme : Text) (authority : Authority) (tail : Tail)
    (spelled : toAsciiLowercase scheme = "https".toList) (cased : scheme ≠ "https".toList) :
    followed (currentUrl base more) (Reference.absolute scheme authority tail).text ≠
      .ok (resolve base (.absolute scheme authority tail)) := by
  have unmarked : '#' ∉ scheme ++ ':' :: '/' :: '/' :: authority.text := by
    simp only [List.mem_append, List.mem_cons, not_or]
    exact ⟨scheme_lacks scheme _ spelled '#' rfl (by decide), by decide, by decide, by decide,
      part_unmarked _ authority.part_text⟩
  have reached := follow_cased base more scheme _ (authority.text ++ tail.text) spelled (.inl rfl)
    cased
  have whole : scheme ++ ':' :: '/' :: '/' :: (authority.text ++ tail.text) =
      (scheme ++ ':' :: '/' :: '/' :: authority.text) ++
        (pathText tail.segments ++ tail.rest) := by
    simp [Tail.text]
  rw [whole] at reached
  rw [Reference.text, whole, reached_path base more _ _ tail unmarked reached]
  exact longer_path base _ _ tail (by simp)

theorem follow_secure (location : Text) :
    follow (currentUrl base more) ("https://".toList ++ location) =
      splitHttpsUrl ("https://".toList ++ location) := by
  have secure : startsWith ("https://".toList ++ location) "https://" = true := rfl
  rw [follow_base, absolutize, secure]
  rfl

/-- The host is what stands before the first colon of the authority. -/
theorem rooted_url_iff (authority : Authority) (tail : Tail) (present : tail.segments ≠ []) :
    followed (currentUrl base more) ("https://".toList ++ (authority.text ++ tail.text)) =
        .ok (authority.host, target (removeDots [] tail.segments) tail) ↔
      authority.text.takeWhile (· != ':') = authority.host ∧ Dotless tail.segments := by
  obtain ⟨first, rest, shape⟩ := List.exists_cons_of_ne_nil present
  have path : tail.text = '/' :: (first ++ pathText rest ++ tail.rest) := by
    rw [Tail.text, shape, path_cons, List.cons_append]
  have stripped := unfragmented (pathText tail.segments) tail (path_unmarked _ tail.parts)
  rw [followed, follow_secure, path,
    split_rooted authority.text _ (part_slashless _ authority.part_text), ← path, Tail.text]
  split
  · rename_i empty
    simp only [Except.map, reduceCtorEq, false_iff, not_and]
    intro same
    rw [same, List.isEmpty_iff] at empty
    exact absurd empty authority.present
  · simp only [Except.map, stripped, Except.ok.injEq, Prod.mk.injEq]
    have kept := rooted_path_iff base [] tail present fun _ impossible => nomatch impossible
    simp only [List.nil_append, Except.ok.injEq, Prod.mk.injEq, true_and] at kept
    rw [kept]
    simp [climb]

theorem rest_head (tail : Tail) (mark : Char) (more : Text) (shape : tail.rest = mark :: more) :
    mark = '?' ∨ mark = '#' := by
  unfold Tail.rest Tail.queryText at shape
  cases query : tail.query with
  | some text =>
      rw [query] at shape
      cases shape
      exact .inl rfl
  | none =>
      rw [query] at shape
      cases fragment : tail.fragment with
      | none =>
          rw [fragment] at shape
          cases shape
      | some text =>
          rw [fragment] at shape
          cases shape
          exact .inr rfl

theorem stopped_within (mark : Char) (front back : Text) (inside : mark ∈ front) :
    (front ++ back).takeWhile (· != mark) = front.takeWhile (· != mark) := by
  induction front with
  | nil => cases inside
  | cons char rest ih =>
      by_cases same : char = mark
      · simp [same]
      · have later := (List.mem_cons.mp inside).resolve_left (Ne.symm same)
        simp only [List.cons_append, List.takeWhile_cons, bne_iff_ne.mpr same, if_true, ih later]

/-- What is taken for the host of an authority with a query or a fragment right behind it. -/
theorem pathless_host_iff (authority : Authority) (tail : Tail) :
    ((authority.text ++ tail.rest).takeWhile (· != '/')).takeWhile (· != ':') = authority.host ↔
      authority.text.takeWhile (· != ':') = authority.host ∧
        (tail.rest = [] ∨ ':' ∈ authority.text) := by
  rw [(whole_taken '/' authority.text tail.rest (part_slashless _ authority.part_text)).1]
  by_cases colon : ':' ∈ authority.text
  · rw [stopped_within ':' _ _ colon]
    simp [colon]
  · cases shape : tail.rest with
    | nil => simp
    | cons mark more =>
        have known := rest_head tail mark more shape
        have slashless : (mark != '/') = true := by
          rcases known with rfl | rfl <;> rfl
        have other : (mark != ':') = true := by
          rcases known with rfl | rfl <;> rfl
        simp only [colon, reduceCtorEq, or_self, and_false, iff_false]
        rw [(whole_taken ':' authority.text _ colon).1, List.takeWhile_cons, slashless, if_pos rfl,
          List.takeWhile_cons, other, if_pos rfl]
        intro same
        have inside : mark ∈ authority.host := by
          rw [← same]
          simp
        rcases known with rfl | rfl
        · exact (authority.part '?' inside).2.1 rfl
        · exact (authority.part '#' inside).2.2 rfl

theorem pathless_url_iff (authority : Authority) (tail : Tail) (empty : tail.segments = []) :
    followed (currentUrl base more) ("https://".toList ++ (authority.text ++ tail.text)) =
        .ok (authority.host, target (removeDots [] tail.segments) tail) ↔
      authority.text.takeWhile (· != ':') = authority.host ∧
        (tail.rest = [] ∨
          (':' ∈ authority.text ∧ pathBehind tail.rest = '/' :: tail.queryText)) := by
  have text : tail.text = tail.rest := by
    rw [Tail.text, empty]
    rfl
  have slashless := part_slashless _ authority.part_text
  have dropped := (whole_taken '/' authority.text tail.rest slashless).2
  have slash : '/' ∈ authority.text ++ tail.rest ↔ '/' ∈ tail.rest := by
    simp [slashless]
  have behind : tail.rest = [] → pathBehind tail.rest = '/' :: tail.queryText := by
    intro none
    have queryless : tail.queryText = [] := (List.append_eq_nil_iff.mp none).1
    rw [none, queryless]
    rfl
  have wanted : target (removeDots [] tail.segments) tail = '/' :: tail.queryText := by
    rw [empty]
    rfl
  rw [followed, follow_secure, text, split_url, wanted, dropped]
  simp only [slash]
  have host := pathless_host_iff authority tail
  split
  · rename_i none
    simp only [Except.map, reduceCtorEq, false_iff, not_and]
    intro same
    rw [List.isEmpty_iff] at none
    rintro (restless | ⟨colon, _⟩)
    · rw [host.mpr ⟨same, .inl restless⟩] at none
      exact authority.present none
    · rw [host.mpr ⟨same, .inr colon⟩] at none
      exact authority.present none
  · simp only [Except.map, Except.ok.injEq, Prod.mk.injEq, host]
    rw [← pathBehind]
    constructor
    · rintro ⟨⟨same, restless | colon⟩, path⟩
      · exact ⟨same, .inl restless⟩
      · exact ⟨same, .inr ⟨colon, path⟩⟩
    · rintro ⟨same, restless | ⟨colon, path⟩⟩
      · exact ⟨⟨same, .inl restless⟩, behind restless⟩
      · exact ⟨⟨same, .inr colon⟩, path⟩

/-- A location of one of the four kinds is followed as it is meant exactly when it is one of
the kept ones. -/
theorem followed_iff (reference : Reference)
    (secure : ∀ scheme authority tail, reference = .absolute scheme authority tail →
      toAsciiLowercase scheme = "https") :
    followed (currentUrl base more) reference.text = .ok (resolve base reference) ↔
      Kept base reference := by
  cases reference with
  | absolute scheme authority tail =>
      have spelled := secure scheme authority tail rfl
      by_cases lower : scheme = "https".toList
      · subst lower
        have text : (Reference.absolute "https" authority tail).text =
            "https://".toList ++ (authority.text ++ tail.text) := rfl
        rw [text, resolve, Kept]
        by_cases empty : tail.segments = []
        · rw [pathless_url_iff base more authority tail empty]
          have dotless : Dotless tail.segments := by
            rw [empty]
            intro segment listed
            cases listed
          simp only [dotless, true_and]
          simp only [empty, forall_const]
        · rw [rooted_url_iff base more authority tail empty]
          simp only [empty, true_and, false_implies, and_true]
      · rw [Kept]
        simp only [lower, false_and, iff_false]
        exact cased_missed base more scheme authority tail spelled lower
  | network authority tail =>
      simp only [Kept, iff_false]
      exact network_missed base more authority tail
  | absolutePath first tail rest shape single =>
      exact absolute_path_iff base more first tail rest shape
  | relativePath first tail rest shape present schemeless =>
      exact relative_path_iff base more first tail rest shape present schemeless

theorem http_refused_iff (scheme rest : Text) (spelled : toAsciiLowercase scheme = "http") :
    (∃ error, follow (currentUrl base more) (scheme ++ ':' :: '/' :: '/' :: rest) =
      .error error) ↔ scheme = "http" := by
  by_cases lower : scheme = "http".toList
  · subst lower
    refine iff_of_true ⟨.notHttps ("http://".toList ++ rest), ?_⟩ rfl
    have known : ("http".toList ++ ':' :: '/' :: '/' :: rest) = "http://".toList ++ rest := rfl
    have secure : startsWith ("http://".toList ++ rest) "https://" = false := rfl
    have plain : startsWith ("http://".toList ++ rest) "http://" = true := rfl
    have stripped : stripPrefix ("http://".toList ++ rest) "https://" = none := rfl
    rw [known, follow_base, absolutize, secure, plain]
    simp only [Bool.false_or, if_true, splitHttpsUrl, stripped]
  · apply iff_of_false
    · rintro ⟨error, failed⟩
      rw [follow_cased base more scheme _ rest spelled (.inr rfl) lower] at failed
      cases failed
    · exact lower

end Resolution

/-! The number of requests. -/
section Requests

open Dns Synth

variable {text : NameText} {World : Type}

theorem fetch_hop_hops (outside : Outside World) (nat64Prefix : Ipv6Addr) (current : Text)
    (journal : Journal World) :
    (fetchHop text outside nat64Prefix current journal).2.hops.length ≤
      journal.hops.length + 1 := by
  unfold fetchHop
  split
  · exact Nat.le_add_right _ _
  · split
    · exact Nat.le_add_right _ _
    · split
      · exact Nat.le_add_right _ _
      · simp

theorem fetch_loop_hops (outside : Outside World) (nat64Prefix : Ipv6Addr) (url : Text)
    (left : Nat) (current : Text) (journal : Journal World) :
    (fetchLoop text outside nat64Prefix url left current journal).2.hops.length ≤
      journal.hops.length + left := by
  induction left generalizing current journal with
  | zero => exact Nat.le_refl _
  | succ left ih =>
      have one : (fetchHop text outside nat64Prefix current journal).2.hops.length ≤
          journal.hops.length + 1 := fetch_hop_hops outside nat64Prefix current journal
      rw [fetchLoop]
      cases hop : fetchHop text outside nat64Prefix current journal with
      | mk outcome after =>
          rw [hop] at one
          cases outcome with
          | error error => exact one.trans (Nat.add_le_add_left (Nat.le_add_left 1 left) _)
          | ok reply =>
              obtain ⟨host, result⟩ := reply
              cases result with
              | Body bytes => exact one.trans (Nat.add_le_add_left (Nat.le_add_left 1 left) _)
              | Redirect location =>
                  have rest := ih (absolutize host location) after
                  dsimp only at one ⊢
                  omega

/-- The next request is the one a location means exactly for the kept locations, a plain
HTTP location is refused exactly when its scheme is in lower case, and the number of
requests is bounded. -/
theorem redirects_exact (base : Base) (more : Text) :
    (∀ reference : Reference, (∀ scheme authority tail,
        reference = .absolute scheme authority tail → toAsciiLowercase scheme = "https") →
      (followed (currentUrl base more) reference.text = .ok (resolve base reference) ↔
        Kept base reference)) ∧
    (∀ scheme rest, toAsciiLowercase scheme = "http" →
      ((∃ error, follow (currentUrl base more) (scheme ++ ':' :: '/' :: '/' :: rest) =
        .error error) ↔ scheme = "http")) ∧
    ∀ (text : NameText) (outside : Outside World) (nat64Prefix : Ipv6Addr) (url : Text)
      (journal : Journal World),
      (fetchText text outside nat64Prefix url journal).2.hops.length ≤
        journal.hops.length + (maxRedirects + 1) := by
  refine ⟨followed_iff base more, http_refused_iff base more, ?_⟩
  intro text outside nat64Prefix url journal
  exact fetch_loop_hops outside nat64Prefix url (maxRedirects + 1) url journal

end Requests

/-! Two locations that lead elsewhere. -/
section Samples

def listBase : Base where
  host := "lists.example.com"
  segments := ["dns".toList, "ads.txt".toList]
  present := by decide
  part := part_checked _ rfl
  portless := by decide
  rooted := by decide
  parts := parts_checked _ rfl

def plainTail (segments : List Text)
    (checked : (segments.all fun text =>
      text.all fun char => char != '/' && char != '?' && char != '#') = true) : Tail where
  segments := segments
  query := none
  fragment := none
  parts := parts_checked segments checked
  queryPart := fun _ impossible => nomatch impossible

def siblingList : Reference :=
  .relativePath "hosts.txt" (plainTail ["hosts.txt".toList] rfl) [] rfl (by decide) (by decide)

def otherHost : Authority where
  userinfo := none
  host := "cdn.example.net"
  port := none
  present := by decide
  part := part_checked _ rfl
  userPart := fun _ impossible => nomatch impossible
  portPart := fun _ impossible => nomatch impossible

def movedList : Reference := .network otherHost (plainTail ["ads.txt".toList] rfl)

/-- The file beside the list is looked for at the root, and the other host is never asked. -/
theorem redirects_lost :
    (resolve listBase siblingList = ("lists.example.com".toList, "/dns/hosts.txt".toList) ∧
      followed (currentUrl listBase []) siblingList.text =
        .ok ("lists.example.com".toList, "/hosts.txt".toList)) ∧
    (resolve listBase movedList = ("cdn.example.net".toList, "/ads.txt".toList) ∧
      followed (currentUrl listBase []) movedList.text =
        .ok ("lists.example.com".toList, "//cdn.example.net/ads.txt".toList)) := by
  decide

end Samples

end Dnsix.Redirects
