import Dnsix.Dashboard
import Dnsix.MetricsEndpoint

/-!
What the dashboard's pages tell: whoever reads a page back, whatever names were asked for,
finds the entries the Query log keeps, their rankings, the sources of the blocklist and the
counters that a scrape tells of.
-/

namespace Dnsix.DashboardViews
open Ascii Blocking BoundedRing CivilDate Counters Dashboard Dns Exposition Handler LogViews Markup
open Prometheus Ranking Transition
open Pool (CacheStatus)

/-! The escapes of the page templates, and a display whose names are markup themselves. -/
section Escaping

def templateEscape (char : Char) : Text :=
  if char = '&' then ['&', 'a', 'm', 'p', ';']
  else if char = '<' then ['&', 'l', 't', ';']
  else if char = '>' then ['&', 'g', 't', ';']
  else if char = Markup.quote then ['&', 'q', 'u', 'o', 't', ';']
  else [char]

theorem unmarked_named (name : Text)
    (checked : (name.all fun mark => mark != '<' && mark != '>' && mark != Markup.quote) = true)
    (mark : Char) (inside : mark ∈ name) : mark ≠ '<' ∧ mark ≠ '>' ∧ mark ≠ Markup.quote := by
  have plain := List.all_eq_true.mp checked mark inside
  simpa [and_assoc] using plain

theorem template_escapes : Escapes templateEscape where
  unmarked char mark inside := by
    unfold templateEscape at inside
    split at inside
    · exact unmarked_named _ rfl mark inside
    split at inside
    · exact unmarked_named _ rfl mark inside
    split at inside
    · exact unmarked_named _ rfl mark inside
    split at inside
    · exact unmarked_named _ rfl mark inside
    · rename_i less more quoted
      rw [List.mem_singleton.mp inside]
      exact ⟨less, more, quoted⟩
  read char rest := by
    unfold templateEscape
    split
    · rename_i same
      rw [same]
      rfl
    split
    · rename_i same
      rw [same]
      rfl
    split
    · rename_i same
      rw [same]
      rfl
    split
    · rename_i same
      rw [same]
      rfl
    · rename_i ampersand _ _ _
      rw [List.singleton_append, unescape]
      all_goals
        intros
        simp_all

def sampleDisplay : Display Unit where
  client _ := "2001:db8::1".toList
  name _ := "<script>&".toList
  qtype _ := "AAAA".toList
  rcode _ := "badvers".toList
  ms _ := "1.0 ms".toList
  rate _ _ := "0.0".toList
  failure _ := "no route".toList

theorem sample_logged : ∃ state, Run step anyAction (.new 2 0) sampleSchedule state := by
  obtain ⟨state, inOrder, _⟩ := sample_in_order
  exact ⟨state, run_weaken (fun _ _ _ => trivial) inOrder⟩

end Escaping

/-! The log. -/
section Log

variable {Error : Type} {escape : Char → Text} (display : Display Error)

/-- The rows stand in a body with an id. -/
def idRows (lines : List Node) : Node :=
  .element Tag.tbody.name [("id".toList, "rows".toList)] lines

theorem id_rows_proper (lines : List Node) (proper : Proper lines) : Proper [idRows lines] := by
  refine .element (tag_named .tbody) ?_ proper .nil
  intro entry listed
  rw [List.mem_singleton.mp listed]
  exact id_named

theorem id_rows_select (wanted : Tag) (lines : List Node) :
    (idRows lines).select (is wanted) =
      if .tbody = wanted then [idRows lines] else selectAll (is wanted) lines := by
  rw [idRows, Node.select]
  simp [is]

theorem log_page_reads (log : QueryLog) : ∃ page, logPage display log = some page ∧
    Reads page [⟨"Live query log".toList, log.snapshotNewestFirst.map (cells display)⟩] := by
  obtain ⟨lines, linesAre, body⟩ := rows_shown display log.snapshotNewestFirst
  refine ⟨_, by rw [logPage, linesAre, Option.map_some], ?_⟩
  have proper := id_rows_proper lines body.proper
  have select := fun wanted => id_rows_select wanted lines
  have children : (idRows lines).children = lines := rfl
  rw [← body.rows, ← idRows]
  constructor
  · simp [proper]
  · simp
  · simp [panels, selectAll, bodyRows, contents, select, children, body.plain]

/-- The row that is pushed for an entry is the row a page shows of it. -/
theorem fragment_reads (escapes : Escapes escape) (e : Entry) :
    ∃ line, row display e = some line ∧ Markup.read (line.write escape) = some [line] ∧
      (selectAll (is .td) line.children).map Node.content = cells display e := by
  obtain ⟨line, lineIs, shows⟩ := row_shows display e
  refine ⟨line, lineIs, ?_, shows.cells⟩
  have whole := read_written escapes [line] shows.proper
  rwa [writeAll, writeAll, List.append_nil] at whole

end Log

/-! The rankings. -/
section Rankings

variable {Error : Type} {escape : Char → Text} (display : Display Error)
  {walk : List (Text × Nat) → List (Text × Nat)}

/-- A map gives out each of its entries once, in any order. -/
def Walks (walk : List (Text × Nat) → List (Text × Nat)) : Prop := ∀ rows, (walk rows).Perm rows

def tableOf (rows : List (Text × Nat)) : List (List Text) :=
  rows.map fun entry => [entry.1, Nat.toDigits 10 entry.2]

theorem walk_counted (walks : Walks walk) (keys : List Text) : Counted keys (walk (tally keys)) :=
  counted_perm keys (tally keys) _ (tally_counted keys) (walks _).symm

theorem top_counts_top (walks : Walks walk) (keys : List Text) :
    Top 10 keys (topCounts walk keys) := top_of 10 keys _ (walk_counted walks keys)

theorem top_counts_walk (walks : Walks walk) {other : List (Text × Nat) → List (Text × Nat)}
    (others : Walks other) (keys : List Text) : topCounts walk keys = topCounts other keys :=
  top_exact 10 keys _ _ (top_counts_top walks keys) (walk_counted others keys)

theorem top_panel (heading : Text) (rows : List (Text × Nat)) :
    Reads [panel heading [topTable rows]] [⟨heading, tableOf rows⟩] :=
  panel_reads heading _ _ (kv_inside (styled .td "mono".toList) ⟨_, .inr rfl⟩ rows)

/-- What the four tables of the page are about. -/
structure Rankings (entries : List Entry) where
  domains : List (Text × Nat)
  clients : List (Text × Nat)
  outcomes : List (Text × Nat)
  blocked : List (Text × Nat)
  topDomains : Top 10 (entries.map fun e => display.name e.name) domains
  topClients : Top 10 (entries.map fun e => display.client e.client) clients
  topOutcomes : Top 10 (entries.map fun e => label e.outcome) outcomes
  topBlocked : Top 10 ((entries.filter fun e => decide (e.outcome = .Blocked)).map
    fun e => display.name e.name) blocked

def Rankings.panels {entries : List Entry} (rankings : Rankings display entries) : List Panel :=
  [⟨"Top domains".toList, tableOf rankings.domains⟩,
   ⟨"Top clients".toList, tableOf rankings.clients⟩,
   ⟨"Top outcomes".toList, tableOf rankings.outcomes⟩,
   ⟨"Top blocked domains".toList, tableOf rankings.blocked⟩]

/-- The description leaves no choice. -/
theorem rankings_unique {entries : List Entry} (left right : Rankings display entries) :
    left = right := by
  have same : ∀ {keys : List Text} {first second : List (Text × Nat)}, Top 10 keys first →
      Top 10 keys second → first = second := fun {keys first second} one other =>
    (top_exact 10 keys first _ one (tally_counted keys)).trans
      (top_exact 10 keys second _ other (tally_counted keys)).symm
  obtain ⟨domains, clients, outcomes, blocked, byName, byClient, byOutcome, byBlocked⟩ := left
  obtain ⟨others, hosts, ends, refused, names, sources, labels, blocks⟩ := right
  obtain rfl := same byName names
  obtain rfl := same byClient sources
  obtain rfl := same byOutcome labels
  obtain rfl := same byBlocked blocks
  rfl

theorem top_page_reads (walks : Walks walk) (log : QueryLog) :
    ∃ rankings : Rankings display log.snapshotNewestFirst,
      Reads (topPage display walk log) rankings.panels := by
  refine ⟨⟨_, _, _, _, top_counts_top walks _, top_counts_top walks _, top_counts_top walks _,
    top_counts_top walks _⟩, ?_⟩
  refine reads_plain (plain_reads _ ?_ ?_ ?_) (grid_reads _ _ ?_)
  · simp
  · simp
  · simp [selectAll]
  · exact reads_panel (top_panel _ _)
      (reads_panel (top_panel _ _)
        (reads_panel (top_panel _ _) (top_panel _ _)))

end Rankings

/-! Numbers in groups. -/
section Numbers

/-- A count as one reads it, thin spaces or none. -/
def readCount (shown : Text) : Nat :=
  Nat.ofDigitChars 10 (shown.filter fun char => decide (char ≠ thinSpace)) 0

/-- Groups of three digits behind one of at most three. -/
def InThrees (shown : Text) : Prop :=
  ∃ first rest, split thinSpace shown = first :: rest ∧ 0 < first.length ∧ first.length ≤ 3 ∧
    ∀ group ∈ rest, group.length = 3

theorem grouped_digits (len i : Nat) (digits : Text) (free : thinSpace ∉ digits) :
    (grouped len i digits).filter (fun char => decide (char ≠ thinSpace)) = digits := by
  induction digits generalizing i with
  | nil => rfl
  | cons ch rest ih =>
      rw [List.mem_cons, not_or] at free
      rw [grouped, List.filter_append, ih (i + 1) free.2]
      split <;> simp [Ne.symm free.1]

/-- The groups of what is left; one is open unless three digits just ended. -/
theorem grouped_split (len i : Nat) (digits : Text) (free : thinSpace ∉ digits)
    (left : i + digits.length = len) :
    ∃ first rest, split thinSpace (grouped len i digits) = first :: rest ∧
      first.length = (if i = 0 ∧ digits ≠ [] ∧ digits.length % 3 = 0 then 3
        else digits.length % 3) ∧
      ∀ group ∈ rest, group.length = 3 := by
  induction digits generalizing i with
  | nil => exact ⟨[], [], split_whole thinSpace [] free, by simp, by simp⟩
  | cons ch rest ih =>
      rw [List.mem_cons, not_or] at free
      rw [List.length_cons] at left
      obtain ⟨first, groups, cut, long, threes⟩ := ih (i + 1) free.2 (by omega)
      have more : split thinSpace (ch :: grouped len (i + 1) rest) = (ch :: first) :: groups := by
        rw [split_cons, if_neg (Ne.symm free.1), cut]
        rfl
      rw [if_neg (by omega)] at long
      by_cases border : i ≠ 0 ∧ (len - i) % 3 = 0
      · refine ⟨[], (ch :: first) :: groups, ?_, ?_, ?_⟩
        · rw [grouped, if_pos border, ← more]
          exact split_append thinSpace [] _
        · rw [if_neg (by omega), List.length_nil, List.length_cons]
          omega
        · rw [List.forall_mem_cons, List.length_cons]
          exact ⟨by omega, threes⟩
      · refine ⟨ch :: first, groups, ?_, ?_, threes⟩
        · rw [grouped, if_neg border]
          exact more
        · simp only [List.length_cons, ne_eq, reduceCtorEq, not_false_eq_true, true_and]
          split <;> omega

theorem digits_free (n : Nat) : thinSpace ∉ Nat.toDigits 10 n := by
  intro inside
  have digit := Nat.isDigit_of_mem_toDigits (by decide) (by decide) inside
  cases digit

theorem count_read (n : Nat) : readCount (fmtCount n) = n := by
  rw [readCount, fmtCount, grouped_digits _ _ _ (digits_free n)]
  exact Nat.ofDigitChars_ten_toDigits

theorem count_in_threes (n : Nat) : InThrees (fmtCount n) := by
  obtain ⟨first, rest, cut, long, threes⟩ :=
    grouped_split (Nat.toDigits 10 n).length 0 (Nat.toDigits 10 n) (digits_free n)
      (Nat.zero_add _)
  have present : Nat.toDigits 10 n ≠ [] := Nat.toDigits_ne_nil
  have positive := List.length_pos_iff.mpr present
  simp only [true_and, ne_eq, present, not_false_eq_true] at long
  refine ⟨first, rest, cut, ?_, ?_, threes⟩ <;> rw [long] <;> split <;> omega

end Numbers

/-! The sources of the blocklist. -/
section Sources

variable {Error World : Type} {escape : Char → Text} (display : Display Error)

def statusText : SourceStatus Error → Text
  | .Ok => "ok".toList
  | .Failed why => "failed: ".toList ++ display.failure why

/-- The texts of the row of a source. -/
def sourceCells (s : SourceStat Error) : List Text :=
  [s.url, statusText display s.status, fmtCount s.blocks, fmtCount s.allows, fmtCount s.skipped]

def sourceCards (bl : Blocklist Error) : List (List Text) :=
  [[fmtCount bl.blockCount, "Blocked domains".toList, "unique, after dedup".toList],
   [fmtCount bl.allowCount, "Allowlist exceptions".toList, "@@ rules honored".toList],
   [Nat.toDigits 10 bl.sources.length, "Sources".toList, "fetched once at startup".toList]]

theorem source_row_shows (s : SourceStat Error) :
    Shows (sourceRow display s) (sourceCells display s) := by
  obtain ⟨cls, shape⟩ : ∃ cls, sourceRow display s =
      bare .tr [styled .td "mono name".toList (words s.url),
        bare .td [badge "source".toList cls (statusText display s.status)],
        styled .td "num".toList (words (fmtCount s.blocks)),
        styled .td "num".toList (words (fmtCount s.allows)),
        styled .td "num".toList (words (fmtCount s.skipped))] := by
    unfold sourceRow
    cases s.status with
    | Ok => exact ⟨"ok".toList, rfl⟩
    | Failed why => exact ⟨"failed".toList, rfl⟩
  rw [shape]
  constructor <;> simp [selectAll, contents, badge, sourceCells]

theorem blocklists_page_reads (bl : Blocklist Error) :
    Reads (blocklistsPage display (some bl))
        [⟨"Sources".toList, bl.sources.map (sourceCells display)⟩] ∧
      cards (blocklistsPage display (some bl)) = sourceCards bl := by
  have body := body_map (sourceRow display) (sourceCells display) (source_row_shows display)
    bl.sources
  unfold blocklistsPage
  refine ⟨reads_plain (plain_reads _ ?_ ?_ ?_)
    (panel_reads _ _ _ ⟨?_, ?_, ?_⟩), ?_⟩
  · simp [card]
  · simp
  · simp [-String.reduceToList, String.toList_inj, selectAll, card]
  · simp [body.proper]
  · simp [-String.reduceToList, selectAll, body.plain]
  · rw [← body.rows]
    simp [bodyRows, selectAll]
  · simp [-String.reduceToList, String.toList_inj, cards, selectAll, card, panel, body.boxless,
      sourceCards]

/-- The numbers of a kind over all sources. -/
def inAll (count : SourceStat Error → Nat) : List (SourceStat Error) → Nat
  | [] => 0
  | s :: rest => count s + inAll count rest

theorem in_all_append (count : SourceStat Error → Nat) (front back : List (SourceStat Error)) :
    inAll count (front ++ back) = inAll count front + inAll count back := by
  induction front with
  | nil => exact (Nat.zero_add _).symm
  | cons s rest ih => rw [List.cons_append, inAll, inAll, ih, Nat.add_assoc]

/-- Every configured source has its row, a failed one with nothing in it, and the sets hold
no more than the rows count. -/
structure Accounts (urls : List Text) (bl : Blocklist Error) : Prop where
  sources : bl.sources.map SourceStat.url = urls
  failed : ∀ s ∈ bl.sources, s.status ≠ .Ok → s.blocks = 0 ∧ s.allows = 0 ∧ s.skipped = 0
  blocks : bl.blockCount ≤ inAll SourceStat.blocks bl.sources
  allows : bl.allowCount ≤ inAll SourceStat.allows bl.sources

theorem insert_length (set : List Text) (item : Text) :
    (set.insert item).length ≤ set.length + 1 := by
  by_cases inside : item ∈ set
  · rw [List.insert_of_mem inside]
    omega
  · rw [List.insert_of_not_mem inside, List.length_cons]

theorem inserts_length (items set : List Text) :
    (items.foldl (fun set d => set.insert d) set).length ≤ set.length + items.length := by
  induction items generalizing set with
  | nil => exact Nat.le_refl _
  | cons item rest ih =>
      have first := insert_length set item
      have later := ih (set.insert item)
      rw [List.foldl_cons, List.length_cons]
      omega

/-- What the sets have grown by since a source was begun. -/
def Within (bl : Blocklist Error) (tally : Tally) : Prop :=
  tally.block.length ≤ bl.block.length + tally.blocks ∧
    tally.allow.length ≤ bl.allow.length + tally.allows

theorem within_add (bl : Blocklist Error) (tally : Tally) (within : Within bl tally) (line : Line) :
    Within bl (tally.add line) := by
  obtain ⟨blocks, allows⟩ := within
  cases line with
  | Block domains =>
      have grown := inserts_length domains tally.block
      exact ⟨by simp only [Tally.add]; omega, allows⟩
  | Allow domain =>
      have grown := insert_length tally.allow domain
      exact ⟨blocks, by simp only [Tally.add]; omega⟩
  | Skip => exact ⟨blocks, allows⟩
  | Ignore => exact ⟨blocks, allows⟩

theorem within_lines (bl : Blocklist Error) (raws : List Text) (tally : Tally)
    (within : Within bl tally) :
    Within bl (raws.foldl (fun tally raw => tally.add (parseLine raw)) tally) := by
  induction raws generalizing tally with
  | nil => exact within
  | cons raw rest ih => exact ih _ (within_add bl tally within (parseLine raw))

theorem accounts_source (urls : List Text) (bl : Blocklist Error) (accounts : Accounts urls bl)
    (url : Text) (outcome : Except Error Text) :
    Accounts (urls ++ [url]) (bl.addSource url outcome) := by
  obtain ⟨sources, failed, blocks, allows⟩ := accounts
  cases outcome with
  | error error =>
      constructor
      · rw [Blocklist.addSource, List.map_append, sources]
        rfl
      · intro s listed
        rcases List.mem_append.mp listed with before | new
        · exact failed s before
        · rw [List.mem_singleton.mp new]
          exact fun _ => ⟨rfl, rfl, rfl⟩
      · rw [Blocklist.addSource, in_all_append]
        exact blocks
      · rw [Blocklist.addSource, in_all_append]
        exact allows
  | ok content =>
      have within := within_lines bl (lines content) ⟨bl.block, bl.allow, 0, 0, 0⟩
        ⟨Nat.le_refl _, Nat.le_refl _⟩
      obtain ⟨grownBlocks, grownAllows⟩ := within
      rw [Blocklist.blockCount] at blocks
      rw [Blocklist.allowCount] at allows
      constructor
      · rw [Blocklist.addSource, List.map_append, sources]
        rfl
      · intro s listed
        rcases List.mem_append.mp listed with before | new
        · exact failed s before
        · rw [List.mem_singleton.mp new]
          exact fun other => absurd rfl other
      · simp only [Blocklist.addSource, in_all_append, Blocklist.blockCount, inAll, Tally.read]
        omega
      · simp only [Blocklist.addSource, in_all_append, Blocklist.allowCount, inAll, Tally.read]
        omega

theorem load_last (fetch : Text → World → Except Error Text × World) (urls : List Text)
    (url : Text) (world : World) : (loadWith fetch (urls ++ [url]) world).1 =
      (loadWith fetch urls world).1.addSource url (fetch url (loadWith fetch urls world).2).1 := by
  rw [loadWith, List.foldl_append]
  rfl

theorem load_accounts (fetch : Text → World → Except Error Text × World) (urls : List Text)
    (world : World) : Accounts urls (loadWith fetch urls world).1 := by
  induction urls using List.reverseRecOn with
  | nil => exact ⟨rfl, List.forall_mem_nil _, Nat.le_refl _, Nat.le_refl _⟩
  | append_singleton before url ih =>
      rw [load_last]
      exact accounts_source before _ ih url _

def sampleFetch (url : Text) (world : Unit) : Except Unit Text × Unit :=
  (if url = ['a'] then .ok "||ads.example.com^".toList else .error (), world)

end Sources

/-! The counters. -/
section Overview

variable {Error : Type} {escape : Char → Text} (display : Display Error)

/-- The points of a scraped family, each under the value of its label. -/
def pointsOf (name : String) : List Family → List (Text × Nat)
  | [] => []
  | family :: rest =>
      if family.name = name.toList then
        family.points.map fun point => (point.1.flatMap Prod.snd, point.2)
      else pointsOf name rest

def valueOf (name : String) (families : List Family) : Nat :=
  ((pointsOf name families).map Prod.snd).headD 0

@[simp]
theorem points_counter (name wanted help label : String) (points : List (String × Nat))
    (rest : List Family) :
    pointsOf wanted (counterFamily name help label points :: rest) =
      if name = wanted then spelled points else pointsOf wanted rest := by
  simp only [pointsOf, counterFamily, String.toList_inj]
  simp [spelled, Function.comp_def]

@[simp]
theorem points_scalar (name wanted help : String) (value : Nat) (rest : List Family) :
    pointsOf wanted (scalarFamily name help value :: rest) =
      if name = wanted then [([], value)] else pointsOf wanted rest := by
  simp only [pointsOf, scalarFamily, String.toList_inj]
  simp

/-- The tables, as far as a scrape tells of them. -/
def overviewPanels (families : List Family) : List Panel :=
  let seen := fun entry : Text × Nat => decide (0 < entry.2)
  [⟨"Query rate".toList, []⟩,
   ⟨"Query kind".toList, tableOf
     (["dns64 (AAAA synthesis)".toList, "passthrough".toList, "blocked".toList].zip
       ((pointsOf "dns_queries_total" families).map Prod.snd))⟩,
   ⟨"DNS64 disposition".toList, tableOf
     [("native AAAA".toList, valueOf "dns64_native_aaaa_total" families),
      ("nxdomain".toList, valueOf "dns64_nxdomain_total" families),
      ("nodata → chain".toList, valueOf "dns64_nodata_total" families),
      ("synthesized".toList, valueOf "dns64_synthesized_total" families),
      ("empty (no synth)".toList, valueOf "dns64_empty_total" families)]⟩,
   ⟨"Cache & resilience".toList, tableOf
     [("hits".toList, valueOf "dns_cache_hits_total" families),
      ("misses".toList, valueOf "dns_cache_misses_total" families),
      ("negative hits".toList, valueOf "dns_negative_cache_hits_total" families),
      ("served stale".toList, valueOf "dns_served_stale_total" families),
      ("prefetches".toList, valueOf "dns_prefetch_total" families),
      ("upstream failed".toList, valueOf "dns_upstream_failed_total" families)]⟩,
   ⟨"Responses by code".toList, tableOf ((pointsOf "dns_responses_total" families).filter seen)⟩,
   ⟨"Queries by type".toList,
     tableOf ((pointsOf "dns_queries_by_qtype_total" families).filter seen)⟩,
   ⟨"Synthesizer hits".toList, tableOf (pointsOf "synth_hits_total" families)⟩]

theorem whole_panel (heading : Text) (rows : List (Text × Nat)) :
    Reads [panel heading [countTable rows false]] [⟨heading, tableOf rows⟩] := by
  have all : rows.filter (fun entry => !false || decide (0 < entry.2)) = rows := by simp
  rw [countTable, all]
  exact panel_reads heading _ _ (kv_inside (bare .td) ⟨[], .inl rfl⟩ rows)

theorem seen_panel (heading : Text) (rows : List (Text × Nat)) :
    Reads [panel heading [countTable rows true]]
      [⟨heading, tableOf (rows.filter fun entry => decide (0 < entry.2))⟩] := by
  have positive : rows.filter (fun entry => !true || decide (0 < entry.2)) =
      rows.filter fun entry => decide (0 < entry.2) := by simp
  rw [countTable, positive]
  exact panel_reads heading _ _ (kv_inside (bare .td) ⟨[], .inl rfl⟩ _)

/-- What the tables show of a snapshot. -/
theorem snapshot_panels (m : MetricsSnapshot) : overviewPanels m.families =
    [⟨"Query rate".toList, []⟩,
     ⟨"Query kind".toList, tableOf [("dns64 (AAAA synthesis)".toList, m.queriesDns64),
       ("passthrough".toList, m.queriesPassthrough), ("blocked".toList, m.blocked)]⟩,
     ⟨"DNS64 disposition".toList, tableOf [("native AAAA".toList, m.nativeAaaa),
       ("nxdomain".toList, m.nxdomain64), ("nodata → chain".toList, m.nodata),
       ("synthesized".toList, m.synthesized), ("empty (no synth)".toList, m.empty)]⟩,
     ⟨"Cache & resilience".toList, tableOf [("hits".toList, m.cacheHits),
       ("misses".toList, m.cacheMisses), ("negative hits".toList, m.negativeCacheHits),
       ("served stale".toList, m.servedStale), ("prefetches".toList, m.prefetches),
       ("upstream failed".toList, m.upstreamFailed)]⟩,
     ⟨"Responses by code".toList,
       tableOf ((spelled m.rcode).filter fun entry => decide (0 < entry.2))⟩,
     ⟨"Queries by type".toList,
       tableOf ((spelled m.qtype).filter fun entry => decide (0 < entry.2))⟩,
     ⟨"Synthesizer hits".toList, tableOf (spelled m.synth)⟩] := by
  unfold overviewPanels valueOf MetricsSnapshot.families MetricsSnapshot.scalars
  simp only [List.cons_append, List.nil_append, points_counter, points_scalar, String.reduceEq,
    if_true, if_false, List.map_cons, List.headD_cons]
  rfl

/-- The cards, as far as a scrape tells of them. -/
def overviewCards (since : Text) (elapsed : Nat) (families : List Family) : List (List Text) :=
  let number := fun name => Nat.toDigits 10 (valueOf name families)
  let kinds := (pointsOf "dns_queries_total" families).map Prod.snd
  let total := kinds.foldl (· + ·) 0
  let blocked := kinds.getLastD 0
  let hits := valueOf "dns_cache_hits_total" families
  let misses := valueOf "dns_cache_misses_total" families
  [[Nat.toDigits 10 total, "Total queries".toList, "since ".toList ++ since],
   [fmtUptime elapsed, "Uptime".toList, "started ".toList ++ since],
   [display.rate hits (hits + misses) ++ ['%'], "Cache hit rate".toList,
    Nat.toDigits 10 hits ++ " hits · ".toList ++ Nat.toDigits 10 misses ++ " misses".toList],
   [number "dns64_synthesized_total", "Synthesized".toList,
    number "dns64_nodata_total" ++ " nodata · ".toList ++ number "dns64_empty_total" ++
      " empty".toList],
   [Nat.toDigits 10 blocked, "Blocked".toList,
    display.rate blocked total ++ "% of queries".toList]]

theorem snapshot_cards (since : Text) (elapsed : Nat) (m : MetricsSnapshot) :
    overviewCards display since elapsed m.families =
      [[Nat.toDigits 10 (m.queriesDns64 + m.queriesPassthrough + m.blocked),
        "Total queries".toList, "since ".toList ++ since],
       [fmtUptime elapsed, "Uptime".toList, "started ".toList ++ since],
       [display.rate m.cacheHits (m.cacheHits + m.cacheMisses) ++ ['%'], "Cache hit rate".toList,
        Nat.toDigits 10 m.cacheHits ++ " hits · ".toList ++ Nat.toDigits 10 m.cacheMisses ++
          " misses".toList],
       [Nat.toDigits 10 m.synthesized, "Synthesized".toList,
        Nat.toDigits 10 m.nodata ++ " nodata · ".toList ++ Nat.toDigits 10 m.empty ++
          " empty".toList],
       [Nat.toDigits 10 m.blocked, "Blocked".toList,
        display.rate m.blocked (m.queriesDns64 + m.queriesPassthrough + m.blocked) ++
          "% of queries".toList]] := by
  unfold overviewCards valueOf MetricsSnapshot.families MetricsSnapshot.scalars
  simp only [List.cons_append, List.nil_append, points_counter, points_scalar, String.reduceEq,
    if_true, if_false, List.map_cons, List.map_nil, List.headD_cons, spelled, List.foldl_cons,
    List.foldl_nil, Nat.zero_add]
  rfl

/-- A chart shows no table and no card. -/
structure Chart (nodes : List Node) : Prop where
  inside : Inside nodes []
  cardless : selectAll (wears .div "card".toList) nodes = []

theorem table_cardless (rows : List (Text × Nat)) (hideZero : Bool) :
    (countTable rows hideZero).select (wears .div "card".toList) = [] := by
  have body := body_map (countRow (bare .td)) _ (count_row_shows (bare .td) ⟨[], .inl rfl⟩)
    (rows.filter fun entry => !hideZero || decide (0 < entry.2))
  unfold countTable kvTable
  split
  · simp [nothingYet]
  · simp [-String.reduceToList, selectAll, body.boxless]

theorem overview_reads (spark : List Entry → List Node) (charts : ∀ entries, Chart (spark entries))
    (m : MetricsSnapshot) (log : QueryLog) (startedWall : SystemTime) (elapsed : Nat) :
    ∃ page since, overviewDash display spark m log startedWall elapsed = some page ∧
      fmtUtc startedWall = some since ∧ Reads page (overviewPanels m.families) ∧
      cards page = overviewCards display since elapsed m.families := by
  have since := fmt_utc_date startedWall
  refine ⟨_, _, by rw [overviewDash, since, Option.map_some], since, ?_, ?_⟩
  · rw [snapshot_panels]
    refine reads_plain (plain_reads _ ?_ ?_ ?_)
      (reads_panel (panel_reads _ _ _ (charts _).inside)
        (grid_reads _ _ ?_))
    · simp [card]
    · simp
    · simp [-String.reduceToList, String.toList_inj, selectAll, card]
    · exact reads_panel (whole_panel _ _)
        (reads_panel (whole_panel _ _)
          (reads_panel (whole_panel _ _)
            (reads_panel (seen_panel _ _)
              (reads_panel (seen_panel _ _) (whole_panel _ _)))))
  · rw [snapshot_cards]
    simp [-String.reduceToList, String.toList_inj, cards, selectAll, card, panel,
      (charts _).cardless, table_cardless]

def sampleChart (_ : List Entry) : List Node :=
  [styled .p "muted small".toList (words "Not enough data yet for a rate chart.".toList)]

theorem sample_charts (entries : List Entry) : Chart (sampleChart entries) where
  inside := by constructor <;> simp [sampleChart, selectAll, bodyRows]
  cardless := by simp [sampleChart, selectAll]

end Overview

end Dnsix.DashboardViews
