import Dnsix.Blocking
import Dnsix.LogViews
import Dnsix.Markup
import Dnsix.Prometheus
import Dnsix.Ranking
import Mathlib.Data.Char
import Mathlib.Data.List.Lex

/-!
The dashboard's pages, as trees of elements: the parts of them that show the Query log, the
blocklist and the counters. Values that other crates or floating-point formats spell are
shown by parameters. The chrome around a page, its scripts and the rate chart are left out.
-/

namespace Dnsix.Dashboard
open Ascii Blocking BoundedRing CivilDate Dns Handler LogViews Markup Prometheus Ranking Transition
open Pool (CacheStatus)

/-! Elements. -/
section Elements

inductive Tag where
  | sect | div | h2 | p | span | table | thead | tbody | tr | th | td | code
  deriving DecidableEq

def Tag.name : Tag → Text
  | .sect => "section".toList
  | .div => "div".toList
  | .h2 => "h2".toList
  | .p => "p".toList
  | .span => "span".toList
  | .table => "table".toList
  | .thead => "thead".toList
  | .tbody => "tbody".toList
  | .tr => "tr".toList
  | .th => "th".toList
  | .td => "td".toList
  | .code => "code".toList

def bare (tag : Tag) (children : List Node) : Node := .element tag.name [] children

def styled (tag : Tag) (style : Text) (children : List Node) : Node :=
  .element tag.name [("class".toList, style)] children

/-- No node stands for the empty text. -/
def words (chars : Text) : List Node := if chars = [] then [] else [.text chars]

end Elements

/-! What the cells say. -/
section Labels

variable {Error : Type}

/-- The texts of the values that others display; `rcode` is the lowercase debug form of a
code without a label, `ms` a latency in milliseconds, `rate` a percentage. -/
structure Display (Error : Type) where
  client : IpAddr → Text
  name : Name → Text
  qtype : RecordType → Text
  rcode : Nat → Text
  ms : Nat → Text
  rate : Nat → Nat → Text
  failure : Error → Text

def cacheLabel : CacheStatus → Text
  | .Uncached => "uncached".toList
  | .Miss => "miss".toList
  | .Hit => "hit".toList
  | .Stale => "stale".toList

def kind : Outcome → Text
  | .NativeAaaa => "native".toList
  | .Nxdomain => "nxdomain".toList
  | .Synthesized id => if id = "nat64" then "nat64".toList else "synth".toList
  | .EmptyNodata => "empty".toList
  | .Passthrough => "passthrough".toList
  | .Blocked => "blocked".toList
  | .Refused => "refused".toList
  | .ServFail => "servfail".toList

def label : Outcome → Text
  | .NativeAaaa => "native-aaaa".toList
  | .Nxdomain => "nxdomain".toList
  | .Synthesized id => "synth:".toList ++ id.toList
  | .EmptyNodata => "empty".toList
  | .Passthrough => "passthrough".toList
  | .Blocked => "blocked".toList
  | .Refused => "refused".toList
  | .ServFail => "servfail".toList

def rcodeLabel (display : Display Error) : ResponseCode → Text
  | .NoError => "noerror".toList
  | .NXDomain => "nxdomain".toList
  | .ServFail => "servfail".toList
  | .NotImp => "notimp".toList
  | .FormErr => "formerr".toList
  | .Refused => "refused".toList
  | .other code => display.rcode code

def thinSpace : Char := '\u2009'

def grouped (len : Nat) : Nat → Text → Text
  | _, [] => []
  | i, ch :: rest =>
      (if i ≠ 0 ∧ (len - i) % 3 = 0 then [thinSpace, ch] else [ch]) ++ grouped len (i + 1) rest

/-- A thin space stands before every group of three digits counted from the right. -/
def fmtCount (n : Nat) : Text :=
  let digits := Nat.toDigits 10 n
  grouped digits.length 0 digits

def fmtUptime (s : Nat) : Text :=
  let (days, h, m, sec) := (s / 86400, s % 86400 / 3600, s % 3600 / 60, s % 60)
  let part (number : Nat) (unit : Char) : Text := Nat.toDigits 10 number ++ [unit]
  if 0 < days then part days 'd' ++ ' ' :: part h 'h' ++ ' ' :: part m 'm'
  else if 0 < h then part h 'h' ++ ' ' :: part m 'm' ++ ' ' :: part sec 's'
  else if 0 < m then part m 'm' ++ ' ' :: part sec 's'
  else part sec 's'

end Labels

/-! Rows and tables. -/
section Parts

variable {Error : Type} (display : Display Error)

def badge (family style shown : Text) : Node :=
  styled .span ("badge ".toList ++ family ++ '-' :: style) (words shown)

/-- One row of the Query log, and what is pushed to a page that tails it. -/
def row (e : Entry) : Option Node :=
  (fmtClock e.time).map fun time =>
    bare .tr [styled .td "mono muted".toList (words time),
      styled .td "mono".toList (words (display.client e.client)),
      styled .td "mono name".toList (words (display.name e.name)),
      bare .td (words (display.qtype e.qtype)),
      bare .td (words (rcodeLabel display e.rcode)),
      bare .td [badge "cache".toList (cacheLabel e.cache) (cacheLabel e.cache)],
      bare .td [badge "outcome".toList (kind e.outcome) (label e.outcome)],
      styled .td "num".toList (words (display.ms e.latency))]

def sourceRow (s : SourceStat Error) : Node :=
  let (cls, shown) : Text × Text :=
    match s.status with
    | .Ok => ("ok".toList, "ok".toList)
    | .Failed why => ("failed".toList, "failed: ".toList ++ display.failure why)
  bare .tr [styled .td "mono name".toList (words s.url), bare .td [badge "source".toList cls shown],
    styled .td "num".toList (words (fmtCount s.blocks)),
    styled .td "num".toList (words (fmtCount s.allows)),
    styled .td "num".toList (words (fmtCount s.skipped))]

def card (value shown sub : Text) : Node :=
  styled .div "card".toList [styled .div "card-value".toList (words value),
    styled .div "card-label".toList (words shown), styled .div "card-sub".toList (words sub)]

def nothingYet : Node := styled .p "muted small".toList (words "Nothing yet.".toList)

def countRow (cell : List Node → Node) (entry : Text × Nat) : Node :=
  bare .tr [cell (words entry.1), styled .td "num".toList (words (Nat.toDigits 10 entry.2))]

def kvTable (cell : List Node → Node) (rows : List (Text × Nat)) : Node :=
  if rows = [] then nothingYet
  else styled .table "kv".toList [bare .tbody (rows.map (countRow cell))]

def countTable (rows : List (Text × Nat)) (hideZero : Bool) : Node :=
  kvTable (bare .td) (rows.filter fun entry => !hideZero || decide (0 < entry.2))

def topTable (rows : List (Text × Nat)) : Node := kvTable (styled .td "mono".toList) rows

/-- `walk` is the order in which the map gives out its entries. -/
def topCounts (walk : List (Text × Nat) → List (Text × Nat)) (keys : List Text) :
    List (Text × Nat) := topOf 10 (walk (tally keys))

def spelled (rows : List (String × Nat)) : List (Text × Nat) :=
  rows.map fun entry => (entry.1.toList, entry.2)

def panel (heading : Text) (inside : List Node) : Node :=
  styled .sect "panel".toList (bare .h2 (words heading) :: inside)

end Parts

/-! The pages. -/
section Pages

variable {Error : Type} (display : Display Error)

def logPage (log : QueryLog) : Option (List Node) :=
  (log.snapshotNewestFirst.mapM (row display)).map fun rows =>
    [styled .sect "panel".toList [
      styled .div "loghead".toList [bare .h2 (words "Live query log".toList),
        styled .span "live".toList (words "live".toList)],
      styled .p "muted small".toList
        (words "Newest first. New queries stream in via Server-Sent Events.".toList),
      styled .div "tablewrap".toList [styled .table "log".toList [
        bare .thead [bare .tr [bare .th (words "Time".toList), bare .th (words "Client".toList),
          bare .th (words "Name".toList), bare .th (words "Type".toList),
          bare .th (words "Code".toList), bare .th (words "Cache".toList),
          bare .th (words "Outcome".toList), styled .th "num".toList (words "Latency".toList)]],
        .element Tag.tbody.name [("id".toList, "rows".toList)] rows]]]]

def topPage (walk : List (Text × Nat) → List (Text × Nat)) (log : QueryLog) : List Node :=
  let entries := log.snapshotNewestFirst
  let domains := topCounts walk (entries.map fun e => display.name e.name)
  let clients := topCounts walk (entries.map fun e => display.client e.client)
  let outcomes := topCounts walk (entries.map fun e => label e.outcome)
  let blocked := topCounts walk
    ((entries.filter fun e => decide (e.outcome = .Blocked)).map fun e => display.name e.name)
  [styled .p "muted".toList (words ("Computed from the ".toList ++
      Nat.toDigits 10 entries.length ++
        " queries currently in the log buffer — a recent window, not all-time.".toList)),
    styled .div "grid".toList [panel "Top domains".toList [topTable domains],
      panel "Top clients".toList [topTable clients],
      panel "Top outcomes".toList [topTable outcomes],
      panel "Top blocked domains".toList [topTable blocked]]]

def blocklistsPage : Option (Blocklist Error) → List Node
  | none =>
      [panel "Blocklist".toList [styled .p "muted".toList
        [.text "Blocking is disabled. Set ".toList, bare .code (words "blocklists".toList),
          .text " in the config to enable it.".toList]]]
  | some bl =>
      [styled .sect "cards".toList [
        card (fmtCount bl.blockCount) "Blocked domains".toList "unique, after dedup".toList,
        card (fmtCount bl.allowCount) "Allowlist exceptions".toList "@@ rules honored".toList,
        card (Nat.toDigits 10 bl.sources.length) "Sources".toList
          "fetched once at startup".toList],
      panel "Sources".toList [
        styled .p "muted small".toList (words ("Fetched once at startup and immutable; ".toList ++
          "restart to update. A failed source is skipped (fail-open).".toList)),
        styled .div "tablewrap".toList [styled .table "log".toList [
          bare .thead [bare .tr [bare .th (words "Source".toList),
            bare .th (words "Status".toList), styled .th "num".toList (words "Blocked".toList),
            styled .th "num".toList (words "Allowed".toList),
            styled .th "num".toList (words "Skipped".toList)]],
          bare .tbody (bl.sources.map (sourceRow display))]]]]

/-- The live part of the Overview: `spark` draws the chart of the entries. -/
def overviewDash (spark : List Entry → List Node) (m : MetricsSnapshot) (log : QueryLog)
    (startedWall : SystemTime) (elapsed : Nat) : Option (List Node) :=
  let entries := log.snapshotNewestFirst
  let total := m.queriesDns64 + m.queriesPassthrough + m.blocked
  let kinds : List (Text × Nat) :=
    [("dns64 (AAAA synthesis)".toList, m.queriesDns64),
     ("passthrough".toList, m.queriesPassthrough), ("blocked".toList, m.blocked)]
  let dns64 : List (Text × Nat) :=
    [("native AAAA".toList, m.nativeAaaa), ("nxdomain".toList, m.nxdomain64),
     ("nodata → chain".toList, m.nodata), ("synthesized".toList, m.synthesized),
     ("empty (no synth)".toList, m.empty)]
  let cache : List (Text × Nat) :=
    [("hits".toList, m.cacheHits), ("misses".toList, m.cacheMisses),
     ("negative hits".toList, m.negativeCacheHits), ("served stale".toList, m.servedStale),
     ("prefetches".toList, m.prefetches), ("upstream failed".toList, m.upstreamFailed)]
  (fmtUtc startedWall).map fun since =>
    [styled .sect "cards".toList [
      card (Nat.toDigits 10 total) "Total queries".toList ("since ".toList ++ since),
      card (fmtUptime elapsed) "Uptime".toList ("started ".toList ++ since),
      card (display.rate m.cacheHits (m.cacheHits + m.cacheMisses) ++ ['%'])
        "Cache hit rate".toList
        (Nat.toDigits 10 m.cacheHits ++ " hits · ".toList ++ Nat.toDigits 10 m.cacheMisses ++
          " misses".toList),
      card (Nat.toDigits 10 m.synthesized) "Synthesized".toList
        (Nat.toDigits 10 m.nodata ++ " nodata · ".toList ++ Nat.toDigits 10 m.empty ++
          " empty".toList),
      card (Nat.toDigits 10 m.blocked) "Blocked".toList
        (display.rate m.blocked total ++ "% of queries".toList)],
    panel "Query rate".toList (spark entries),
    styled .div "grid".toList [panel "Query kind".toList [countTable kinds false],
      panel "DNS64 disposition".toList [countTable dns64 false],
      panel "Cache & resilience".toList [countTable cache false],
      panel "Responses by code".toList [countTable (spelled m.rcode) true],
      panel "Queries by type".toList [countTable (spelled m.qtype) true],
      panel "Synthesizer hits".toList [countTable (spelled m.synth) false]]]

end Pages

/-! Reading the panels of a page. -/
section Panels

def is (tag : Tag) (name : Text) (_ : Attributes) : Bool := decide (name = tag.name)

def wears (tag : Tag) (style name : Text) (attributes : Attributes) : Bool :=
  decide (name = tag.name ∧ attributes = [("class".toList, style)])

abbrev isPanel : Text → Attributes → Bool := wears .sect "panel".toList

/-- The cells of the rows of the table bodies. -/
def bodyRows (nodes : List Node) : List (List Text) :=
  ((selectAll (is .tbody) nodes).flatMap fun body => selectAll (is .tr) body.children).map
    fun line => (selectAll (is .td) line.children).map Node.content

structure Panel where
  heading : Text
  rows : List (List Text)
  deriving DecidableEq

def panels (nodes : List Node) : List Panel :=
  (selectAll isPanel nodes).map fun panel =>
    ⟨contents (selectAll (is .h2) panel.children), bodyRows panel.children⟩

/-- The value, the label and the note of each card. -/
def cards (nodes : List Node) : List (List Text) :=
  (selectAll (wears .div "card".toList) nodes).map fun card => card.children.map Node.content

def readPanels (page : Text) : Option (List Panel) := (Markup.read page).map panels

variable {escape : Char → Text}

theorem tag_named (tag : Tag) : Named tag.name := by
  cases tag <;> exact named_of _ rfl

theorem class_named : Named "class".toList := named_of _ rfl

theorem id_named : Named "id".toList := named_of _ rfl

@[simp]
theorem tag_name_iff (left right : Tag) : left.name = right.name ↔ left = right := by
  constructor
  · intro same
    cases left <;> cases right <;> first | rfl | exact absurd same (by decide)
  · rintro rfl
    rfl

@[simp]
theorem proper_words (chars : Text) : Proper (words chars) := by
  unfold words
  split
  · exact .nil
  · rename_i present
    exact .text present (by simp) .nil

@[simp]
theorem proper_bare (tag : Tag) (inside rest : List Node) :
    Proper (bare tag inside :: rest) ↔ Proper inside ∧ Proper rest := by
  constructor
  · intro proper
    cases proper with
    | element named keys inside later => exact ⟨inside, later⟩
  · rintro ⟨proper, later⟩
    exact .element (tag_named tag) (by simp) proper later

@[simp]
theorem proper_styled (tag : Tag) (style : Text) (inside rest : List Node) :
    Proper (styled tag style inside :: rest) ↔ Proper inside ∧ Proper rest := by
  constructor
  · intro proper
    cases proper with
    | element named keys inside later => exact ⟨inside, later⟩
  · rintro ⟨proper, later⟩
    refine .element (tag_named tag) ?_ proper later
    intro entry listed
    rw [List.mem_singleton.mp listed]
    exact class_named

@[simp]
theorem proper_nil : Proper [] := .nil

@[simp]
theorem contents_words (chars : Text) : contents (words chars) = chars := by
  unfold words
  split
  · rename_i empty
    rw [empty]
    rfl
  · rw [contents, Node.content, contents, List.append_nil]

@[simp]
theorem content_bare (tag : Tag) (inside : List Node) :
    (bare tag inside).content = contents inside := by rw [bare, Node.content]

@[simp]
theorem content_styled (tag : Tag) (style : Text) (inside : List Node) :
    (styled tag style inside).content = contents inside := by rw [styled, Node.content]

@[simp]
theorem element_bare (tag : Tag) (inside : List Node) : isText (bare tag inside) = false := rfl

@[simp]
theorem element_styled (tag : Tag) (style : Text) (inside : List Node) :
    isText (styled tag style inside) = false := rfl

@[simp]
theorem children_bare (tag : Tag) (inside : List Node) : (bare tag inside).children = inside := rfl

@[simp]
theorem children_styled (tag : Tag) (style : Text) (inside : List Node) :
    (styled tag style inside).children = inside := rfl

@[simp]
theorem select_words (wanted : Text → Attributes → Bool) (chars : Text) :
    selectAll wanted (words chars) = [] := by
  unfold words
  split <;> rfl

@[simp]
theorem select_bare (wanted tag : Tag) (inside : List Node) :
    (bare tag inside).select (is wanted) =
      if tag = wanted then [bare tag inside] else selectAll (is wanted) inside := by
  rw [bare, Node.select]
  simp [is]

@[simp]
theorem select_styled (wanted tag : Tag) (style : Text) (inside : List Node) :
    (styled tag style inside).select (is wanted) =
      if tag = wanted then [styled tag style inside] else selectAll (is wanted) inside := by
  rw [styled, Node.select]
  simp [is]

@[simp]
theorem wears_bare (wanted : Tag) (kind : Text) (tag : Tag) (inside : List Node) :
    (bare tag inside).select (wears wanted kind) = selectAll (wears wanted kind) inside := by
  rw [bare, Node.select]
  simp [wears]

@[simp]
theorem wears_styled (wanted : Tag) (kind : Text) (tag : Tag) (style : Text) (inside : List Node) :
    (styled tag style inside).select (wears wanted kind) =
      if tag = wanted ∧ style = kind then [styled tag style inside]
      else selectAll (wears wanted kind) inside := by
  rw [styled, Node.select]
  simp [wears]

/-- A page reads back as its tree. -/
theorem page_read (escapes : Escapes escape) (nodes : List Node) (proper : Proper nodes) :
    readPanels (writeAll escape nodes) = some (panels nodes) := by
  rw [readPanels, read_written escapes nodes proper]
  rfl

theorem proper_single {nodes : List Node} (proper : Proper nodes) (node : Node)
    (listed : node ∈ nodes) : Proper [node] := by
  induction proper with
  | nil => cases listed
  | text present apart later ih =>
      rcases List.mem_cons.mp listed with rfl | behind
      · exact .text present (by simp) .nil
      · exact ih behind
  | element named keys inside later _ ih =>
      rcases List.mem_cons.mp listed with rfl | behind
      · exact .element named keys inside .nil
      · exact ih behind

theorem proper_row (nodes rest : List Node) (each : ∀ node ∈ nodes, Proper [node])
    (bare : ∀ node ∈ nodes, isText node = false) (later : Proper rest) :
    Proper (nodes ++ rest) := by
  induction nodes with
  | nil => exact later
  | cons node others ih =>
      rw [List.forall_mem_cons] at each bare
      have behind := ih each.2 bare.2
      cases node with
      | text chars => cases bare.1
      | element tag attributes children =>
          cases each.1 with
          | element named keys inside _ => exact .element named keys inside behind

end Panels

/-! What the rows and tables show. -/
section Shown

variable {Error : Type} (display : Display Error)

/-- A table row and the texts of its cells. -/
structure Shows (line : Node) (cells : List Text) : Prop where
  proper : Proper [line]
  found : line.select (is .tr) = [line]
  plain : isText line = false ∧ line.select (is .h2) = [] ∧ line.select (is .tbody) = []
  boxless : ∀ style, line.select (wears .sect style) = [] ∧ line.select (wears .div style) = []
  cells : (selectAll (is .td) line.children).map Node.content = cells

/-- The rows of one table body. -/
structure Body (lines : List Node) (table : List (List Text)) : Prop where
  proper : Proper lines
  rows : (selectAll (is .tr) lines).map
    (fun line => (selectAll (is .td) line.children).map Node.content) = table
  plain : selectAll (is .h2) lines = [] ∧ selectAll (is .tbody) lines = []
  boxless : ∀ style, selectAll (wears .sect style) lines = [] ∧
    selectAll (wears .div style) lines = []

theorem body_nil : Body [] [] := ⟨.nil, rfl, ⟨rfl, rfl⟩, fun _ => ⟨rfl, rfl⟩⟩

theorem body_cons {line : Node} {cells : List Text} {lines : List Node} {table : List (List Text)}
    (shows : Shows line cells) (body : Body lines table) :
    Body (line :: lines) (cells :: table) := by
  obtain ⟨isElement, noHeading, noBody⟩ := shows.plain
  obtain ⟨headings, bodies⟩ := body.plain
  constructor
  · refine proper_row [line] lines ?_ ?_ body.proper
    · intro node listed
      rw [List.mem_singleton.mp listed]
      exact shows.proper
    · intro node listed
      rw [List.mem_singleton.mp listed]
      exact isElement
  · rw [selectAll, shows.found, List.singleton_append, List.map_cons, shows.cells, body.rows]
  · simp only [selectAll, noHeading, noBody, headings, bodies, List.nil_append, and_self]
  · intro style
    simp only [selectAll, shows.boxless style, body.boxless style, List.nil_append, and_self]

theorem body_map {Item : Type} (line : Item → Node) (cells : Item → List Text)
    (shows : ∀ item, Shows (line item) (cells item)) (items : List Item) :
    Body (items.map line) (items.map cells) := by
  induction items with
  | nil => exact body_nil
  | cons item rest ih => exact body_cons (shows item) ih

theorem fmt_clock_total (t : SystemTime) : fmtClock t = some (clock (unixSecs t % 86400)) := by
  have fits := unix_secs_in t
  have remIs : CheckedInts.remEuclid (unixSecs t) 86400 = some (unixSecs t % 86400) := by
    rw [CheckedInts.remEuclid, if_neg (by decide)]
    exact CheckedInts.fitted_exact _ ⟨by omega, by omega⟩
  rw [fmtClock, remIs]
  rfl

/-- The texts of a row of the Query log. -/
def cells (e : Entry) : List Text :=
  [clock (unixSecs e.time % 86400), display.client e.client, display.name e.name,
   display.qtype e.qtype, rcodeLabel display e.rcode, cacheLabel e.cache, label e.outcome,
   display.ms e.latency]

@[simp]
theorem select_badge (wanted : Tag) (family style shown : Text) (other : wanted ≠ .span) :
    (badge family style shown).select (is wanted) = [] := by
  simp [badge, Ne.symm other]

theorem row_shows (e : Entry) :
    ∃ line, row display e = some line ∧ Shows line (cells display e) := by
  refine ⟨_, by rw [row, fmt_clock_total, Option.map_some], ?_⟩
  constructor
  · simp [badge]
  · simp
  · simp [selectAll, badge]
  · simp [selectAll, badge]
  · simp [selectAll, contents, badge, cells]

theorem rows_shown (entries : List Entry) :
    ∃ lines, entries.mapM (row display) = some lines ∧
      Body lines (entries.map (cells display)) := by
  induction entries with
  | nil => exact ⟨[], rfl, body_nil⟩
  | cons e rest ih =>
      obtain ⟨line, lineIs, shows⟩ := row_shows display e
      obtain ⟨lines, linesAre, body⟩ := ih
      exact ⟨line :: lines, by simp [lineIs, linesAre], body_cons shows body⟩

/-- What stands in a panel under its heading. -/
structure Inside (inside : List Node) (table : List (List Text)) : Prop where
  proper : Proper inside
  plain : selectAll (is .h2) inside = []
  table : bodyRows inside = table

/-- A page and the panels it is read as. -/
structure Reads (nodes : List Node) (shown : List Panel) : Prop where
  proper : Proper nodes
  elements : ∀ node ∈ nodes, isText node = false
  shown : panels nodes = shown

theorem panels_append (front back : List Node) :
    panels (front ++ back) = panels front ++ panels back := by
  rw [panels, select_append, List.map_append]
  rfl

theorem reads_append {front back : List Node} {left right : List Panel} (first : Reads front left)
    (second : Reads back right) : Reads (front ++ back) (left ++ right) where
  proper := proper_row front back
    (fun node listed => proper_single first.proper node listed) first.elements second.proper
  elements node listed :=
    (List.mem_append.mp listed).elim (first.elements node) (second.elements node)
  shown := by rw [panels_append, first.shown, second.shown]

/-- A panel and what follows it. -/
theorem reads_panel {node : Node} {rest : List Node} {one : Panel} {more : List Panel}
    (first : Reads [node] [one]) (second : Reads rest more) : Reads (node :: rest) (one :: more) :=
  reads_append first second

theorem reads_plain {node : Node} {rest : List Node} {more : List Panel}
    (first : Reads [node] []) (second : Reads rest more) : Reads (node :: rest) more :=
  reads_append first second

theorem panel_reads (heading : Text) (inside : List Node) (table : List (List Text))
    (holds : Inside inside table) : Reads [panel heading inside] [⟨heading, table⟩] := by
  constructor
  · simp [panel, holds.proper]
  · simp [panel]
  · have table := holds.table
    simp only [bodyRows] at table
    simp [panels, panel, selectAll, holds.plain, bodyRows, contents, table]

theorem plain_reads (nodes : List Node) (proper : Proper nodes)
    (elements : ∀ node ∈ nodes, isText node = false) (none : selectAll isPanel nodes = []) :
    Reads nodes [] where
  proper := proper
  elements := elements
  shown := by
    rw [panels, none]
    rfl

theorem grid_reads (nodes : List Node) (shown : List Panel) (reads : Reads nodes shown) :
    Reads [styled .div "grid".toList nodes] shown where
  proper := by simp [reads.proper]
  elements := by simp
  shown := by
    rw [← reads.shown, panels, panels, selectAll, wears_styled, if_neg (by simp), selectAll,
      List.append_nil]

theorem count_row_shows (cell : List Node → Node)
    (cells : ∃ style, cell = bare .td ∨ cell = styled .td style) (entry : Text × Nat) :
    Shows (countRow cell entry) [entry.1, Nat.toDigits 10 entry.2] := by
  obtain ⟨style, rfl | rfl⟩ := cells <;> constructor <;>
    simp [countRow, selectAll]

theorem kv_inside (cell : List Node → Node)
    (cells : ∃ style, cell = bare .td ∨ cell = styled .td style) (rows : List (Text × Nat)) :
    Inside [kvTable cell rows] (rows.map fun entry => [entry.1, Nat.toDigits 10 entry.2]) := by
  have body := body_map (countRow cell) (fun entry => [entry.1, Nat.toDigits 10 entry.2])
    (count_row_shows cell cells) rows
  unfold kvTable
  split
  · rename_i empty
    subst empty
    constructor <;> simp [nothingYet, selectAll, bodyRows]
  · constructor
    · simp [body.proper]
    · simp [-String.reduceToList, selectAll, body.plain]
    · rw [← body.rows]
      simp [bodyRows, selectAll]

end Shown

end Dnsix.Dashboard
