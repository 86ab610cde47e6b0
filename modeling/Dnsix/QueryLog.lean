import Dnsix.ChainContract
import Dnsix.RequestRuns

/-!
What the Query log says about each request. The entry of a request names the RCODE of
its response and how the response came about. On every exit but one it does: when no
upstream answers a passthrough query, the client gets SERVFAIL and the entry says that
the query was relayed.
-/

namespace Dnsix.QueryLog
open Counters Dns Handler RequestRuns Synth SynthChain Transition

variable {text : NameText} {World : Type}

/-! What a truthful entry says. -/
section Truth

/-- The response carries the records of the synthesizer, first among its answers. -/
def Carries (h : Handling text) (response : Message) (id : String) : Prop :=
  ∃ records, h.winner = some (id, records) ∧ records ≠ [] ∧ records <+: response.answers

/-- The response is what the pool returned, with an AAAA record in it. -/
def RelaysNative (h : Handling text) (response : Message) : Prop :=
  ∃ resp, h.lookup = some (some resp) ∧ response = relay h.request resp ∧
    hasNativeAaaa response = true

structure Truthful (h : Handling text) (response : Message) (rcode : ResponseCode)
    (outcome : Outcome) : Prop where
  rcode : rcode = response.responseCode
  servFail : outcome = .ServFail ↔ response.responseCode = .ServFail ∧ h.lookup = some none
  blocked : outcome = .Blocked ↔ h.route = some .blocked
  refused : outcome = .Refused ↔ h.route = some .refused
  native : outcome = .NativeAaaa ↔ h.route = some .dns64 ∧ RelaysNative h response
  synthesized : ∀ id, outcome = .Synthesized id ↔ Carries h response id

/-- No upstream answered the query of a passthrough request. -/
def Unanswered (h : Handling text) : Prop :=
  h.route = some .passthrough ∧ h.lookup = some none

end Truth

/-! What is known of a request wherever it stands. -/
section Invariant

def Told (h : Handling text) (response : Message) (rcode : ResponseCode) (outcome : Outcome) :
    Prop :=
  WellFormed h.request ∧ rcode = response.responseCode ∧
    (Truthful h response rcode outcome ↔ ¬Unanswered h)

/-- Nothing is logged before a request is finished. -/
def Known (h : Handling text) (entries : List LogRecord) : Prop :=
  match h.place with
  | .received => entries = [] ∧ h.lookup = none ∧ h.winner = none
  | .gating _ => entries = [] ∧ WellFormed h.request ∧ h.lookup = none ∧ h.winner = none
  | .joining _ =>
      entries = [] ∧ WellFormed h.request ∧ h.route = some .dns64 ∧ h.lookup = none ∧
        h.winner = none
  | .observing _ =>
      entries = [] ∧ WellFormed h.request ∧ h.route = some .passthrough ∧ h.lookup = none ∧
        h.winner = none
  | .trying _ aaaa _ _ _ =>
      entries = [] ∧ WellFormed h.request ∧ h.route = some .dns64 ∧
        h.lookup = some (some aaaa) ∧ hasNativeAaaa aaaa = false ∧ h.winner = none
  | .won _ _ _ id records =>
      entries = [] ∧ WellFormed h.request ∧ h.route = some .dns64 ∧
        (∃ aaaa, h.lookup = some (some aaaa) ∧ hasNativeAaaa aaaa = false) ∧
        h.winner = some (id, records) ∧ records ≠ []
  | .closing _ response obs => entries = [] ∧ Told h response obs.rcode obs.outcome
  | .decided _ none => entries = [] ∧ ¬WellFormed h.request
  | .decided response (some (_, obs)) => entries = [] ∧ Told h response obs.rcode obs.outcome
  | .finished response =>
      (WellFormed h.request →
        ∃ entry, entries = [entry] ∧ Told h response entry.rcode entry.outcome) ∧
      (¬WellFormed h.request → entries = [])

theorem told_truthful (h : Handling text) (response : Message) (rcode : ResponseCode)
    (outcome : Outcome) (fit : WellFormed h.request) (answered : ¬Unanswered h)
    (truthful : Truthful h response rcode outcome) : Told h response rcode outcome :=
  ⟨fit, truthful.rcode, iff_of_true truthful answered⟩

/-- What is told of a request does not depend on where it stands. -/
theorem told_place (h : Handling text) (place : Place text) (made : List Bump)
    (response : Message) (rcode : ResponseCode) (outcome : Outcome)
    (told : Told h response rcode outcome) :
    Told { h with place, made } response rcode outcome := by
  obtain ⟨fit, same, exact⟩ := told
  refine ⟨fit, same, Iff.trans ?_ exact⟩
  constructor
  · rintro ⟨rcode, servFail, blocked, refused, native, synthesized⟩
    exact ⟨rcode, servFail, blocked, refused, native, synthesized⟩
  · rintro ⟨rcode, servFail, blocked, refused, native, synthesized⟩
    exact ⟨rcode, servFail, blocked, refused, native, synthesized⟩

/-- An error response tells of a gate, or of a failed lookup. -/
theorem error_truthful (h : Handling text) (code : ResponseCode) (outcome : Outcome)
    (unwon : h.winner = none) (unlooked : ∀ resp, h.lookup ≠ some (some resp))
    (servFail : outcome = .ServFail ↔ code = .ServFail ∧ h.lookup = some none)
    (blocked : outcome = .Blocked ↔ h.route = some .blocked)
    (refused : outcome = .Refused ↔ h.route = some .refused)
    (local_ : outcome = .ServFail ∨ outcome = .Blocked ∨ outcome = .Refused) :
    Truthful h (serveError h.request code) code outcome := by
  refine ⟨rfl, servFail, blocked, refused, ?_, ?_⟩
  · have other : outcome ≠ .NativeAaaa := by
      rintro rfl
      simp at local_
    refine iff_of_false other ?_
    rintro ⟨_, resp, looked, _⟩
    exact unlooked resp looked
  · intro id
    have other : outcome ≠ .Synthesized id := by
      rintro rfl
      simp at local_
    refine iff_of_false other ?_
    rintro ⟨records, won, _⟩
    rw [unwon] at won
    cases won

/-- A relayed response tells of the gates it passed, and on the DNS64 path of its AAAA
records. -/
theorem relay_truthful (h : Handling text) (resp : Message) (outcome : Outcome)
    (looked : h.lookup = some (some resp)) (unwon : h.winner = none)
    (passed : h.route = some .dns64 ∨ h.route = some .passthrough)
    (native : outcome = .NativeAaaa ↔ h.route = some .dns64 ∧ hasNativeAaaa resp = true)
    (relayed : outcome = .NativeAaaa ∨ outcome = .Nxdomain ∨ outcome = .EmptyNodata ∨
      outcome = .Passthrough) :
    Truthful h (relay h.request resp) resp.responseCode outcome := by
  have same : RelaysNative h (relay h.request resp) ↔ hasNativeAaaa resp = true := by
    constructor
    · rintro ⟨_, _, _, has⟩
      exact has
    · intro has
      exact ⟨resp, looked, rfl, has⟩
  constructor
  · rfl
  · rcases relayed with rfl | rfl | rfl | rfl <;> simp [looked]
  · rcases relayed with rfl | rfl | rfl | rfl <;> rcases passed with routed | routed <;>
      simp [routed]
  · rcases relayed with rfl | rfl | rfl | rfl <;> rcases passed with routed | routed <;>
      simp [routed]
  · rw [native, same]
  · intro id
    rcases relayed with rfl | rfl | rfl | rfl <;> simp [Carries, unwon]

/-- A synthesized response tells of the synthesizer that won. -/
theorem synthesized_truthful (h : Handling text) (aaaa : Message) (id : String)
    (records extra : List Record) (looked : h.lookup = some (some aaaa))
    (hasNo : hasNativeAaaa aaaa = false) (routed : h.route = some .dns64)
    (won : h.winner = some (id, records)) (some_ : records ≠ []) :
    Truthful h (sendSynthesized h.request (records ++ extra)) .NoError (.Synthesized id) := by
  constructor
  · rfl
  · simp [looked]
  · simp [routed]
  · simp [routed]
  · refine iff_of_false Outcome.noConfusion ?_
    rintro ⟨_, resp, found, built, has⟩
    rw [looked] at found
    cases found
    rw [built] at has
    exact Bool.noConfusion (hasNo.symm.trans has)
  · intro other
    constructor
    · rintro ⟨rfl⟩
      exact ⟨records, won, some_, List.prefix_append records extra⟩
    · rintro ⟨_, found, _⟩
      rw [won] at found
      cases found
      rfl

/-- An answer relayed on the DNS64 path. -/
theorem told_relayed (h : Handling text) (aaaa : Message) (outcome : Outcome)
    (fit : WellFormed h.request) (routed : h.route = some .dns64)
    (looked : h.lookup = some (some aaaa)) (unwon : h.winner = none)
    (native : outcome = .NativeAaaa ↔ hasNativeAaaa aaaa = true)
    (relayed : outcome = .NativeAaaa ∨ outcome = .Nxdomain ∨ outcome = .EmptyNodata ∨
      outcome = .Passthrough) :
    Told h (relay h.request aaaa) aaaa.responseCode outcome := by
  refine told_truthful h _ _ _ fit ?_
    (relay_truthful h aaaa outcome looked unwon (.inl routed) ?_ relayed)
  · simp [Unanswered, routed]
  · simpa only [routed, true_and] using native

/-- What each step of a request makes of what is known of it. -/
theorem known_moved (handler : Dns64Handler text) (dashboard : handler.queryLog = true)
    (h : Handling text) (entries : List LogRecord) (event : Event World)
    (progress : Progress text) (known : Known h entries)
    (moved : Moved handler h event progress) :
    Known progress.handling (entries ++ progress.logged.toList) := by
  cases moved with
  | malformed code placed unfit =>
      simp only [Known, placed] at known
      obtain ⟨rfl, _⟩ := known
      exact ⟨rfl, unfit⟩
  | received query placed fit asked =>
      simp only [Known, placed] at known
      obtain ⟨rfl, untouched⟩ := known
      exact ⟨rfl, fit, untouched⟩
  | refused query placed sent | blocked query placed sent =>
      simp only [Known, placed] at known
      obtain ⟨rfl, fit, unlooked, unwon⟩ := known
      refine ⟨rfl, told_truthful _ _ _ _ fit ?_ (error_truthful _ _ _ unwon ?_ ?_ ?_ ?_ ?_)⟩ <;>
        simp [Unanswered, Handling.counting, unlooked]
  | routed query placed sent | passedOn query placed sent =>
      simp only [Known, placed] at known
      obtain ⟨rfl, fit, untouched⟩ := known
      exact ⟨rfl, fit, rfl, untouched⟩
  -- The DNS64 path.
  | failed query cache aRes placed =>
      simp only [Known, placed] at known
      obtain ⟨rfl, fit, routed, _, unwon⟩ := known
      refine ⟨rfl, told_truthful _ _ _ _ fit ?_ (error_truthful _ _ _ unwon ?_ ?_ ?_ ?_ ?_)⟩ <;>
        simp [Unanswered, Handling.counting, routed]
  | native query aaaa cache aRes placed has =>
      simp only [Known, placed] at known
      obtain ⟨rfl, fit, routed, _, unwon⟩ := known
      exact ⟨rfl, told_relayed _ aaaa _ fit routed rfl unwon (by simp [has]) (by simp)⟩
  | missing query aaaa cache aRes placed hasNo code =>
      simp only [Known, placed] at known
      obtain ⟨rfl, fit, routed, _, unwon⟩ := known
      exact ⟨rfl, code ▸ told_relayed _ aaaa _ fit routed rfl unwon (by simp [hasNo]) (by simp)⟩
  | errored query aaaa cache aRes placed hasNo _ _ =>
      simp only [Known, placed] at known
      obtain ⟨rfl, fit, routed, _, unwon⟩ := known
      exact ⟨rfl, told_relayed _ aaaa _ fit routed rfl unwon (by simp [hasNo]) (by simp)⟩
  | nodata query aaaa cache aRes placed hasNo code =>
      simp only [Known, placed] at known
      obtain ⟨rfl, fit, routed, _, unwon⟩ := known
      exact ⟨rfl, fit, routed, rfl, hasNo, unwon⟩
  -- The passthrough path.
  | relayed query resp cache placed =>
      simp only [Known, placed] at known
      obtain ⟨rfl, fit, routed, _, unwon⟩ := known
      refine ⟨rfl, told_truthful _ _ _ _ fit ?_
        (relay_truthful _ resp _ rfl unwon (.inr routed) ?_ (by simp))⟩ <;>
        simp [Unanswered, Handling.counting, routed]
  | unanswered query cache placed =>
      simp only [Known, placed] at known
      obtain ⟨rfl, fit, routed, _, _⟩ := known
      refine ⟨rfl, fit, rfl, iff_of_false ?_ (not_not_intro ⟨routed, rfl⟩)⟩
      -- SERVFAIL goes out because nothing answered, and the entry says it was relayed.
      intro truthful
      exact Outcome.noConfusion (truthful.servFail.mpr ⟨rfl, rfl⟩)
  -- The chain.
  | missed query aaaa cache ctx synth rest resolve world placed =>
      simp only [Known, placed] at known
      obtain ⟨rfl, unmoved⟩ := known
      exact ⟨rfl, unmoved⟩
  | hit query aaaa cache ctx synth rest resolve world records placed some_ =>
      simp only [Known, placed] at known
      obtain ⟨rfl, fit, routed, looked, hasNo, _⟩ := known
      exact ⟨rfl, fit, routed, ⟨aaaa, looked, hasNo⟩, rfl, some_⟩
  | empty query aaaa cache ctx placed =>
      simp only [Known, placed] at known
      obtain ⟨rfl, fit, routed, looked, hasNo, unwon⟩ := known
      exact ⟨rfl, told_place h _ _ _ _ _
        (told_relayed h aaaa _ fit routed looked unwon (by simp [hasNo]) (by simp))⟩
  | appended query cache ctx id records extra resolve world placed =>
      simp only [Known, placed] at known
      obtain ⟨rfl, fit, routed, ⟨aaaa, looked, hasNo⟩, won, some_⟩ := known
      refine ⟨rfl, told_place h _ _ _ _ _ (told_truthful h _ _ _ fit ?_
        (synthesized_truthful h aaaa id records extra looked hasNo routed won some_))⟩
      simp [Unanswered, routed]
  -- The end.
  | counted query response obs placed =>
      simp only [Known, placed] at known
      obtain ⟨rfl, told⟩ := known
      exact ⟨rfl, told_place h _ _ _ _ _ told⟩
  | finished response due placed =>
      cases due with
      | none =>
          simp only [Known, placed] at known
          obtain ⟨rfl, unfit⟩ := known
          exact ⟨fun fit => absurd fit unfit, fun _ => rfl⟩
      | some entry =>
          simp only [Known, placed] at known
          obtain ⟨rfl, told⟩ := known
          refine ⟨fun _ => ?_, fun unfit => absurd told.1 unfit⟩
          refine ⟨⟨h.request.src, entry.1.name, entry.1.queryType, entry.2.rcode,
            entry.2.cache, entry.2.outcome⟩, ?_, told_place h _ _ _ _ _ told⟩
          simp [Handling.finish, Dns64Handler.log, dashboard]

/-- The route of a request with one question is the one its gates send it. -/
def Routed (handler : Dns64Handler text) (h : Handling text) : Prop :=
  ∃ query, h.request.message.queries = [query] ∧ h.route = some (sentTo handler h.request query)

def Passed (handler : Dns64Handler text) (h : Handling text) : Prop :=
  match h.place with
  | .received => True
  | .gating query => h.request.message.queries = [query]
  | _ => WellFormed h.request → Routed handler h

theorem passed_moved (handler : Dns64Handler text) (h : Handling text) (event : Event World)
    (progress : Progress text) (passed : Passed handler h)
    (moved : Moved handler h event progress) : Passed handler progress.handling := by
  cases moved with
  | malformed code placed unfit => exact fun fit => absurd fit unfit
  | received query placed fit asked => exact asked
  | refused query placed sent | blocked query placed sent | routed query placed sent
  | passedOn query placed sent =>
      simp only [Passed, placed] at passed
      exact fun _ => ⟨query, passed, congrArg some sent.symm⟩
  | failed _ _ _ placed | native _ _ _ _ placed | missing _ _ _ _ placed
  | errored _ _ _ _ placed | nodata _ _ _ _ placed | relayed _ _ _ placed
  | unanswered _ _ placed | missed _ _ _ _ _ _ _ _ placed | hit _ _ _ _ _ _ _ _ _ placed
  | empty _ _ _ _ placed | appended _ _ _ _ _ _ _ _ placed | counted _ _ _ placed
  | finished _ _ placed =>
      simp only [Passed, placed] at passed
      exact passed

/-- No answer is missed but where the pool returns nothing on the passthrough path. -/
theorem unanswered_moved (handler : Dns64Handler text) (h : Handling text)
    (entries : List LogRecord) (event : Event World) (progress : Progress text)
    (known : Known h entries) (moved : Moved handler h event progress) :
    Unanswered progress.handling ↔ Unanswered h ∨ ∃ cache, event = .observed none cache := by
  cases moved with
  | malformed _ placed | received _ placed | counted _ _ _ placed | finished _ _ placed
  | missed _ _ _ _ _ _ _ _ placed | hit _ _ _ _ _ _ _ _ _ placed | empty _ _ _ _ placed
  | appended _ _ _ _ _ _ _ _ placed => simp [Unanswered, Handling.counting, Handling.moving,
      Handling.finish]
  | refused _ placed | blocked _ placed | routed _ placed | passedOn _ placed =>
      simp only [Known, placed] at known
      simp [Unanswered, Handling.counting, known]
  | failed _ _ _ placed | native _ _ _ _ placed | missing _ _ _ _ placed
  | errored _ _ _ _ placed | nodata _ _ _ _ placed =>
      simp only [Known, placed] at known
      simp [Unanswered, Handling.counting, known]
  | relayed _ _ _ placed =>
      simp only [Known, placed] at known
      simp [Unanswered, Handling.counting, known]
  | unanswered _ _ placed =>
      simp only [Known, placed] at known
      simp [Unanswered, Handling.counting, known]

end Invariant

/-! The entries of a run. -/
section Runs

/-- What a run knows of one of its requests, from the events of that request alone. -/
structure Traced (handler : Dns64Handler text) (events : List (Event World)) (h : Handling text)
    (entries : List LogRecord) : Prop where
  known : Known h entries
  passed : Passed handler h
  unanswered : Unanswered h ↔ ∃ cache, Event.observed none cache ∈ events

theorem traced_run (handler : Dns64Handler text) (dashboard : handler.queryLog = true)
    (metrics : Metrics) (actions : List (Action World)) (after : State text)
    (run : Run (step handler) anyAction (State.new text metrics) actions after)
    (id : Nat) (h : Handling text) (present : after.handlings[id]? = some h) :
    Traced handler ((requests text World).eventsOf id actions) h (entriesOf after id) := by
  refine request_run (motive := Traced handler) ?_ ?_ metrics actions after run id h present
  · intro request
    exact ⟨⟨rfl, rfl, rfl⟩, trivial, by simp [Unanswered, Handling.new]⟩
  · intro front h entries event progress traced moved
    refine ⟨known_moved handler dashboard h entries event progress traced.known moved,
      passed_moved handler h event progress traced.passed moved, ?_⟩
    rw [unanswered_moved handler h entries event progress traced.known moved,
      traced.unanswered]
    simp only [List.mem_append, List.mem_singleton, exists_or]
    exact or_congr_right (exists_congr fun cache => eq_comm)

/-- A well-formed request comes to its end within a bounded number of steps. It leaves no
entry before that and exactly one then, and the entry tells the truth exactly when the pool
did not return nothing to the request on the passthrough path. -/
theorem query_log_truthful_iff [Inhabited World] (handler : Dns64Handler text)
    (dashboard : handler.queryLog = true) (metrics : Metrics) (actions : List (Action World))
    (after : State text)
    (run : Run (step handler) anyAction (State.new text metrics) actions after)
    (id : Nat) (h : Handling text) (present : after.handlings[id]? = some h)
    (fit : WellFormed h.request) :
    ((requests text World).eventsOf id actions).length ≤ handler.chain.synths.length + 7 ∧
    (∀ ids nat64Prefix ttlCap nat64Fallback,
      Chain.build text ids nat64Prefix ttlCap nat64Fallback = .ok handler.chain →
      Cdn.AcceptsConstants text → Finishes World handler after id h) ∧
    ((∀ response, h.place ≠ .finished response) → entriesOf after id = []) ∧
    ∀ response, h.place = .finished response →
      Routed handler h ∧
      ∃ entry, entriesOf after id = [entry] ∧ entry.rcode = response.responseCode ∧
        (Truthful h response entry.rcode entry.outcome ↔
          ∀ cache, Action.advance id (.observed none cache) ∉ actions) := by
  obtain ⟨known, passed, unanswered⟩ :=
    traced_run handler dashboard metrics actions after run id h present
  refine ⟨?_, ?_, ?_, ?_⟩
  · exact (Nat.le_add_right _ _).trans (steps_bounded metrics actions after run id h present)
  · intro ids nat64Prefix ttlCap nat64Fallback accepted accepts
    have built := ChainContract.build_built ids nat64Prefix ttlCap nat64Fallback _ accepted
    refine finishes_run ?_ metrics actions after run id h present
    intro synth listed ctx
    exact ChainContract.make_synthesizer_completes accepts _ _ synth (built.made synth listed) ctx
  · intro unfinished
    cases placed : h.place with
    | finished response => exact absurd placed (unfinished response)
    | decided response due =>
        cases due with
        | none =>
            simp only [Known, placed] at known
            exact known.1
        | some entry =>
            simp only [Known, placed] at known
            exact known.1
    | _ =>
        simp only [Known, placed] at known
        exact known.1
  · intro response finished
    simp only [Known, finished] at known
    simp only [Passed, finished] at passed
    obtain ⟨entry, single, _, same, exact⟩ := known.1 fit
    refine ⟨passed fit, entry, single, same, exact.trans ?_⟩
    simp only [unanswered, mem_request_events, not_exists]

/-! An A query, which the pool answers or does not. -/
def sampleHandler : Dns64Handler plainText :=
  { chain := ⟨[], none, none⟩, queryLog := true, blocklist := none, clientAcl := none }

def sampleRequest : Request :=
  ⟨{ Pool.sampleQuery with queries := [{ Pool.sampleQuestion with queryType := .A }] }, .V6 1⟩

def sampleActions (resp : Option Message) : List (Action Unit) :=
  [.arrive sampleRequest, .advance 0 .proceed, .advance 0 .proceed,
    .advance 0 (.observed resp .Miss), .advance 0 .proceed]

def sampleHandled (resp : Option Message) : Handling plainText :=
  { request := sampleRequest, route := some .passthrough, lookup := some resp, winner := none
    place := .finished (resp.elim (serveFail sampleRequest) (relay sampleRequest))
    made := [.qtype .A, .queriesPassthrough,
      .rcode (resp.elim .ServFail Message.responseCode)] }

def sampleEntry (resp : Option Message) : LogRecord :=
  { client := .V6 1, name := Pool.sampleName, qtype := .A
    rcode := resp.elim .ServFail Message.responseCode, cache := .Miss, outcome := .Passthrough }

theorem sample_run (resp : Option Message) :
    ∃ after, Run (step sampleHandler) anyAction (State.new plainText (Metrics.new []))
        (sampleActions resp) after ∧
      after.handlings = [sampleHandled resp] ∧ after.log = [(0, sampleEntry resp)] := by
  cases resp <;> exact ⟨_, exec_run rfl, rfl, rfl⟩

theorem query_log_truthful_iff_answered :
    ∃ (after : State plainText) (entry : LogRecord), entriesOf after 0 = [entry] ∧
      Truthful (sampleHandled (some Pool.sampleQuery)) (relay sampleRequest Pool.sampleQuery)
        entry.rcode entry.outcome := by
  obtain ⟨after, run, handled, _⟩ := sample_run (some Pool.sampleQuery)
  have fit : WellFormed (sampleHandled (some Pool.sampleQuery)).request := ⟨rfl, rfl, _, rfl⟩
  have present : after.handlings[0]? = some (sampleHandled (some Pool.sampleQuery)) := by
    rw [handled]
    rfl
  obtain ⟨_, _, _, ended⟩ := query_log_truthful_iff sampleHandler rfl (Metrics.new [])
    (sampleActions (some Pool.sampleQuery)) after run 0 _ present fit
  obtain ⟨_, entry, single, _, exact⟩ := ended _ rfl
  refine ⟨after, entry, single, exact.mpr ?_⟩
  simp [sampleActions]

/-- The client gets SERVFAIL for want of any answer, and the entry says `Passthrough`. -/
theorem failed_passthrough_mislogged :
    ∃ after, Run (step sampleHandler) anyAction (State.new plainText (Metrics.new []))
        (sampleActions none) after ∧
      after.handlings = [sampleHandled none] ∧ entriesOf after 0 = [sampleEntry none] ∧
      (serveFail sampleRequest).responseCode = .ServFail ∧
      (sampleHandled none).lookup = some none ∧ (sampleEntry none).outcome = .Passthrough ∧
      ¬Truthful (sampleHandled none) (serveFail sampleRequest) (sampleEntry none).rcode
        (sampleEntry none).outcome := by
  obtain ⟨after, run, handled, logged⟩ := sample_run none
  refine ⟨after, run, handled, ?_, rfl, rfl, rfl, ?_⟩
  · rw [entriesOf, logged]
    rfl
  · intro truthful
    exact Outcome.noConfusion (truthful.servFail.mpr ⟨rfl, rfl⟩)

end Runs

end Dnsix.QueryLog
