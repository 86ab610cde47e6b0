import Dnsix.Handler
import Dnsix.Processes

/-!
Any number of requests handled at once. One step takes a request from one increment
of the counters to the next, or past one synthesizer of the chain: what it does in
between touches nothing that requests share. The lookups it waits for return
anything, each time anew.
-/

namespace Dnsix.RequestRuns
open Counters Dns Handler Panics Processes Synth SynthChain Transition
open Pool (CacheStatus)

variable {text : NameText} {World : Type}

/-! The state. -/
section States

/-- One atomic increment of the counters. -/
inductive Bump where
  | rcode (code : ResponseCode)
  | qtype (rt : RecordType)
  | queriesDns64 | queriesPassthrough | blocked
  | nativeAaaa | nxdomain64 | nodata | synthesized | empty
  | synthHit (id : String)
  deriving DecidableEq

def Bump.apply : Bump → Metrics → Metrics
  | .rcode code, m => m.recordRcode code
  | .qtype rt, m => m.recordQtype rt
  | .queriesDns64, m => m.incQueriesDns64
  | .queriesPassthrough, m => m.incQueriesPassthrough
  | .blocked, m => m.incBlocked
  | .nativeAaaa, m => m.incNativeAaaa
  | .nxdomain64, m => m.incNxdomain64
  | .nodata, m => m.incNodata
  | .synthesized, m => m.incSynthesized
  | .empty, m => m.incEmpty
  | .synthHit id, m => m.synthHit id

/-- Where the gates send a request. -/
inductive Route where
  | refused | blocked | dns64 | passthrough
  deriving DecidableEq

/-- The access list comes first, then the blocklist. -/
def sentTo (handler : Dns64Handler text) (request : Request) (query : Query) : Route :=
  if handler.refuses request then .refused
  else if handler.blocks query.name then .blocked
  else if isDns64 request query then .dns64
  else .passthrough

variable (text) in
/-- Where a request stands, with the local values it still needs. -/
inductive Place where
  | received
  | gating (query : Query)
  | joining (query : Query)
  | observing (query : Query)
  | trying (query : Query) (aaaa : Message) (cache : CacheStatus) (ctx : SynthContext text)
      (rest : List (Synthesizer text))
  /-- Between the synthesizer's hit and the count of synthesized answers. -/
  | won (query : Query) (cache : CacheStatus) (ctx : SynthContext text) (id : String)
      (records : List Record)
  /-- The branch is counted, its RCODE is not. -/
  | closing (query : Query) (response : Message) (obs : Observation)
  | decided (response : Message) (due : Option (Query × Observation))
  | finished (response : Message)

variable (text) in
/-- A request being handled. What the gates, the pool and the chain did with it stays
written down, and so do the increments it made. -/
structure Handling where
  request : Request
  route : Option Route
  lookup : Option (Option Message)
  winner : Option (String × List Record)
  place : Place text
  made : List Bump

variable (text) in
def Handling.new (request : Request) : Handling text :=
  { request, route := none, lookup := none, winner := none, place := .received, made := [] }

/-- What `handle_request` takes for a standard query with one question. -/
def WellFormed (request : Request) : Prop :=
  request.message.header.opCode = .Query ∧ request.message.header.messageType = .Query ∧
    ∃ query, request.message.queries = [query]

variable (text) in
/-- The entries of the Query log stand behind the number of their request. -/
structure State where
  metrics : Metrics
  handlings : List (Handling text)
  log : List (Nat × LogRecord)

variable (text) in
def State.new (metrics : Metrics) : State text := { metrics, handlings := [], log := [] }

end States

/-! The steps. -/
section Steps

/-- What a request goes on with: nothing, or what a lookup returned. -/
inductive Event (World : Type) where
  | proceed
  | joined (aaaaRes : Option Message) (cache : CacheStatus) (aRes : Option Message)
  | observed (resp : Option Message) (cache : CacheStatus)
  | tried (resolve : Resolver World) (world : World)
  | appended (resolve : Resolver World) (world : World)

inductive Action (World : Type) where
  | arrive (request : Request)
  | advance (id : Nat) (event : Event World)

variable (text) in
/-- What one step of a request does to what requests share, and where it leads. -/
structure Progress where
  bump : Option Bump
  logged : Option LogRecord
  handling : Handling text

def Handling.counting (h : Handling text) (bump : Bump) (place : Place text) : Progress text :=
  { bump := some bump, logged := none, handling := { h with place, made := h.made ++ [bump] } }

def Handling.moving (h : Handling text) (place : Place text) : Progress text :=
  { bump := none, logged := none, handling := { h with place } }

/-- The checks of `handle_request` before it knows the query. -/
def Handling.receive (h : Handling text) : Progress text :=
  if h.request.message.header.opCode ≠ .Query ∨ h.request.message.header.messageType ≠ .Query then
    h.counting (.rcode .NotImp) (.decided (serveError h.request .NotImp) none)
  else
    match h.request.message.queries with
    | [query] => h.counting (.qtype query.queryType) (.gating query)
    | _ => h.counting (.rcode .FormErr) (.decided (serveError h.request .FormErr) none)

def Handling.pass (handler : Dns64Handler text) (h : Handling text) (query : Query) :
    Progress text :=
  let route := sentTo handler h.request query
  let h := { h with route := some route }
  match route with
  | .refused =>
      h.counting (.rcode .Refused) (.decided (serveError h.request .Refused)
        (some (query, ⟨.Refused, .Uncached, .Refused⟩)))
  | .blocked =>
      h.counting .blocked
        (.closing query (serveError h.request .NXDomain) ⟨.NXDomain, .Uncached, .Blocked⟩)
  | .dns64 => h.counting .queriesDns64 (.joining query)
  | .passthrough => h.counting .queriesPassthrough (.observing query)

/-- The branches of `handle_dns64`. -/
def Handling.branch (handler : Dns64Handler text) (h : Handling text) (query : Query)
    (aaaaRes : Option Message) (cache : CacheStatus) (aRes : Option Message) : Progress text :=
  let h := { h with lookup := some aaaaRes }
  match aaaaRes with
  | none =>
      h.counting (.rcode .ServFail)
        (.decided (serveFail h.request) (some (query, ⟨.ServFail, cache, .ServFail⟩)))
  | some aaaa =>
      if hasNativeAaaa aaaa then
        h.counting .nativeAaaa
          (.closing query (relay h.request aaaa) ⟨aaaa.responseCode, cache, .NativeAaaa⟩)
      else if aaaa.responseCode = .NXDomain then
        h.counting .nxdomain64
          (.closing query (relay h.request aaaa) ⟨.NXDomain, cache, .Nxdomain⟩)
      else if aaaa.responseCode ≠ .NoError then
        h.counting (.rcode aaaa.responseCode)
          (.decided (relay h.request aaaa)
            (some (query, ⟨aaaa.responseCode, cache, .Passthrough⟩)))
      else
        h.counting .nodata
          (.trying query aaaa cache (synthContext text query aaaa aRes) handler.chain.synths)

def Handling.forward (h : Handling text) (query : Query) (resp : Option Message)
    (cache : CacheStatus) : Progress text :=
  let h := { h with lookup := some resp }
  match resp with
  | some resp =>
      h.counting (.rcode resp.responseCode)
        (.decided (relay h.request resp) (some (query, ⟨resp.responseCode, cache, .Passthrough⟩)))
  | none =>
      h.counting (.rcode .ServFail)
        (.decided (serveFail h.request) (some (query, ⟨.ServFail, cache, .Passthrough⟩)))

/-- The loop body of `synthesize`, up to the hit. A `detect` that panics never returns. -/
def Handling.attempt (handler : Dns64Handler text) (h : Handling text) (query : Query)
    (aaaa : Message) (cache : CacheStatus) (ctx : SynthContext text) (synth : Synthesizer text)
    (rest : List (Synthesizer text)) (resolve : Resolver World) (world : World) :
    Option (Progress text) :=
  match synth.detect ctx with
  | .error _ => none
  | .ok none => some (h.moving (.trying query aaaa cache ctx rest))
  | .ok (some plan) =>
      match (handler.chain.runPlan resolve plan ctx world).1 with
      | some records =>
          some ({ h with winner := some (synth.id, records) }.counting (.synthHit synth.id)
            (.won query cache ctx synth.id records))
      | none => some (h.moving (.trying query aaaa cache ctx rest))

/-- The end of `handle_request`: the entry is captured and the response goes out. -/
def Handling.finish (handler : Dns64Handler text) (h : Handling text) (response : Message)
    (due : Option (Query × Observation)) : Progress text :=
  { h.moving (.finished response) with
    logged := due.bind fun entry => handler.log h.request entry.1 entry.2 }

/-- The next step of a request, when the event is the one it waits for. -/
def Handling.next (handler : Dns64Handler text) (h : Handling text) (event : Event World) :
    Option (Progress text) :=
  match h.place, event with
  | .received, .proceed => some h.receive
  | .gating query, .proceed => some (h.pass handler query)
  | .joining query, .joined aaaaRes cache aRes => some (h.branch handler query aaaaRes cache aRes)
  | .observing query, .observed resp cache => some (h.forward query resp cache)
  | .trying query aaaa cache ctx (synth :: rest), .tried resolve world =>
      h.attempt handler query aaaa cache ctx synth rest resolve world
  | .trying query aaaa cache _ [], .proceed =>
      some (h.counting .empty
        (.closing query (relay h.request aaaa) ⟨aaaa.responseCode, cache, .EmptyNodata⟩))
  | .won query cache ctx id records, .appended resolve world =>
      let extra := (handler.chain.appended resolve ctx id world).1
      some (h.counting .synthesized
        (.closing query (sendSynthesized h.request (records ++ extra))
          ⟨.NoError, cache, .Synthesized id⟩))
  | .closing query response obs, .proceed =>
      some (h.counting (.rcode obs.rcode) (.decided response (some (query, obs))))
  | .decided response due, .proceed => some (h.finish handler response due)
  | _, _ => none

/-- Nothing moves a finished request. -/
example (handler : Dns64Handler text) (h : Handling text) (event : Event World)
    (response : Message) (placed : h.place = .finished response) : h.next handler event = none := by
  simp only [Handling.next, placed]

def State.progressed (state : State text) (id : Nat) (progress : Progress text) : State text :=
  { metrics := progress.bump.elim state.metrics fun bump => bump.apply state.metrics
    handlings := state.handlings.set id progress.handling
    log := state.log ++ progress.logged.toList.map fun entry => (id, entry) }

def step (handler : Dns64Handler text) : Action World → State text → Option (State text)
  | .arrive request, state =>
      some { state with handlings := state.handlings ++ [Handling.new text request] }
  | .advance id event, state => do
      let h ← state.handlings[id]?
      let progress ← h.next handler event
      some (state.progressed id progress)

end Steps

/-! What one step of a request can do, said once. -/
section Moves
variable {handler : Dns64Handler text}

variable (handler) in
inductive Moved (h : Handling text) : Event World → Progress text → Prop where
  | malformed (code : ResponseCode) (placed : h.place = .received)
      (unfit : ¬WellFormed h.request) :
      Moved h .proceed (h.counting (.rcode code) (.decided (serveError h.request code) none))
  | received (query : Query) (placed : h.place = .received) (fit : WellFormed h.request)
      (asked : h.request.message.queries = [query]) :
      Moved h .proceed (h.counting (.qtype query.queryType) (.gating query))
  -- The gates.
  | refused (query : Query) (placed : h.place = .gating query)
      (sent : sentTo handler h.request query = .refused) :
      Moved h .proceed ({ h with route := some .refused }.counting (.rcode .Refused)
        (.decided (serveError h.request .Refused)
          (some (query, ⟨.Refused, .Uncached, .Refused⟩))))
  | blocked (query : Query) (placed : h.place = .gating query)
      (sent : sentTo handler h.request query = .blocked) :
      Moved h .proceed ({ h with route := some .blocked }.counting .blocked
        (.closing query (serveError h.request .NXDomain) ⟨.NXDomain, .Uncached, .Blocked⟩))
  | routed (query : Query) (placed : h.place = .gating query)
      (sent : sentTo handler h.request query = .dns64) :
      Moved h .proceed ({ h with route := some .dns64 }.counting .queriesDns64 (.joining query))
  | passedOn (query : Query) (placed : h.place = .gating query)
      (sent : sentTo handler h.request query = .passthrough) :
      Moved h .proceed
        ({ h with route := some .passthrough }.counting .queriesPassthrough (.observing query))
  -- The lookups of `handle_dns64` return.
  | failed (query : Query) (cache : CacheStatus) (aRes : Option Message)
      (placed : h.place = .joining query) :
      Moved h (.joined none cache aRes)
        ({ h with lookup := some none }.counting (.rcode .ServFail)
          (.decided (serveFail h.request) (some (query, ⟨.ServFail, cache, .ServFail⟩))))
  | native (query : Query) (aaaa : Message) (cache : CacheStatus) (aRes : Option Message)
      (placed : h.place = .joining query) (has : hasNativeAaaa aaaa = true) :
      Moved h (.joined (some aaaa) cache aRes)
        ({ h with lookup := some (some aaaa) }.counting .nativeAaaa
          (.closing query (relay h.request aaaa) ⟨aaaa.responseCode, cache, .NativeAaaa⟩))
  | missing (query : Query) (aaaa : Message) (cache : CacheStatus) (aRes : Option Message)
      (placed : h.place = .joining query) (hasNo : hasNativeAaaa aaaa = false)
      (code : aaaa.responseCode = .NXDomain) :
      Moved h (.joined (some aaaa) cache aRes)
        ({ h with lookup := some (some aaaa) }.counting .nxdomain64
          (.closing query (relay h.request aaaa) ⟨.NXDomain, cache, .Nxdomain⟩))
  | errored (query : Query) (aaaa : Message) (cache : CacheStatus) (aRes : Option Message)
      (placed : h.place = .joining query) (hasNo : hasNativeAaaa aaaa = false)
      (exists_ : aaaa.responseCode ≠ .NXDomain) (wrong : aaaa.responseCode ≠ .NoError) :
      Moved h (.joined (some aaaa) cache aRes)
        ({ h with lookup := some (some aaaa) }.counting (.rcode aaaa.responseCode)
          (.decided (relay h.request aaaa)
            (some (query, ⟨aaaa.responseCode, cache, .Passthrough⟩))))
  | nodata (query : Query) (aaaa : Message) (cache : CacheStatus) (aRes : Option Message)
      (placed : h.place = .joining query) (hasNo : hasNativeAaaa aaaa = false)
      (code : aaaa.responseCode = .NoError) :
      Moved h (.joined (some aaaa) cache aRes)
        ({ h with lookup := some (some aaaa) }.counting .nodata
          (.trying query aaaa cache (synthContext text query aaaa aRes) handler.chain.synths))
  -- The lookup of the passthrough path returns.
  | relayed (query : Query) (resp : Message) (cache : CacheStatus)
      (placed : h.place = .observing query) :
      Moved h (.observed (some resp) cache)
        ({ h with lookup := some (some resp) }.counting (.rcode resp.responseCode)
          (.decided (relay h.request resp)
            (some (query, ⟨resp.responseCode, cache, .Passthrough⟩))))
  | unanswered (query : Query) (cache : CacheStatus) (placed : h.place = .observing query) :
      Moved h (.observed none cache)
        ({ h with lookup := some none }.counting (.rcode .ServFail)
          (.decided (serveFail h.request) (some (query, ⟨.ServFail, cache, .Passthrough⟩))))
  -- The chain.
  | missed (query : Query) (aaaa : Message) (cache : CacheStatus) (ctx : SynthContext text)
      (synth : Synthesizer text) (rest : List (Synthesizer text)) (resolve : Resolver World)
      (world : World) (placed : h.place = .trying query aaaa cache ctx (synth :: rest)) :
      Moved h (.tried resolve world) (h.moving (.trying query aaaa cache ctx rest))
  | hit (query : Query) (aaaa : Message) (cache : CacheStatus) (ctx : SynthContext text)
      (synth : Synthesizer text) (rest : List (Synthesizer text)) (resolve : Resolver World)
      (world : World) (records : List Record)
      (placed : h.place = .trying query aaaa cache ctx (synth :: rest)) (some_ : records ≠ []) :
      Moved h (.tried resolve world)
        ({ h with winner := some (synth.id, records) }.counting (.synthHit synth.id)
          (.won query cache ctx synth.id records))
  | empty (query : Query) (aaaa : Message) (cache : CacheStatus) (ctx : SynthContext text)
      (placed : h.place = .trying query aaaa cache ctx []) :
      Moved h .proceed (h.counting .empty
        (.closing query (relay h.request aaaa) ⟨aaaa.responseCode, cache, .EmptyNodata⟩))
  | appended (query : Query) (cache : CacheStatus) (ctx : SynthContext text) (id : String)
      (records extra : List Record) (resolve : Resolver World) (world : World)
      (placed : h.place = .won query cache ctx id records) :
      Moved h (.appended resolve world) (h.counting .synthesized
        (.closing query (sendSynthesized h.request (records ++ extra))
          ⟨.NoError, cache, .Synthesized id⟩))
  -- The response is decided, and then sent.
  | counted (query : Query) (response : Message) (obs : Observation)
      (placed : h.place = .closing query response obs) :
      Moved h .proceed (h.counting (.rcode obs.rcode) (.decided response (some (query, obs))))
  | finished (response : Message) (due : Option (Query × Observation))
      (placed : h.place = .decided response due) :
      Moved h .proceed (h.finish handler response due)

/-- A plan that yields anything yields a record. -/
theorem run_plan_some (chain : Chain text) (resolve : Resolver World) (plan : Plan)
    (ctx : SynthContext text) (world : World) (records : List Record)
    (ran : (chain.runPlan resolve plan ctx world).1 = some records) : records ≠ [] := by
  simp only [Chain.runPlan] at ran
  split at ran
  · cases ran
  · rename_i fruitful
    cases ran
    simpa using fruitful

theorem receive_moved (h : Handling text) (placed : h.place = .received) :
    Moved handler h (.proceed : Event World) h.receive := by
  unfold Handling.receive
  by_cases standard : h.request.message.header.opCode ≠ .Query ∨
      h.request.message.header.messageType ≠ .Query
  · rw [if_pos standard]
    refine .malformed .NotImp placed ?_
    rintro ⟨opCode, messageType, _⟩
    exact standard.elim (· opCode) (· messageType)
  · rw [if_neg standard]
    simp only [not_or, not_not] at standard
    split
    · rename_i query asked
      exact .received query placed ⟨standard.1, standard.2, query, asked⟩ asked
    · rename_i several
      refine .malformed .FormErr placed ?_
      rintro ⟨_, _, query, asked⟩
      exact several query asked

theorem pass_moved (h : Handling text) (query : Query) (placed : h.place = .gating query) :
    Moved handler h (.proceed : Event World) (h.pass handler query) := by
  unfold Handling.pass
  cases sent : sentTo handler h.request query with
  | refused => exact .refused query placed sent
  | blocked => exact .blocked query placed sent
  | dns64 => exact .routed query placed sent
  | passthrough => exact .passedOn query placed sent

theorem branch_moved (h : Handling text) (query : Query) (aaaaRes : Option Message)
    (cache : CacheStatus) (aRes : Option Message) (placed : h.place = .joining query) :
    Moved handler h (.joined aaaaRes cache aRes : Event World)
      (h.branch handler query aaaaRes cache aRes) := by
  cases aaaaRes with
  | none => exact .failed query cache aRes placed
  | some aaaa =>
      simp only [Handling.branch]
      split
      · rename_i has
        exact .native query aaaa cache aRes placed has
      · rename_i hasNo
        rw [Bool.not_eq_true] at hasNo
        split
        · rename_i code
          exact .missing query aaaa cache aRes placed hasNo code
        · rename_i exists_
          split
          · rename_i wrong
            exact .errored query aaaa cache aRes placed hasNo exists_ wrong
          · rename_i code
            exact .nodata query aaaa cache aRes placed hasNo (not_not.mp code)

theorem attempt_moved (h : Handling text) (query : Query) (aaaa : Message)
    (cache : CacheStatus) (ctx : SynthContext text) (synth : Synthesizer text)
    (rest : List (Synthesizer text)) (resolve : Resolver World) (world : World)
    (progress : Progress text) (placed : h.place = .trying query aaaa cache ctx (synth :: rest))
    (taken : h.attempt handler query aaaa cache ctx synth rest resolve world = some progress) :
    Moved handler h (.tried resolve world) progress := by
  unfold Handling.attempt at taken
  split at taken
  · cases taken
  · cases taken
    exact .missed query aaaa cache ctx synth rest resolve world placed
  · split at taken
    · rename_i found
      cases taken
      exact .hit query aaaa cache ctx synth rest resolve world _ placed
        (run_plan_some _ _ _ _ _ _ found)
    · cases taken
      exact .missed query aaaa cache ctx synth rest resolve world placed

theorem next_moved (h : Handling text) (event : Event World) (progress : Progress text)
    (taken : h.next handler event = some progress) : Moved handler h event progress := by
  unfold Handling.next at taken
  split at taken
  all_goals rename_i placed
  · cases taken
    exact receive_moved h placed
  · cases taken
    exact pass_moved h _ placed
  · cases taken
    exact branch_moved h _ _ _ _ placed
  · cases taken
    rename_i query resp cache
    cases resp with
    | none => exact .unanswered query cache placed
    | some resp => exact .relayed query resp cache placed
  · exact attempt_moved h _ _ _ _ _ _ _ _ progress placed taken
  · cases taken
    exact .empty _ _ _ _ placed
  · cases taken
    exact .appended _ _ _ _ _ _ _ _ placed
  · cases taken
    exact .counted _ _ _ placed
  · cases taken
    exact .finished _ _ placed
  · cases taken

end Moves

/-! A request that is handled alone is handled as `handle_request` does it. -/
section Alone
variable {handler : Dns64Handler text}

/-- The only request is taken to its decision, and no entry is captured on the way. -/
def Settles (World : Type) (handler : Dns64Handler text) (before : Metrics) (h : Handling text)
    (after : Metrics) (response : Message) (due : Option (Query × Observation)) : Prop :=
  ∃ (actions : List (Action World)) (last : Handling text),
    Run (step handler) anyAction ⟨before, [h], []⟩ actions ⟨after, [last], []⟩ ∧
      last.request = h.request ∧ last.place = .decided response due

theorem settles_decided (metrics : Metrics) (h : Handling text) (response : Message)
    (due : Option (Query × Observation)) (placed : h.place = .decided response due) :
    Settles World handler metrics h metrics response due :=
  ⟨[], h, Run.refl _, rfl, placed⟩

theorem settles_next {before middle after : Metrics} {h : Handling text} {response : Message}
    {due : Option (Query × Observation)} (event : Event World) (progress : Progress text)
    (taken : h.next handler event = some progress) (quiet : progress.logged = none)
    (kept : progress.handling.request = h.request)
    (counted : middle = progress.bump.elim before fun bump => bump.apply before)
    (later : Settles World handler middle progress.handling after response due) :
    Settles World handler before h after response due := by
  obtain ⟨actions, last, run, same, placed⟩ := later
  refine ⟨.advance 0 event :: actions, last, Run.next trivial ?_ run, same.trans kept, placed⟩
  simp [step, taken, State.progressed, quiet, counted]

theorem settles_counted (metrics : Metrics) (h shaped : Handling text) (event : Event World)
    (code : ResponseCode) (response : Message) (due : Option (Query × Observation))
    (taken : h.next handler event = some (shaped.counting (.rcode code) (.decided response due)))
    (kept : shaped.request = h.request) :
    Settles World handler metrics h (metrics.recordRcode code) response due :=
  settles_next event _ taken rfl kept rfl (settles_decided _ _ _ _ rfl)

theorem settles_closing (metrics : Metrics) (h shaped : Handling text) (event : Event World)
    (bump : Bump) (query : Query) (response : Message) (obs : Observation)
    (taken : h.next handler event = some (shaped.counting bump (.closing query response obs)))
    (kept : shaped.request = h.request) :
    Settles World handler metrics h ((bump.apply metrics).recordRcode obs.rcode) response
      (some (query, obs)) :=
  settles_next event _ taken rfl kept rfl (settles_counted _ _ _ .proceed _ _ _ rfl rfl)

/-- The chain and what follows it, from any of its synthesizers on. -/
theorem chain_alone (resolve : Resolver World) (query : Query) (aaaa : Message)
    (cache : CacheStatus) (ctx : SynthContext text) (rest : List (Synthesizer text))
    (env middle after : Env World) (answer : Option (List Record × String)) (response : Message)
    (obs : Observation) (h : Handling text)
    (returned : FirstAnswer.firstAnswer (handler.chain.attempt resolve ctx) rest env =
      .ok (answer, middle))
    (ended : finishNodata h.request aaaa cache answer middle = ((response, obs), after))
    (placed : h.place = .trying query aaaa cache ctx rest) :
    Settles World handler env.metrics h after.metrics response (some (query, obs)) := by
  induction rest generalizing env h with
  | nil =>
      cases returned
      cases ended
      have emptied : h.next handler (.proceed : Event World) = some (h.counting .empty
          (.closing query (relay h.request aaaa) ⟨aaaa.responseCode, cache, .EmptyNodata⟩)) := by
        simp [Handling.next, placed]
      exact settles_closing _ h h .proceed .empty _ _ _ emptied rfl
  | cons synth rest ih =>
      have next : ∀ world, h.next handler (.tried resolve world) =
          h.attempt handler query aaaa cache ctx synth rest resolve world := by
        intro world
        simp [Handling.next, placed]
      rw [FirstAnswer.firstAnswer, Chain.attempt] at returned
      simp only [Handling.attempt] at next
      cases detected : synth.detect ctx with
      | error panic =>
          rw [detected] at returned
          cases returned
      | ok found =>
          cases found with
          | none =>
              simp only [detected] at returned next
              exact settles_next _ _ (next env.world) rfl rfl rfl (ih env _ returned ended rfl)
          | some plan =>
              simp only [detected] at next
              cases ran : handler.chain.runPlan resolve plan ctx env.world with
              | mk yielded between =>
                  have tried := next env.world
                  cases yielded with
                  | none =>
                      simp only [detected, bind, Except.bind, ran] at returned tried
                      exact settles_next _ _ tried rfl rfl rfl
                        (ih { env with world := between } _ returned ended rfl)
                  | some records =>
                      simp only [detected, bind, Except.bind, ran] at returned tried
                      cases returned
                      cases ended
                      exact settles_next _ _ tried rfl rfl rfl
                        (settles_closing _ _ _ (.appended resolve between) .synthesized query _
                          ⟨.NoError, cache, .Synthesized synth.id⟩ rfl rfl)

theorem dns64_alone (lookups : Lookups World) (query : Query) (aaaaRes : Option Message)
    (cache : CacheStatus) (aRes : Option Message) (env after : Env World) (response : Message)
    (obs : Observation) (h : Handling text)
    (returned : handler.decideDns64 lookups h.request query aaaaRes cache aRes env =
      .ok ((response, obs), after)) (placed : h.place = .joining query) :
    Settles World handler env.metrics h after.metrics response (some (query, obs)) := by
  have joined : h.next handler (.joined aaaaRes cache aRes : Event World) =
      some (h.branch handler query aaaaRes cache aRes) := by
    simp [Handling.next, placed]
  unfold Dns64Handler.decideDns64 at returned
  simp only [Handling.branch] at joined
  cases aaaaRes with
  | none =>
      cases returned
      exact settles_counted _ h _ _ _ _ _ joined rfl
  | some aaaa =>
      dsimp only at returned joined
      split at returned
      · rename_i has
        cases returned
        rw [if_pos has] at joined
        exact settles_closing _ h _ _ _ _ _ _ joined rfl
      · rename_i hasNo
        rw [if_neg hasNo] at joined
        split at returned
        · rename_i code
          cases returned
          rw [if_pos code] at joined
          exact settles_closing _ h _ _ _ _ _ _ joined rfl
        · rename_i exists_
          rw [if_neg exists_] at joined
          split at returned
          · rename_i wrong
            cases returned
            rw [if_pos wrong] at joined
            exact settles_counted _ h _ _ _ _ _ joined rfl
          · rename_i code
            rw [if_neg code] at joined
            obtain ⟨⟨answer, middle⟩, synthesized, ended⟩ := bind_ok returned
            have same : finishNodata h.request aaaa cache answer middle =
              ((response, obs), after) := Except.ok.inj ended
            exact settles_next _ _ joined rfl rfl rfl (chain_alone lookups.resolve query aaaa
              cache _ _ _ middle after answer response obs _ synthesized same rfl)

theorem passthrough_alone (lookups : Lookups World) (query : Query) (env after : Env World)
    (response : Message) (obs : Observation) (h : Handling text)
    (returned : passthrough lookups h.request query env = ((response, obs), after))
    (placed : h.place = .observing query) :
    Settles World handler env.metrics h after.metrics response (some (query, obs)) := by
  unfold passthrough at returned
  rcases looked : lookups.resolveObserved (upstreamQuery h.request query) env.world with
    ⟨⟨resp, cache⟩, world⟩
  rw [looked] at returned
  have observed : h.next handler (.observed resp cache : Event World) =
      some (h.forward query resp cache) := by
    simp [Handling.next, placed]
  cases resp with
  | none =>
      cases returned
      exact settles_counted _ h _ _ _ _ _ observed rfl
  | some resp =>
      cases returned
      exact settles_counted _ h _ _ _ _ _ observed rfl

theorem answer_alone (lookups : Lookups World) (query : Query) (env after : Env World)
    (response : Message) (obs : Observation) (h : Handling text)
    (returned : handler.answer lookups h.request query env = .ok ((response, obs), after))
    (placed : h.place = .gating query) :
    Settles World handler env.metrics h after.metrics response (some (query, obs)) := by
  have passed : h.next handler (.proceed : Event World) = some (h.pass handler query) := by
    simp [Handling.next, placed]
  unfold Dns64Handler.answer at returned
  unfold Handling.pass sentTo at passed
  split at returned
  · rename_i fires
    cases returned
    rw [if_pos fires] at passed
    exact settles_counted _ h _ _ _ _ _ passed rfl
  · rename_i admitted
    rw [if_neg admitted] at passed
    split at returned
    · rename_i fires
      cases returned
      rw [if_pos fires] at passed
      exact settles_closing _ h _ _ _ _ _ _ passed rfl
    · rename_i listed
      rw [if_neg listed] at passed
      split at returned
      · rename_i path
        rw [if_pos path] at passed
        let routed := { h with route := some .dns64 }.counting .queriesDns64 (.joining query)
        exact settles_next _ routed passed rfl rfl rfl
          (dns64_alone lookups query _ _ _ _ after response obs routed.handling returned rfl)
      · rename_i path
        rw [if_neg path] at passed
        let routed := { h with route := some .passthrough }.counting .queriesPassthrough
          (.observing query)
        exact settles_next _ routed passed rfl rfl rfl (passthrough_alone lookups query _ after
          response obs routed.handling (Except.ok.inj returned) rfl)

theorem request_alone (lookups : Lookups World) (env after : Env World) (handled : Handled)
    (h : Handling text)
    (returned : handler.handleRequest lookups h.request env = .ok (handled, after))
    (placed : h.place = .received) :
    ∃ due, Settles World handler env.metrics h after.metrics handled.response due ∧
      handled.logged = due.bind fun entry => handler.log h.request entry.1 entry.2 := by
  have taken : h.next handler (.proceed : Event World) = some h.receive := by
    simp [Handling.next, placed]
  unfold Dns64Handler.handleRequest at returned
  unfold Handling.receive at taken
  split at returned
  · rename_i foreign
    cases returned
    rw [if_pos foreign] at taken
    exact ⟨none, settles_counted _ h _ _ _ _ _ taken rfl, rfl⟩
  · rename_i standard
    rw [if_neg standard] at taken
    split at returned
    · rename_i query asked
      obtain ⟨⟨⟨response, obs⟩, middle⟩, answered, ended⟩ := bind_ok returned
      cases ended
      simp only [asked] at taken
      let asked := h.counting (.qtype query.queryType) (.gating query)
      exact ⟨some (query, obs), settles_next _ asked taken rfl rfl rfl
        (answer_alone lookups query _ _ response obs asked.handling answered rfl), rfl⟩
    · rename_i several
      cases returned
      split at taken
      · rename_i query asked
        exact absurd asked (several query)
      · exact ⟨none, settles_counted _ h _ _ _ _ _ taken rfl, rfl⟩

/-- Taken alone, a request gets the response of `handle_request`, leaves its entry and
raises the counters as it does. -/
theorem handled_alone (lookups : Lookups World) (request : Request) (env after : Env World)
    (handled : Handled)
    (returned : handler.handleRequest lookups request env = .ok (handled, after)) :
    ∃ (actions : List (Action World)) (h : Handling text),
      Run (step handler) anyAction (State.new text env.metrics) actions
        ⟨after.metrics, [h], handled.logged.toList.map fun entry => (0, entry)⟩ ∧
      h.request = request ∧ h.place = .finished handled.response := by
  obtain ⟨due, ⟨actions, last, run, same, placed⟩, logged⟩ :=
    request_alone lookups env after handled (Handling.new text request) returned rfl
  have ended : last.next handler (.proceed : Event World) =
      some (last.finish handler handled.response due) := by
    simp [Handling.next, placed]
  refine ⟨.arrive request :: (actions ++ [.advance 0 .proceed]),
    (last.finish handler handled.response due).handling, ?_, same, rfl⟩
  refine Run.next trivial rfl (run_append run (Run.next trivial ?_ (Run.refl _)))
  simp [step, ended, State.progressed, Handling.finish, Handling.moving, logged, same]

end Alone

/-! In a run, each request has a history of its own. -/
section Histories
variable {handler : Dns64Handler text}

def entriesOf (state : State text) (id : Nat) : List LogRecord :=
  state.log.filterMap fun entry => if entry.1 = id then some entry.2 else none

variable (text World) in
/-- Requests are processes that leave entries. -/
def requests : Reading (State text) (Action World) (Handling text) (Event World) LogRecord where
  processes := State.handlings
  traces := entriesOf
  mover
    | .arrive _ => none
    | .advance id event => some (id, event)

theorem step_cases (action : Action World) (before after : State text)
    (taken : step handler action before = some after) :
    (∃ request, action = .arrive request ∧
      after = { before with handlings := before.handlings ++ [Handling.new text request] }) ∨
    ∃ id event h progress, action = .advance id event ∧ before.handlings[id]? = some h ∧
      Moved handler h event progress ∧ after = before.progressed id progress := by
  cases action with
  | arrive request => exact .inl ⟨request, rfl, (Option.some.inj taken).symm⟩
  | advance id event =>
      obtain ⟨h, present, rest⟩ := Option.bind_eq_some_iff.mp taken
      obtain ⟨progress, moved, ended⟩ := Option.bind_eq_some_iff.mp rest
      exact .inr ⟨id, event, h, progress, rfl, present, next_moved h event progress moved,
        (Option.some.inj ended).symm⟩

theorem entries_progressed (state : State text) (id other : Nat) (progress : Progress text) :
    entriesOf (state.progressed id progress) other =
      entriesOf state other ++ if id = other then progress.logged.toList else [] := by
  unfold entriesOf State.progressed
  rw [List.filterMap_append]
  cases progress.logged with
  | none => simp
  | some entry => by_cases own : id = other <;> simp [own]

/-- No other request has a part in the events of a request, its place or its entries. -/
theorem requests_separate : Separate (requests text World) (step handler)
    (fun fresh => ∃ request, fresh = Handling.new text request)
    (fun h event later left => ∃ progress, Moved handler h event progress ∧
      later = progress.handling ∧ left = progress.logged.toList) := by
  constructor
  · intro action before after arrives taken
    rcases step_cases action before after taken with
      ⟨request, rfl, rfl⟩ | ⟨id, event, h, progress, rfl, _⟩
    · exact ⟨_, ⟨request, rfl⟩, rfl, fun _ => rfl⟩
    · cases arrives
  · intro action before after id event owned taken
    rcases step_cases action before after taken with
      ⟨request, rfl, _⟩ | ⟨mover, moving, h, progress, rfl, present, moved, rfl⟩
    · cases owned
    · cases owned
      exact ⟨h, progress.handling, progress.logged.toList, present, ⟨progress, moved, rfl, rfl⟩,
        rfl, fun other => entries_progressed before _ other progress⟩

theorem mem_request_events (id : Nat) (actions : List (Action World)) (event : Event World) :
    event ∈ (requests text World).eventsOf id actions ↔ Action.advance id event ∈ actions := by
  rw [mem_events]
  constructor
  · rintro ⟨action, listed, owned⟩
    cases action with
    | arrive request => cases owned
    | advance other moving =>
        cases owned
        exact listed
  · exact fun listed => ⟨_, listed, rfl⟩

/-- What the steps of one request preserve holds of every request of a run. -/
theorem request_run {motive : List (Event World) → Handling text → List LogRecord → Prop}
    (begins : ∀ request, motive [] (Handling.new text request) [])
    (kept : ∀ front h entries event progress, motive front h entries →
      Moved handler h event progress →
      motive (front ++ [event]) progress.handling (entries ++ progress.logged.toList))
    (metrics : Metrics) (actions : List (Action World)) (after : State text)
    (run : Run (step handler) anyAction (State.new text metrics) actions after)
    (id : Nat) (h : Handling text) (present : after.handlings[id]? = some h) :
    motive ((requests text World).eventsOf id actions) h (entriesOf after id) := by
  refine process_run requests_separate ?_ ?_ rfl (fun _ => rfl) run id h present
  · rintro _ ⟨request, rfl⟩
    exact begins request
  · rintro front h entries event _ _ known ⟨progress, moved, rfl, rfl⟩
    exact kept front h entries event progress known moved

end Histories

/-! Every request comes to its end. -/
section Ends
variable {handler : Dns64Handler text}

/-- What a request tries is of the chain. -/
def Listed (handler : Dns64Handler text) (h : Handling text) : Prop :=
  match h.place with
  | .trying _ _ _ _ rest => ∀ synth ∈ rest, synth ∈ handler.chain.synths
  | _ => True

theorem listed_moved (h : Handling text) (event : Event World) (progress : Progress text)
    (listed : Listed handler h) (moved : Moved handler h event progress) :
    Listed handler progress.handling := by
  cases moved with
  | nodata => exact fun _ present => present
  | missed _ _ _ _ synth _ _ _ placed =>
      simp only [Listed, placed] at listed
      exact fun other later => listed other (List.mem_cons_of_mem synth later)
  | _ => trivial

theorem listed_run (metrics : Metrics) (actions : List (Action World)) (after : State text)
    (run : Run (step handler) anyAction (State.new text metrics) actions after)
    (id : Nat) (h : Handling text) (present : after.handlings[id]? = some h) :
    Listed handler h := by
  refine request_run (motive := fun _ h _ => Listed handler h) ?_ ?_ metrics actions after run id
    h present
  · exact fun _ => trivial
  · exact fun _ h _ event progress listed moved => listed_moved h event progress listed moved

/-- The steps a request has left, at most. -/
def rank (handler : Dns64Handler text) (h : Handling text) : Nat :=
  match h.place with
  | .received => handler.chain.synths.length + 7
  | .gating _ => handler.chain.synths.length + 6
  | .joining _ => handler.chain.synths.length + 5
  | .trying _ _ _ _ rest => rest.length + 4
  | .won _ _ _ _ _ => 3
  | .observing _ | .closing _ _ _ => 2
  | .decided _ _ => 1
  | .finished _ => 0

theorem rank_falls (h : Handling text) (event : Event World) (progress : Progress text)
    (moved : Moved handler h event progress) : rank handler progress.handling < rank handler h := by
  cases moved with
  | malformed _ placed | received _ placed | refused _ placed | blocked _ placed
  | routed _ placed | passedOn _ placed | failed _ _ _ placed | native _ _ _ _ placed
  | missing _ _ _ _ placed | errored _ _ _ _ placed | nodata _ _ _ _ placed
  | relayed _ _ _ placed | unanswered _ _ placed | missed _ _ _ _ _ _ _ _ placed
  | hit _ _ _ _ _ _ _ _ _ placed | empty _ _ _ _ placed | appended _ _ _ _ _ _ _ _ placed
  | counted _ _ _ placed | finished _ _ placed =>
      simp only [rank, Handling.counting, Handling.moving, Handling.finish, placed,
        List.length_cons]
      omega

/-- A request takes at most seven steps and one for each synthesizer. -/
theorem steps_bounded (metrics : Metrics) (actions : List (Action World)) (after : State text)
    (run : Run (step handler) anyAction (State.new text metrics) actions after)
    (id : Nat) (h : Handling text) (present : after.handlings[id]? = some h) :
    ((requests text World).eventsOf id actions).length + rank handler h ≤
      handler.chain.synths.length + 7 := by
  refine request_run (motive := fun events h _ =>
    events.length + rank handler h ≤ handler.chain.synths.length + 7) ?_ ?_ metrics actions after
    run id h present
  · intro request
    simp [rank, Handling.new]
  · intro front h entries event progress bounded moved
    have falls := rank_falls h event progress moved
    rw [List.length_append, List.length_singleton]
    omega

/-- An unfinished request can go on, unless it stands at a synthesizer that panics. -/
theorem goes_on [Inhabited World] (h : Handling text) (listed : Listed handler h)
    (calm : ∀ synth ∈ handler.chain.synths, ∀ ctx, Completes (synth.detect ctx))
    (unfinished : ∀ response, h.place ≠ .finished response) :
    ∃ (event : Event World) (progress : Progress text), h.next handler event = some progress := by
  cases placed : h.place with
  | finished response => exact absurd placed (unfinished response)
  | joining query => exact ⟨.joined none .Miss none, by simp [Handling.next, placed]⟩
  | observing query => exact ⟨.observed none .Miss, by simp [Handling.next, placed]⟩
  | won query cache ctx id records =>
      exact ⟨.appended (fun _ world => (none, world)) default, by simp [Handling.next, placed]⟩
  | trying query aaaa cache ctx rest =>
      cases rest with
      | nil => exact ⟨.proceed, by simp [Handling.next, placed]⟩
      | cons synth rest =>
          simp only [Listed, placed] at listed
          obtain ⟨plan, detected, _⟩ := calm synth (listed synth List.mem_cons_self) ctx
          refine ⟨.tried (fun _ world => (none, world)) default, ?_⟩
          simp only [Handling.next, placed, Handling.attempt, detected]
          cases plan with
          | none => exact ⟨_, rfl⟩
          | some plan =>
              dsimp only
              split <;> exact ⟨_, rfl⟩
  | _ => exact ⟨.proceed, by simp [Handling.next, placed]⟩

/-- Taken to its end, without the others. -/
def Finishes (World : Type) (handler : Dns64Handler text) (state : State text) (id : Nat)
    (h : Handling text) : Prop :=
  ∃ (more : List (Action World)) (last : State text) (ended : Handling text)
    (response : Message), Run (step handler) anyAction state more last ∧
    last.handlings[id]? = some ended ∧ ended.request = h.request ∧
    ended.place = .finished response

theorem moved_request (h : Handling text) (event : Event World) (progress : Progress text)
    (moved : Moved handler h event progress) : progress.handling.request = h.request := by
  cases moved <;> rfl

theorem finishes [Inhabited World]
    (calm : ∀ synth ∈ handler.chain.synths, ∀ ctx, Completes (synth.detect ctx))
    (state : State text) (id : Nat) (h : Handling text)
    (present : state.handlings[id]? = some h) (listed : Listed handler h) :
    Finishes World handler state id h := by
  -- By strong induction on the rank.
  induction falls : rank handler h using Nat.strongRecOn generalizing state h with
  | ind left ih =>
      by_cases unfinished : ∀ response, h.place ≠ .finished response
      · obtain ⟨event, progress, taken⟩ : ∃ (event : Event World) (progress : Progress text),
            h.next handler event = some progress := goes_on h listed calm unfinished
        have moved := next_moved h event progress taken
        have stepped : step handler (.advance id event) state =
            some (state.progressed id progress) := by
          simp [step, present, taken]
        have located : (state.progressed id progress).handlings[id]? = some progress.handling :=
          List.getElem?_set_self (List.getElem?_eq_some_iff.mp present).1
        have smaller : rank handler progress.handling < left :=
          falls ▸ rank_falls h event progress moved
        obtain ⟨more, last, ended, response, run, found, same, placed⟩ :=
          ih _ smaller _ progress.handling located (listed_moved h event progress listed moved) rfl
        exact ⟨.advance id event :: more, last, ended, response, Run.next trivial stepped run,
          found, same.trans (moved_request h event progress moved), placed⟩
      · push Not at unfinished
        obtain ⟨response, ended⟩ := unfinished
        exact ⟨[], state, h, response, Run.refl state, present, rfl, ended⟩

/-- In every state of a run, every request can be taken to its end. -/
theorem finishes_run [Inhabited World]
    (calm : ∀ synth ∈ handler.chain.synths, ∀ ctx, Completes (synth.detect ctx))
    (metrics : Metrics) (actions : List (Action World)) (after : State text)
    (run : Run (step handler) anyAction (State.new text metrics) actions after)
    (id : Nat) (h : Handling text) (present : after.handlings[id]? = some h) :
    Finishes World handler after id h :=
  finishes calm after id h present (listed_run metrics actions after run id h present)

end Ends

end Dnsix.RequestRuns
