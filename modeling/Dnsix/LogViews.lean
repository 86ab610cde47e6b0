import Dnsix.BoundedRing
import Dnsix.Broadcast
import Dnsix.CivilDate
import Dnsix.Handler
import Dnsix.Transition

/-!
The Query log, recorded to by any number of tasks at once. A call of `record` stamps its
entry, pushes it under the lock and sends it to the live feed, and the other calls may do
anything in between. The ring always holds the newest entries pushed. Its times and the
live feed are in its order as long as no call is overtaken between two of its steps.
-/

namespace Dnsix.LogViews
open BoundedRing Broadcast CivilDate Handler Transition

/-! The log. -/
section Log

/-- An entry before its time. -/
structure Record extends LogRecord where
  latency : Nat
  deriving DecidableEq

structure Entry extends Record where
  time : SystemTime
  deriving DecidableEq

/-- An entry and the call it is from: two calls may make equal entries. -/
structure Logged where
  call : Nat
  entry : Entry
  deriving DecidableEq

structure QueryLog where
  buf : RingBuffer Logged
  tx : Channel Logged

def broadcastCapacity : Nat := 256

/-- The capacity is at least one. -/
def QueryLog.new (cap : Nat) : QueryLog :=
  ⟨.empty (max cap 1) (Nat.le_max_right cap 1), channel broadcastCapacity⟩

def QueryLog.snapshotNewestFirst (log : QueryLog) : List Entry :=
  log.buf.items.reverse.map Logged.entry

end Log

/-! The steps of the calls. -/
section Steps

inductive Phase where
  | stamped | pushed | sent
  deriving DecidableEq

structure Call where
  entry : Entry
  phase : Phase
  deriving DecidableEq

/-- `pushed` remembers every entry that was pushed; no step looks at it. -/
structure State where
  clock : SystemTime
  calls : List Call
  log : QueryLog
  pushed : List Logged

def State.new (cap : Nat) (clock : SystemTime) : State := ⟨clock, [], .new cap, []⟩

/-- A call begins with a look at the clock. -/
inductive Action where
  | record (r : Record) (now : SystemTime)
  | push (id : Nat)
  | send (id : Nat)
  deriving DecidableEq

def State.push (state : State) (logged : Logged) : State :=
  { state with
    calls := state.calls.set logged.call ⟨logged.entry, .pushed⟩
    log := { state.log with buf := state.log.buf.push logged }
    pushed := state.pushed ++ [logged] }

def State.send (state : State) (logged : Logged) : State :=
  { state with
    calls := state.calls.set logged.call ⟨logged.entry, .sent⟩
    log := { state.log with tx := state.log.tx.send logged } }

def step : Action → State → Option State
  | .record r now, state =>
      -- The clock never goes back.
      if state.clock ≤ now then
        some { state with clock := now, calls := state.calls ++ [⟨⟨r, now⟩, .stamped⟩] }
      else none
  | .push id, state =>
      match state.calls[id]? with
      | some ⟨entry, .stamped⟩ => some (state.push ⟨id, entry⟩)
      | _ => none
  | .send id, state =>
      match state.calls[id]? with
      | some ⟨entry, .pushed⟩ => some (state.send ⟨id, entry⟩)
      | _ => none

inductive Moved (state : State) : Action → State → Prop
  | record (r : Record) (now : SystemTime) (later : state.clock ≤ now) :
      Moved state (.record r now)
        { state with clock := now, calls := state.calls ++ [⟨⟨r, now⟩, .stamped⟩] }
  | push (logged : Logged) (present : state.calls[logged.call]? = some ⟨logged.entry, .stamped⟩) :
      Moved state (.push logged.call) (state.push logged)
  | send (logged : Logged) (present : state.calls[logged.call]? = some ⟨logged.entry, .pushed⟩) :
      Moved state (.send logged.call) (state.send logged)

theorem step_moved (action : Action) (state after : State)
    (taken : step action state = some after) : Moved state action after := by
  cases action with
  | record r now =>
      simp only [step] at taken
      split at taken
      · rename_i later
        cases taken
        exact .record r now later
      · cases taken
  | push id =>
      simp only [step] at taken
      split at taken
      · rename_i entry present
        cases taken
        exact .push ⟨id, entry⟩ present
      · cases taken
  | send id =>
      simp only [step] at taken
      split at taken
      · rename_i entry present
        cases taken
        exact .send ⟨id, entry⟩ present
      · cases taken

end Steps

/-! What every run keeps. -/
section Kept

/-- The entries of the calls in some of the phases. -/
def Holds (calls : List Call) (among : Phase → Prop) (entries : List Logged) : Prop :=
  ∀ logged, logged ∈ entries ↔
    ∃ phase, calls[logged.call]? = some ⟨logged.entry, phase⟩ ∧ among phase

/-- Where a call stands is where its entry is. -/
structure Sound (state : State) : Prop where
  room : 0 < state.log.tx.capacity
  newest : state.log.buf.items = newest state.log.buf.cap state.pushed
  once : (state.pushed.map Logged.call).Nodup
  pushed : Holds state.calls (· ≠ .stamped) state.pushed
  sent : Holds state.calls (· = .sent) state.log.tx.sent

section Calls
variable {calls : List Call} {among : Phase → Prop} {entries : List Logged}

theorem holds_append (holds : Holds calls among entries) (new : Call) (out : ¬among new.phase) :
    Holds (calls ++ [new]) among entries := by
  intro logged
  rw [holds]
  refine exists_congr fun phase => and_congr_left fun inside => ?_
  have other : new ≠ ⟨logged.entry, phase⟩ := by
    rintro rfl
    exact out inside
  rcases Nat.lt_trichotomy logged.call calls.length with old | last | beyond
  · rw [List.getElem?_append_left old]
  · rw [last, List.getElem?_concat_length, List.getElem?_eq_none (Nat.le_refl _),
      Option.some.injEq]
    exact iff_of_false nofun other
  · have long : (calls ++ [new]).length ≤ logged.call := by
      rw [List.length_append]
      exact beyond
    rw [List.getElem?_eq_none long, List.getElem?_eq_none (Nat.le_of_lt beyond)]

theorem set_call (mine : Logged) {start : Phase} (phase : Phase)
    (present : calls[mine.call]? = some ⟨mine.entry, start⟩) (other : Nat) :
    (calls.set mine.call ⟨mine.entry, phase⟩)[other]? =
      if mine.call = other then some ⟨mine.entry, phase⟩ else calls[other]? := by
  have inside : mine.call < calls.length := (List.getElem?_eq_some_iff.mp present).1
  rw [List.getElem?_set]
  simp [inside]

/-- A call that stays in or out of the phases changes nothing. -/
theorem holds_still (holds : Holds calls among entries) (mine : Logged) (start phase : Phase)
    (present : calls[mine.call]? = some ⟨mine.entry, start⟩) (same : among phase ↔ among start) :
    Holds (calls.set mine.call ⟨mine.entry, phase⟩) among entries := by
  intro logged
  rw [holds, set_call mine phase present]
  by_cases own : mine.call = logged.call
  · rw [if_pos own, ← own, present]
    simp [same]
  · rw [if_neg own]

/-- A call that comes into the phases brings its entry. -/
theorem holds_joined (holds : Holds calls among entries) (mine : Logged) (start phase : Phase)
    (present : calls[mine.call]? = some ⟨mine.entry, start⟩) (out : ¬among start)
    (joins : among phase) :
    Holds (calls.set mine.call ⟨mine.entry, phase⟩) among (entries ++ [mine]) := by
  intro logged
  rw [List.mem_append, List.mem_singleton, holds, set_call mine phase present]
  by_cases own : mine.call = logged.call
  · rw [if_pos own, ← own, present]
    obtain ⟨call, entry⟩ := logged
    obtain ⟨number, ownEntry⟩ := mine
    dsimp only at own ⊢
    subst own
    simp [out, joins, eq_comm]
  · have other : logged ≠ mine := fun same => own (same ▸ rfl)
    rw [if_neg own]
    simp [other]

end Calls

theorem sound_new (cap : Nat) (clock : SystemTime) : Sound (.new cap clock) where
  room := Nat.zero_lt_succ 255
  newest := List.drop_nil.symm
  once := List.nodup_nil
  pushed logged := by simp [State.new]
  sent logged := by simp [State.new, QueryLog.new, channel]

theorem sound_push (state : State) (mine : Logged) (sound : Sound state)
    (present : state.calls[mine.call]? = some ⟨mine.entry, .stamped⟩) :
    Sound (state.push mine) where
  room := sound.room
  newest := push_newest state.log.buf state.pushed mine sound.newest
  once := by
    rw [State.push, List.map_append, List.nodup_append]
    refine ⟨sound.once, List.nodup_singleton _, ?_⟩
    rintro call listed other alone rfl
    obtain ⟨logged, inside, same⟩ := List.mem_map.mp listed
    obtain ⟨phase, found, moved⟩ := (sound.pushed logged).mp inside
    rw [List.map_singleton, List.mem_singleton] at alone
    rw [same, alone, present] at found
    exact moved (Call.mk.inj (Option.some.inj found)).2.symm
  pushed := holds_joined sound.pushed mine .stamped .pushed present (by simp) (by simp)
  sent := holds_still sound.sent mine .stamped .pushed present (by simp)

theorem sound_send (state : State) (mine : Logged) (sound : Sound state)
    (present : state.calls[mine.call]? = some ⟨mine.entry, .pushed⟩) :
    Sound (state.send mine) where
  room := sound.room
  newest := sound.newest
  once := sound.once
  pushed := holds_still sound.pushed mine .pushed .sent present (by simp)
  sent := holds_joined sound.sent mine .pushed .sent present (by simp) rfl

theorem sound_step (action : Action) (state after : State) (sound : Sound state)
    (taken : step action state = some after) : Sound after := by
  cases step_moved action state after taken with
  | record r now later =>
      exact ⟨sound.room, sound.newest, sound.once, holds_append sound.pushed _ (by simp),
        holds_append sound.sent _ (by simp)⟩
  | push mine present => exact sound_push state mine sound present
  | send mine present => exact sound_send state mine sound present

/-- The calls that pushed, in the order they did. -/
def pushes (actions : List Action) : List Nat :=
  actions.filterMap fun action =>
    match action with
    | .push id => some id
    | _ => none

/-- The ring holds the last entries pushed, as many as fit, each from its own call. -/
structure Retained (cap : Nat) (actions : List Action) (state : State) : Prop where
  newest : state.log.buf.items = newest (max cap 1) state.pushed
  pushes : state.pushed.map Logged.call = pushes actions
  once : (state.pushed.map Logged.call).Nodup
  own : ∀ logged ∈ state.pushed, ∃ phase,
    state.calls[logged.call]? = some ⟨logged.entry, phase⟩

theorem sound_run (cap : Nat) (clock : SystemTime) (actions : List Action) (state : State)
    (run : Run step anyAction (.new cap clock) actions state) : Sound state :=
  run_invariant
    (fun action before after sound _ taken => sound_step action before after sound taken)
    run (sound_new cap clock)

theorem retained_run (cap : Nat) (clock : SystemTime) (actions : List Action) (state : State)
    (run : Run step anyAction (.new cap clock) actions state) : Retained cap actions state := by
  have sound := sound_run cap clock actions state run
  obtain ⟨capIs, pushesAre⟩ : state.log.buf.cap = max cap 1 ∧
      state.pushed.map Logged.call = pushes actions := by
    refine run_history (motive := fun actions state => state.log.buf.cap = max cap 1 ∧
      state.pushed.map Logged.call = pushes actions) ⟨rfl, rfl⟩ ?_ run
    rintro front action before after _ ⟨capIs, same⟩ _ taken
    cases step_moved action before after taken with
    | record r now later => exact ⟨capIs, by simpa [pushes] using same⟩
    | push mine present => exact ⟨capIs, by simpa [pushes, State.push] using same⟩
    | send mine present => exact ⟨capIs, by simpa [pushes, State.send] using same⟩
  refine ⟨capIs ▸ sound.newest, pushesAre, sound.once, fun logged listed => ?_⟩
  obtain ⟨phase, found, _⟩ := (sound.pushed logged).mp listed
  exact ⟨phase, found⟩

end Kept

/-! Live subscribers, who take entries off the feed whenever they like. -/
section Subscribers

structure Watched where
  state : State
  receivers : List (Receiver Logged)

def Watched.new (cap : Nat) (clock : SystemTime) : Watched := ⟨.new cap clock, []⟩

inductive Event where
  | call (action : Action)
  | subscribe
  | recv (subscriber : Nat)
  deriving DecidableEq

def watch : Event → Watched → Option Watched
  | .call action, watched =>
      (step action watched.state).map fun after => { watched with state := after }
  | .subscribe, watched =>
      some { watched with receivers := watched.receivers ++ [watched.state.log.tx.receiver] }
  | .recv subscriber, watched =>
      watched.receivers[subscriber]?.map fun receiver =>
        { watched with
          receivers := watched.receivers.set subscriber (watched.state.log.tx.deliver receiver) }

def callsOf (events : List Event) : List Action :=
  events.filterMap fun event =>
    match event with
    | .call action => some action
    | _ => none

/-- Subscribers change nothing for the calls. -/
theorem watched_calls (cap : Nat) (clock : SystemTime) (events : List Event) (watched : Watched)
    (run : Run watch anyAction (.new cap clock) events watched) :
    Run step anyAction (.new cap clock) (callsOf events) watched.state := by
  refine run_history (motive := fun events watched =>
    Run step anyAction (.new cap clock) (callsOf events) watched.state) (Run.refl _) ?_ run
  intro front event before after _ begun _ taken
  cases event with
  | call action =>
      obtain ⟨next, moved, rfl⟩ := Option.map_eq_some_iff.mp taken
      have last : Run step anyAction before.state [action] next :=
        Run.next trivial moved (Run.refl next)
      simpa [callsOf] using run_append begun last
  | subscribe =>
      cases taken
      simpa [callsOf] using begun
  | recv subscriber =>
      obtain ⟨receiver, _, rfl⟩ := Option.map_eq_some_iff.mp taken
      simpa [callsOf] using begun

theorem step_listened (action : Action) (state after : State) (receiver : Receiver Logged)
    (listened : Listened state.log.tx receiver) (taken : step action state = some after) :
    Listened after.log.tx receiver := by
  cases step_moved action state after taken with
  | record r now later => exact listened
  | push mine present => exact listened
  | send mine present => exact send_listened _ mine receiver listened

theorem listened_run (cap : Nat) (clock : SystemTime) (events : List Event) (watched : Watched)
    (run : Run watch anyAction (.new cap clock) events watched) :
    ∀ receiver ∈ watched.receivers, Listened watched.state.log.tx receiver := by
  refine run_invariant (motive := fun watched => ∀ receiver ∈ watched.receivers,
    Listened watched.state.log.tx receiver) ?_ run (fun _ none => nomatch none)
  intro event before after listened _ taken
  cases event with
  | call action =>
      obtain ⟨next, moved, rfl⟩ := Option.map_eq_some_iff.mp taken
      exact fun receiver here => step_listened action _ next receiver (listened receiver here) moved
  | subscribe =>
      cases taken
      intro receiver here
      rcases List.mem_append.mp here with old | new
      · exact listened receiver old
      · rw [List.mem_singleton.mp new]
        exact receiver_listened _
  | recv subscriber =>
      obtain ⟨receiver, found, rfl⟩ := Option.map_eq_some_iff.mp taken
      intro other here
      rcases List.mem_or_eq_of_mem_set here with old | rfl
      · exact listened other old
      · exact deliver_listened _ _ (listened receiver (List.mem_of_getElem? found))

/-- A subscriber who was there from the start and takes each entry as soon as it is sent. -/
def attended (actions : List Action) : List Event :=
  .subscribe :: actions.flatMap fun action => [.call action, .recv 0]

theorem attended_calls (actions : List Action) : callsOf (attended actions) = actions := by
  induction actions with
  | nil => rfl
  | cons action rest ih => simpa [callsOf, attended] using ih

theorem attended_run (cap : Nat) (clock : SystemTime) (actions : List Action) (state : State)
    (run : Run step anyAction (.new cap clock) actions state) :
    Run watch anyAction (.new cap clock) (attended actions) ⟨state, [state.log.tx.caughtUp]⟩ := by
  refine run_history (motive := fun actions state =>
    Run watch anyAction (.new cap clock) (attended actions) ⟨state, [state.log.tx.caughtUp]⟩)
    (Run.next trivial rfl (Run.refl _)) ?_ run
  intro front action before after begun watched _ taken
  have room := (sound_run cap clock front before begun).room
  have shape : attended (front ++ [action]) = attended front ++ [.call action, .recv 0] := by
    simp [attended]
  have called : watch (.call action) ⟨before, [before.log.tx.caughtUp]⟩ =
      some ⟨after, [before.log.tx.caughtUp]⟩ := by
    rw [watch, taken]
    rfl
  have took : after.log.tx.deliver before.log.tx.caughtUp = after.log.tx.caughtUp := by
    cases step_moved action before after taken with
    | record r now later => exact deliver_nothing _
    | push mine present => exact deliver_nothing _
    | send mine present => exact deliver_sent _ mine room
  have received : watch (.recv 0) ⟨after, [before.log.tx.caughtUp]⟩ =
      some ⟨after, [after.log.tx.caughtUp]⟩ := by
    rw [← took]
    rfl
  rw [shape]
  exact run_append watched (Run.next trivial called (Run.next trivial received (Run.refl _)))

end Subscribers

/-! Calls that are not overtaken. -/
section Order

/-- A call pushes its entry behind one that is no later, unless the ring has room for one
only, and sends it while none that was pushed behind it has been sent. -/
def InOrder : Action → State → Prop
  | .record _ _, _ => True
  | .push id, state =>
      state.log.buf.cap = 1 ∨ ∀ call last, state.calls[id]? = some call →
        state.log.buf.items.getLast? = some last → last.entry.time ≤ call.entry.time
  | .send id, state =>
      ∀ front mine back, state.pushed = front ++ mine :: back → mine.call = id →
        ∀ later ∈ back, later ∉ state.log.tx.sent

def noLater (left right : Logged) : Prop := left.entry.time ≤ right.entry.time

theorem no_later_trans (a b c : Logged) (first : noLater a b) (second : noLater b c) :
    noLater a c := Int.le_trans first second

theorem newest_first (log : QueryLog) :
    (log.snapshotNewestFirst.Pairwise fun newer older => older.time ≤ newer.time) ↔
      log.buf.items.Pairwise noLater := by
  rw [QueryLog.snapshotNewestFirst, List.pairwise_map, List.pairwise_reverse]
  rfl

/-- An entry that goes behind all others of a sublist extends it. -/
theorem sublist_extended {Item : Type} (front back sent : List Item) (mine : Item)
    (within : sent.Sublist (front ++ mine :: back)) (fresh : mine ∉ sent)
    (first : ∀ later ∈ back, later ∉ sent) :
    (sent ++ [mine]).Sublist (front ++ mine :: back) := by
  obtain ⟨left, right, rfl, early, late⟩ := List.sublist_append_iff.mp within
  have none : right = [] := by
    refine List.eq_nil_iff_forall_not_mem.mpr fun item listed => ?_
    have present := List.mem_append_right left listed
    rcases List.mem_cons.mp (late.mem listed) with rfl | behind
    · exact fresh present
    · exact first item behind present
  rw [none, List.append_nil]
  exact early.append ((List.nil_sublist back).cons_cons mine)

/-- Of two items of a list without repetitions only one can stand before the other. -/
theorem sublist_early {Item : Type} (front back : List Item) (mine other : Item)
    (once : (front ++ mine :: back).Nodup)
    (ordered : [other, mine].Sublist (front ++ mine :: back)) : other ∉ back := by
  intro behind
  obtain ⟨left, right, parts, early, late⟩ := List.sublist_append_iff.mp ordered
  obtain ⟨_, rest, apart⟩ := List.nodup_append.mp once
  have ownBack : mine ∉ back := (List.nodup_cons.mp rest).1
  cases left with
  | nil =>
      rw [List.nil_append] at parts
      subst parts
      exact ownBack (late.tail.mem (List.mem_singleton_self mine))
  | cons first more =>
      have same : other = first := (List.cons.inj parts).1
      exact apart other (same ▸ early.mem List.mem_cons_self) other
        (List.mem_cons_of_mem mine behind) rfl

/-- The ring is ordered by time, and the feed is in its order. -/
structure Ordered (state : State) : Prop where
  times : state.log.buf.items.Pairwise noLater
  feed : state.log.tx.sent.Sublist state.pushed

theorem pushed_nodup (state : State) (sound : Sound state) : state.pushed.Nodup :=
  sound.once.of_map _

theorem unsent (state : State) (sound : Sound state) (mine : Logged)
    (present : state.calls[mine.call]? = some ⟨mine.entry, .pushed⟩) :
    mine ∉ state.log.tx.sent := by
  intro inside
  obtain ⟨phase, found, sent⟩ := (sound.sent mine).mp inside
  rw [present] at found
  rw [sent] at found
  cases found

theorem pushed_split (state : State) (sound : Sound state) (mine : Logged)
    (present : state.calls[mine.call]? = some ⟨mine.entry, .pushed⟩) :
    ∃ front back, state.pushed = front ++ mine :: back :=
  List.append_of_mem ((sound.pushed mine).mpr ⟨.pushed, present, by simp⟩)

theorem ordered_step (action : Action) (state after : State) (sound : Sound state)
    (ordered : Ordered state) (inOrder : InOrder action state)
    (taken : step action state = some after) : Ordered after := by
  obtain ⟨times, feed⟩ := ordered
  cases step_moved action state after taken with
  | record r now later => exact ⟨times, feed⟩
  | push mine present =>
      refine ⟨push_ordered no_later_trans _ mine times ?_, feed.trans ?_⟩
      · rcases inOrder with narrow | follows
        · exact .inl narrow
        · exact .inr fun last found => follows _ last present found
      · exact List.sublist_append_left _ _
  | send mine present =>
      refine ⟨times, ?_⟩
      obtain ⟨front, back, split⟩ := pushed_split state sound mine present
      have first := inOrder front mine back split rfl
      have fresh := unsent state sound mine present
      show (state.log.tx.sent ++ [mine]).Sublist state.pushed
      rw [split] at feed ⊢
      exact sublist_extended front back _ mine feed fresh first

/-- What leaves the views in order was done in order. -/
theorem step_ordered (action : Action) (state after : State) (sound : Sound state)
    (ordered : Ordered after) (taken : step action state = some after) : InOrder action state := by
  obtain ⟨times, feed⟩ := ordered
  cases step_moved action state after taken with
  | record r now later => trivial
  | push mine present =>
      rcases ordered_push _ mine times with narrow | follows
      · exact .inl narrow
      · refine .inr fun call last found lastIs => ?_
        rw [present] at found
        cases found
        exact follows last lastIs
  | send mine present =>
      intro front other back split same later behind inside
      have own : other = mine := by
        obtain ⟨phase, found, _⟩ := (sound.pushed other).mp (split ▸ List.mem_append_right _
          List.mem_cons_self)
        rw [same, present] at found
        have entry := (Call.mk.inj (Option.some.inj found)).1
        obtain ⟨number, _⟩ := other
        exact Logged.mk.injEq .. ▸ ⟨same, entry.symm⟩
      subst own
      have once := pushed_nodup state sound
      have kept : (state.log.tx.sent ++ [other]).Sublist state.pushed := feed
      have pair : [later, other].Sublist (state.log.tx.sent ++ [other]) :=
        (List.singleton_sublist.mpr inside).append (List.Sublist.refl _)
      rw [split] at once kept
      exact sublist_early front back other later once (pair.trans kept) behind

theorem ordered_run (cap : Nat) (clock : SystemTime) (actions : List Action) (state : State)
    (run : Run step InOrder (.new cap clock) actions state) : Ordered state := by
  have both : Sound state ∧ Ordered state := by
    refine run_invariant (motive := fun state => Sound state ∧ Ordered state) ?_ run
      ⟨sound_new cap clock, List.Pairwise.nil, List.nil_sublist _⟩
    rintro action before after ⟨sound, ordered⟩ inOrder taken
    exact ⟨sound_step action before after sound taken,
      ordered_step action before after sound ordered inOrder taken⟩
  exact both.2

/-- The dashboard sees the newest entry first, and every subscriber takes the entries in
the order they stand in the ring. -/
structure Agrees (watched : Watched) : Prop where
  newestFirst : watched.state.log.snapshotNewestFirst.Pairwise
    fun newer older => older.time ≤ newer.time
  live : ∀ receiver ∈ watched.receivers, receiver.received.Sublist watched.state.pushed

/-- A run that takes the steps of a schedule, as far as it goes, with any subscribers. -/
def Follows (cap : Nat) (clock : SystemTime) (schedule : List Action) (events : List Event)
    (watched : Watched) : Prop :=
  callsOf events <+: schedule ∧ Run watch anyAction (.new cap clock) events watched

theorem views_agree_iff (cap : Nat) (clock : SystemTime) (schedule : List Action) (after : State)
    (run : Run step anyAction (.new cap clock) schedule after) :
    (∀ events watched, Follows cap clock schedule events watched →
      Retained cap (callsOf events) watched.state) ∧
    ((∀ events watched, Follows cap clock schedule events watched → Agrees watched) ↔
      Run step InOrder (.new cap clock) schedule after) := by
  refine ⟨fun events watched follows => ?_, fun agrees => ?_, fun inOrder => ?_⟩
  · exact retained_run cap clock _ _ (watched_calls cap clock events watched follows.2)
  · refine run_each run fun front action back before next split begun taken => ?_
    have sound := sound_run cap clock front before begun
    have through : Run step anyAction (.new cap clock) (front ++ [action]) next :=
      run_append begun (Run.next trivial taken (Run.refl next))
    -- A subscriber that misses nothing has taken the whole feed.
    have seen := agrees (attended (front ++ [action])) ⟨next, [next.log.tx.caughtUp]⟩
      ⟨by rw [attended_calls, split]; exact ⟨back, by simp⟩,
        attended_run cap clock _ next through⟩
    exact step_ordered action before next sound
      ⟨(newest_first next.log).mp seen.newestFirst, seen.live _ (List.mem_singleton_self _)⟩ taken
  · rintro events watched ⟨⟨rest, joined⟩, watchedRun⟩
    have calls := watched_calls cap clock events watched watchedRun
    rw [← joined] at inOrder
    obtain ⟨middle, front, _⟩ := run_split inOrder
    have same : middle = watched.state := run_deterministic front calls
    have ordered := same ▸ ordered_run cap clock _ middle front
    refine ⟨(newest_first _).mpr ordered.times, fun receiver here => ?_⟩
    have listened := listened_run cap clock events watched watchedRun receiver here
    exact (listened.1.trans (List.take_sublist _ _)).trans ordered.feed

/-! Two calls at once with a subscriber, each step in turn; the second call pushing first
though it read the clock last; and the second call sending first. -/
def sampleRecord : Record :=
  { client := .V6 1, name := ⟨[[97]], true⟩, qtype := .AAAA, rcode := .NoError, cache := .Miss
    outcome := .Passthrough, latency := 1 }

def sampleSchedule : List Action :=
  [.record sampleRecord 0, .record sampleRecord 1, .push 0, .push 1, .send 0, .send 1]

theorem sample_in_order : ∃ state, Run step InOrder (.new 2 0) sampleSchedule state ∧
    state.log.tx.sent.map Logged.call = [0, 1] := by
  refine ⟨_, .next trivial rfl (.next trivial rfl (.next ?_ rfl (.next ?_ rfl (.next ?_ rfl
    (.next ?_ rfl (.refl _)))))), rfl⟩
  · exact .inr fun _ _ _ none => nomatch none
  · refine .inr fun call last found lastIs => ?_
    cases found
    cases lastIs
    decide
  · exact fun _ _ _ _ _ _ _ => List.not_mem_nil
  · intro front mine back split same later behind inside
    have first : later.call = 0 := by
      rw [List.mem_singleton.mp inside]
    have second : [mine, later].Sublist (front ++ mine :: back) :=
      (List.Sublist.cons_cons mine (List.singleton_sublist.mpr behind)).trans
        (List.sublist_append_right front _)
    have calls := (split ▸ second).map Logged.call
    rw [List.map_cons, List.map_singleton, same, first] at calls
    exact absurd (calls : [1, 0].Sublist [0, 1]) (by decide)

theorem views_agree_two : ∃ watched, Run watch anyAction (.new 2 0) (attended sampleSchedule)
    watched ∧ Agrees watched ∧
      watched.receivers.map (fun receiver => receiver.received.map Logged.call) = [[0, 1]] := by
  obtain ⟨state, inOrder, sent⟩ := sample_in_order
  have run : Run step anyAction (.new 2 0) sampleSchedule state :=
    run_weaken (fun _ _ _ => trivial) inOrder
  have watchedRun := attended_run 2 0 sampleSchedule state run
  refine ⟨_, watchedRun, ?_, ?_⟩
  · exact ((views_agree_iff 2 0 sampleSchedule state run).2.mpr inOrder) _ _
      ⟨by rw [attended_calls], watchedRun⟩
  · exact congrArg (fun calls => [calls]) sent

theorem overtaken_views_differ :
    (∃ watched, exec watch
      [.call (.record sampleRecord 0), .call (.record sampleRecord 1), .call (.push 1),
        .call (.push 0)] (.new 2 0) = some watched ∧
      watched.state.log.snapshotNewestFirst.map Entry.time = [0, 1] ∧ ¬Agrees watched) ∧
    ∃ watched, exec watch
      [.subscribe, .call (.record sampleRecord 0), .call (.record sampleRecord 1), .call (.push 0),
        .call (.push 1), .call (.send 1), .call (.send 0), .recv 0, .recv 0] (.new 2 0) =
          some watched ∧
      watched.state.pushed.map Logged.call = [0, 1] ∧
      watched.receivers.map (fun receiver => receiver.received.map Logged.call) = [[1, 0]] ∧
      ¬Agrees watched := by
  obtain ⟨crossed, crossedRun, times⟩ : ∃ watched, exec watch
      [.call (.record sampleRecord 0), .call (.record sampleRecord 1), .call (.push 1),
        .call (.push 0)] (.new 2 0) = some watched ∧
      watched.state.log.snapshotNewestFirst.map Entry.time = [0, 1] := ⟨_, rfl, rfl⟩
  refine ⟨⟨crossed, crossedRun, times, fun agrees => ?_⟩, ⟨_, rfl, rfl, rfl, fun agrees => ?_⟩⟩
  · have sorted : (crossed.state.log.snapshotNewestFirst.map Entry.time).Pairwise
        fun newer older => older ≤ newer := List.pairwise_map.mpr agrees.newestFirst
    rw [times] at sorted
    exact absurd sorted (by decide)
  · have taken := (agrees.live _ (List.mem_singleton_self _)).map Logged.call
    exact absurd (taken : [1, 0].Sublist [0, 1]) (by decide)

end Order

/-! Calls one after another, as they are when nothing is concurrent. -/
section Turns

/-- A call begins when no other is between two of its steps. -/
def Alone : Action → State → Prop
  | .record _ _, state => ∀ call ∈ state.calls, call.phase = .sent
  | _, _ => True

/-- Only the last call is under way, and time and calls go the way the entries were pushed. -/
structure InTurn (state : State) : Prop where
  sound : Sound state
  latest : ∀ entry ∈ state.calls.map Call.entry, entry.time ≤ state.clock
  times : (state.calls.map Call.entry).Pairwise fun earlier later => earlier.time ≤ later.time
  last : ∀ id call, state.calls[id]? = some call → call.phase ≠ .sent → id + 1 = state.calls.length
  order : (state.pushed.map Logged.call).Pairwise (· < ·)

theorem in_turn_new (cap : Nat) (clock : SystemTime) : InTurn (.new cap clock) where
  sound := sound_new cap clock
  latest _ none := nomatch none
  times := .nil
  last _ _ none := nomatch none
  order := .nil

theorem set_entries (calls : List Call) (mine : Logged) (start phase : Phase)
    (present : calls[mine.call]? = some ⟨mine.entry, start⟩) :
    (calls.set mine.call ⟨mine.entry, phase⟩).map Call.entry = calls.map Call.entry := by
  obtain ⟨inside, here⟩ := List.getElem?_eq_some_iff.mp present
  refine List.ext_getElem? fun id => ?_
  rw [List.getElem?_map, List.getElem?_map, set_call mine phase present]
  by_cases own : mine.call = id
  · rw [if_pos own, ← own, present]
    rfl
  · rw [if_neg own]

theorem set_last (calls : List Call) (mine : Logged) (start phase : Phase)
    (present : calls[mine.call]? = some ⟨mine.entry, start⟩) (under : start ≠ .sent)
    (last : ∀ id call, calls[id]? = some call → call.phase ≠ .sent → id + 1 = calls.length) :
    ∀ id call, (calls.set mine.call ⟨mine.entry, phase⟩)[id]? = some call → call.phase ≠ .sent →
      id + 1 = (calls.set mine.call ⟨mine.entry, phase⟩).length := by
  intro id call found unsent
  rw [List.length_set]
  rw [set_call mine phase present] at found
  by_cases own : mine.call = id
  · exact own ▸ last mine.call _ present under
  · rw [if_neg own] at found
    exact last id call found unsent

/-- An entry that was pushed is of an earlier call than the one under way. -/
theorem pushed_before (state : State) (turn : InTurn state) (mine other : Logged) (start : Phase)
    (present : state.calls[mine.call]? = some ⟨mine.entry, start⟩) (under : start ≠ .sent)
    (listed : other ∈ state.pushed) (apart : other.call ≠ mine.call) : other.call < mine.call := by
  obtain ⟨phase, found, _⟩ := (turn.sound.pushed other).mp listed
  have inside := (List.getElem?_eq_some_iff.mp found).1
  have last := turn.last mine.call _ present under
  omega

theorem stamped_apart (state : State) (sound : Sound state) (mine other : Logged)
    (present : state.calls[mine.call]? = some ⟨mine.entry, .stamped⟩)
    (listed : other ∈ state.pushed) : other.call ≠ mine.call := by
  intro same
  obtain ⟨phase, found, moved⟩ := (sound.pushed other).mp listed
  rw [same, present] at found
  exact moved (Call.mk.inj (Option.some.inj found)).2.symm

theorem in_turn_step (action : Action) (state after : State) (turn : InTurn state)
    (alone : Alone action state) (taken : step action state = some after) : InTurn after := by
  have sound := sound_step action state after turn.sound taken
  cases step_moved action state after taken with
  | record r now later =>
      have before : ∀ entry ∈ state.calls.map Call.entry, entry.time ≤ now :=
        fun entry listed => Int.le_trans (turn.latest entry listed) later
      refine ⟨sound, ?_, ?_, ?_, turn.order⟩
      · rw [List.map_append, List.forall_mem_append]
        exact ⟨before, List.forall_mem_singleton.mpr (Int.le_refl now)⟩
      · rw [List.map_append, List.pairwise_append]
        exact ⟨turn.times, List.pairwise_singleton _ _, fun entry listed =>
          List.forall_mem_singleton.mpr (before entry listed)⟩
      · intro id call found unsent
        rw [List.length_append, List.length_singleton]
        by_cases old : id < state.calls.length
        · rw [List.getElem?_append_left old] at found
          exact absurd (alone call (List.mem_of_getElem? found)) unsent
        · have inside := (List.getElem?_eq_some_iff.mp found).1
          rw [List.length_append, List.length_singleton] at inside
          omega
  | push mine present =>
      have entries := set_entries state.calls mine .stamped .pushed present
      refine ⟨sound, fun entry listed => turn.latest entry (entries ▸ listed),
        entries.symm ▸ turn.times, set_last _ mine .stamped .pushed present nofun turn.last, ?_⟩
      rw [State.push, List.map_append, List.pairwise_append]
      refine ⟨turn.order, List.pairwise_singleton _ _, fun call listed =>
        List.forall_mem_singleton.mpr ?_⟩
      obtain ⟨other, inside, rfl⟩ := List.mem_map.mp listed
      exact pushed_before state turn mine other .stamped present nofun inside
        (stamped_apart state turn.sound mine other present inside)
  | send mine present =>
      have entries := set_entries state.calls mine .pushed .sent present
      exact ⟨sound, fun entry listed => turn.latest entry (entries ▸ listed),
        entries.symm ▸ turn.times, set_last _ mine .pushed .sent present nofun turn.last,
        turn.order⟩

theorem in_turn_in_order (action : Action) (state after : State) (turn : InTurn state)
    (taken : step action state = some after) : InOrder action state := by
  cases step_moved action state after taken with
  | record r now later => trivial
  | push mine present =>
      refine .inr fun call last found lastIs => ?_
      rw [present] at found
      cases found
      have listed : last ∈ state.pushed := by
        have inside := List.mem_of_getLast? lastIs
        rw [turn.sound.newest] at inside
        exact List.mem_of_mem_drop inside
      have earlier := pushed_before state turn mine last .stamped present nofun listed
        (stamped_apart state turn.sound mine last present listed)
      obtain ⟨phase, there, _⟩ := (turn.sound.pushed last).mp listed
      obtain ⟨lastIn, lastHere⟩ := List.getElem?_eq_some_iff.mp there
      obtain ⟨mineIn, mineHere⟩ := List.getElem?_eq_some_iff.mp present
      have ordered := List.pairwise_iff_getElem.mp (List.pairwise_map.mp turn.times)
        last.call mine.call lastIn mineIn earlier
      rw [lastHere, mineHere] at ordered
      exact ordered
  | send mine present =>
      intro front other back split same later behind _
      have order := turn.order
      rw [split, List.map_append, List.map_cons, List.pairwise_append, List.pairwise_cons] at order
      have after : other.call < later.call := order.2.1.1 _ (List.mem_map_of_mem behind)
      have listed : later ∈ state.pushed :=
        split ▸ List.mem_append_right front (List.mem_cons_of_mem other behind)
      have before := pushed_before state turn mine later .pushed present nofun listed (by omega)
      omega

/-- Calls that never meet are in order. -/
theorem alone_in_order (cap : Nat) (clock : SystemTime) (schedule : List Action) (after : State)
    (run : Run step Alone (.new cap clock) schedule after) :
    Run step InOrder (.new cap clock) schedule after :=
  run_admitted in_turn_step in_turn_in_order run (in_turn_new cap clock)

end Turns

end Dnsix.LogViews
