import Mathlib.Data.List.Basic

/-!
A bounded broadcast channel with counted senders. A receiver is the position of
the next value it has not seen; values sent before it subscribed are behind it.
A receiver that is overtaken by more values than the channel retains has lagged.
The channel is closed once no sender is left, but values already sent to a
receiver stay readable.
-/

namespace Dnsix.Broadcast

universe u
variable {Value : Type u}

structure Channel (Value : Type u) where
  capacity : Nat
  sent : List Value
  senders : Nat

inductive Received (Value : Type u) where
  | value (value : Value)
  | lagged
  | closed
  | pending
  deriving DecidableEq

def channel (capacity : Nat) : Channel Value := ⟨capacity, [], 1⟩

def Channel.cloneSender (ch : Channel Value) : Channel Value :=
  { ch with senders := ch.senders + 1 }

def Channel.dropSender (ch : Channel Value) : Channel Value :=
  { ch with senders := ch.senders - 1 }

def Channel.send (ch : Channel Value) (value : Value) : Channel Value :=
  { ch with sent := ch.sent ++ [value] }

/-- The position a new receiver starts reading from. -/
def Channel.subscribe (ch : Channel Value) : Nat := ch.sent.length

def Channel.recv (ch : Channel Value) (next : Nat) : Received Value :=
  if next + ch.capacity < ch.sent.length then .lagged
  else
    match ch.sent[next]? with
    | some value => .value value
    | none => if ch.senders = 0 then .closed else .pending

/-- The one value sent after a receiver subscribed reaches it, however many
senders are left. -/
theorem recv_single_sent (ch : Channel Value) (value : Value) (room : 0 < ch.capacity)
    (only : ch.sent = [value]) : ch.recv 0 = .value value := by
  have inside : ¬ ch.capacity = 0 := by omega
  simp [Channel.recv, only, inside]

/-! Receivers that stay. -/
section Receivers

/-- A receiver with what it has taken so far. -/
structure Receiver (Value : Type u) where
  next : Nat
  received : List Value

def Channel.receiver (ch : Channel Value) : Receiver Value := ⟨ch.subscribe, []⟩

/-- A receiver that has lagged goes on with the oldest value retained. -/
def Channel.deliver (ch : Channel Value) (receiver : Receiver Value) : Receiver Value :=
  match ch.recv receiver.next with
  | .value value => ⟨receiver.next + 1, receiver.received ++ [value]⟩
  | .lagged => ⟨ch.sent.length - ch.capacity, receiver.received⟩
  | .closed | .pending => receiver

/-- What was received was sent before the receiver's position, in this order. -/
def Listened (ch : Channel Value) (receiver : Receiver Value) : Prop :=
  receiver.received.Sublist (ch.sent.take receiver.next) ∧ receiver.next ≤ ch.sent.length

theorem receiver_listened (ch : Channel Value) : Listened ch ch.receiver :=
  ⟨List.nil_sublist _, Nat.le_refl _⟩

theorem send_listened (ch : Channel Value) (value : Value) (receiver : Receiver Value)
    (listened : Listened ch receiver) : Listened (ch.send value) receiver := by
  obtain ⟨taken, behind⟩ := listened
  constructor
  · rw [Channel.send, List.take_append_of_le_length behind]
    exact taken
  · rw [Channel.send, List.length_append]
    exact Nat.le_trans behind (Nat.le_add_right _ _)

theorem recv_value (ch : Channel Value) (next : Nat) (value : Value)
    (found : ch.recv next = .value value) : ch.sent[next]? = some value := by
  unfold Channel.recv at found
  split at found
  · cases found
  · cases here : ch.sent[next]? with
    | none =>
        simp only [here] at found
        split at found <;> cases found
    | some other =>
        simp only [here] at found
        cases found
        rfl

theorem recv_lagged (ch : Channel Value) (next : Nat) (lagged : ch.recv next = .lagged) :
    next + ch.capacity < ch.sent.length := by
  unfold Channel.recv at lagged
  split at lagged
  · assumption
  · cases here : ch.sent[next]? with
    | none =>
        simp only [here] at lagged
        split at lagged <;> cases lagged
    | some other =>
        simp only [here] at lagged
        cases lagged

theorem deliver_listened (ch : Channel Value) (receiver : Receiver Value)
    (listened : Listened ch receiver) : Listened ch (ch.deliver receiver) := by
  obtain ⟨taken, behind⟩ := listened
  unfold Channel.deliver
  cases got : ch.recv receiver.next with
  | value value =>
      obtain ⟨inside, here⟩ := List.getElem?_eq_some_iff.mp (recv_value ch _ value got)
      refine ⟨?_, inside⟩
      rw [List.take_add_one, List.getElem?_eq_getElem inside, here]
      exact taken.append (List.Sublist.refl _)
  | lagged =>
      have missed := recv_lagged ch _ got
      have onward : receiver.next ≤ ch.sent.length - ch.capacity := by omega
      exact ⟨taken.trans (List.take_prefix_take_left onward).sublist, Nat.sub_le _ _⟩
  | closed => exact ⟨taken, behind⟩
  | pending => exact ⟨taken, behind⟩

/-- A receiver that has taken everything that was sent. -/
def Channel.caughtUp (ch : Channel Value) : Receiver Value := ⟨ch.sent.length, ch.sent⟩

theorem deliver_nothing (ch : Channel Value) : ch.deliver ch.caughtUp = ch.caughtUp := by
  have near : ¬ch.sent.length + ch.capacity < ch.sent.length := by omega
  have none : ch.sent[ch.sent.length]? = none := List.getElem?_eq_none (Nat.le_refl _)
  have got : ch.recv ch.sent.length = if ch.senders = 0 then .closed else .pending := by
    rw [Channel.recv, if_neg near, none]
  rw [Channel.deliver, Channel.caughtUp, got]
  by_cases closed : ch.senders = 0
  · rw [if_pos closed]
  · rw [if_neg closed]

theorem deliver_sent (ch : Channel Value) (value : Value) (room : 0 < ch.capacity) :
    (ch.send value).deliver ch.caughtUp = (ch.send value).caughtUp := by
  have length : (ch.send value).sent.length = ch.sent.length + 1 := List.length_append
  have near : ¬ch.sent.length + (ch.send value).capacity < (ch.send value).sent.length := by
    rw [length]
    exact Nat.not_lt.mpr (Nat.add_le_add_left room _)
  have got : (ch.send value).recv ch.sent.length = .value value := by
    have here : (ch.send value).sent[ch.sent.length]? = some value := List.getElem?_concat_length
    rw [Channel.recv, if_neg near, here]
  rw [Channel.deliver, Channel.caughtUp, got, Channel.caughtUp, length]
  rfl

end Receivers

end Dnsix.Broadcast
