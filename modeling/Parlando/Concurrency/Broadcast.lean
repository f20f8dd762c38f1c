import Mathlib.Tactic.TypeStar

namespace Parlando.Concurrency

/-- A bounded broadcast channel: all messages ever sent, of which the last ones are retained. -/
structure Broadcast (α : Type*) where
  capacity : Nat
  sent : List α := []

namespace Broadcast

inductive Received (α : Type*) where
  | empty
  /-- The next message is no longer retained. -/
  | lagged
  | message (value : α)

variable {α : Type*} (bus : Broadcast α) {start next : Nat} {m m' : α}

def send (m : α) : Broadcast α := { bus with sent := bus.sent ++ [m] }

/-- A receiver has fallen behind by more than the channel retains. -/
def lags (next : Nat) : Bool := decide (next + bus.capacity < bus.sent.length)

def receive (next : Nat) : Received α :=
  if bus.lags next then .lagged
  else match bus.sent[next]? with
    | none => .empty
    | some m => .message m

def between (start stop : Nat) : List α := (bus.sent.take stop).drop start

variable {bus}

theorem receive_message (h : bus.receive next = .message m) : bus.sent[next]? = some m := by
  rw [receive] at h
  split at h
  · cases h
  · split at h <;> cases h
    assumption

theorem receive_ne_lagged (kept : bus.lags next = false) : bus.receive next ≠ .lagged := by
  rw [receive, kept, if_neg Bool.false_ne_true]
  cases bus.sent[next]? <;> simp

theorem between_self (position : Nat) : bus.between position position = [] :=
  List.drop_eq_nil_of_le (List.length_take_le _ _)

theorem between_length (start : Nat) :
    bus.between start bus.sent.length = bus.sent.drop start := by
  rw [between, List.take_length]

theorem between_succ (order : start ≤ next) (here : bus.sent[next]? = some m) :
    bus.between start (next + 1) = bus.between start next ++ [m] := by
  have inside : next < bus.sent.length := (List.getElem?_eq_some_iff.mp here).1
  rw [between, between, List.take_add_one, here, List.drop_append_of_le_length]
  · rfl
  · rw [List.length_take]
    omega

/-- Sending leaves alone what lies behind. -/
theorem between_send {stop : Nat} (behind : stop ≤ bus.sent.length) :
    (bus.send m).between start stop = bus.between start stop := by
  rw [between, between, send, List.take_append_of_le_length behind]

/-- What has been sent between two positions starts what has been sent since the first. -/
theorem between_append (start stop : Nat) :
    ∃ rest, bus.sent.drop start = bus.between start stop ++ rest := by
  refine ⟨(bus.sent.drop stop).drop (start - (bus.sent.take stop).length), ?_⟩
  rw [between, ← List.drop_append, List.take_append_drop]

end Broadcast

end Parlando.Concurrency
