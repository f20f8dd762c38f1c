import Mathlib.Tactic.TypeStar

namespace Parlando.Concurrency

/--
A bounded channel with many senders and one receiver: all messages ever sent, and how many of them
have been received. A sender takes a place first and writes its message into it later.
-/
structure Channel (α : Type*) where
  capacity : Nat
  sent : List α := []
  received : Nat := 0
  /-- The places taken by senders that have not written their message yet. -/
  reserved : Nat := 0
  /-- The receiver accepts nothing more than what has a place already. -/
  closed : Bool := false
  /-- Every sender has been dropped. -/
  dropped : Bool := false

namespace Channel

inductive Refusal where
  | full
  | closed

inductive Received (α : Type*) where
  | pending
  /-- Nothing more will ever be sent. -/
  | ended
  | message (value : α)

variable {α : Type*} (channel : Channel α) {m : α}

/-- The messages waiting for the receiver. -/
def queue : List α := channel.sent.drop channel.received

def reserve : Except Refusal (Channel α) :=
  if channel.closed then .error .closed
  else if channel.queue.length + channel.reserved < channel.capacity then
    .ok { channel with reserved := channel.reserved + 1 }
  else .error .full

def send (m : α) : Channel α :=
  { channel with sent := channel.sent ++ [m], reserved := channel.reserved - 1 }

/-- A sender that does not wait: without a place, its message is lost. -/
def trySend (m : α) : Channel α :=
  match channel.reserve with
  | .ok channel => channel.send m
  | .error _ => channel

def receive : Received α :=
  match channel.sent[channel.received]? with
  | some m => .message m
  | none =>
    if (channel.closed || channel.dropped) && channel.reserved == 0 then .ended else .pending

def take : Channel α := { channel with received := channel.received + 1 }

/-- The receiver asks for its next message, and takes it out if there is one. -/
def recv : Received α × Channel α :=
  match channel.receive with
  | .message m => (.message m, channel.take)
  | other => (other, channel)

def close : Channel α := { channel with closed := true }

variable {channel} {after : Channel α} {refusal : Refusal}

/-- What a sender that gets a place has changed. -/
theorem reserve_ok (h : channel.reserve = .ok after) :
    channel.closed = false ∧ after = { channel with reserved := channel.reserved + 1 } := by
  rw [reserve] at h
  split at h
  · cases h
  · rename_i opened
    split at h <;> cases h
    exact ⟨by simpa using opened, rfl⟩

theorem receive_message (h : channel.receive = .message m) :
    channel.sent[channel.received]? = some m := by
  rw [receive] at h
  split at h
  · cases h
    assumption
  · split at h <;> cases h

/-- The receiver is told about the end once all is received and no place is taken. -/
theorem receive_ended (h : channel.receive = .ended) :
    channel.sent.length ≤ channel.received ∧ channel.reserved = 0 := by
  rw [receive] at h
  split at h
  · cases h
  · rename_i nothing
    split at h
    · rename_i finished
      simp only [Bool.and_eq_true, beq_iff_eq] at finished
      exact ⟨List.getElem?_eq_none_iff.mp nothing, finished.2⟩
    · cases h

/-- With no places taken, a message is lost exactly when the channel is full. -/
theorem trySend_eq (opened : channel.closed = false) (idle : channel.reserved = 0) :
    channel.trySend m = if channel.queue.length < channel.capacity then
      { channel with sent := channel.sent ++ [m] } else channel := by
  unfold trySend reserve
  rw [opened, idle]
  by_cases room : channel.queue.length < channel.capacity
  · simp [room, send]
  · simp [room]

/-- Reading takes out the first message that has not been received. -/
theorem recv_of_some (next : channel.sent[channel.received]? = some m) :
    channel.recv = (.message m, channel.take) := by
  unfold recv receive
  rw [next]

theorem recv_of_none (empty : channel.sent[channel.received]? = none) :
    channel.recv = (.ended, channel) ∨ channel.recv = (.pending, channel) := by
  unfold recv receive
  rw [empty]
  dsimp only
  split
  · rename_i same
    split at same <;> cases same
  · split
    · exact .inl rfl
    · exact .inr rfl

end Channel

end Parlando.Concurrency
