import Parlando.GameChannel

namespace Parlando

open Concurrency

variable {P : Type}

def GameSocket.expected (bus : Broadcast (ServerMessage P)) (socket : GameSocket P)
    (stop : Nat) : List (ServerMessage P) :=
  (bus.between socket.subscribedAt stop).filter (ServerMessage.isFor socket.participantSessionId)

structure GameSocket.Follows (bus : Broadcast (ServerMessage P)) (socket : GameSocket P) :
    Prop where
  subscribed : socket.subscribedAt ≤ socket.next
  behind : socket.next ≤ bus.sent.length
  received : ∃ lost, socket.expected bus socket.next =
    socket.handed ++ (socket.sending.toList ++ lost) ∧ (socket.sends = true → lost = [])

/--
Nothing is missing on a connection: the messages handed over are those published for it, in order
and from its subscription on, as far as they go; while the loop runs the send task goes on, and once
it has caught up they are all there.
-/
structure NoSilentGap (bus : Broadcast (ServerMessage P)) (socket : GameSocket P) : Prop where
  inOrder : ∃ rest, (bus.sent.drop socket.subscribedAt).filter
    (ServerMessage.isFor socket.participantSessionId) = socket.handed ++ rest
  live : socket.serves = true → socket.sends = true
  complete : socket.serves = true → socket.next = bus.sent.length → socket.sending = none →
    socket.handed = (bus.sent.drop socket.subscribedAt).filter
      (ServerMessage.isFor socket.participantSessionId)

/-- A send task that asks for a message is not lagged, and a socket takes what it is handed. -/
def KeepsUp (channel : GameChannel P) : ChannelAction P → Prop
  | .receive i => ∀ socket : GameSocket P, channel.sockets[i]? = some socket →
      channel.bus.lags socket.next = false
  | .handOver _ ok => ok = true
  | _ => True

namespace GameSocket

variable {bus : Broadcast (ServerMessage P)} {socket socket' : GameSocket P}

theorem Follows.send (follows : socket.Follows bus) (message : ServerMessage P) :
    socket.Follows (bus.send message) where
  subscribed := follows.subscribed
  behind := by
    rw [Broadcast.send, List.length_append]
    exact Nat.le_add_right_of_le follows.behind
  received := by
    rw [expected, Broadcast.between_send follows.behind]
    exact follows.received

theorem follows_subscribe (bus : Broadcast (ServerMessage P)) (id : ParticipantSessionId) :
    Follows bus ⟨id, bus.sent.length, bus.sent.length, none, true, [], true⟩ where
  subscribed := Nat.le_refl _
  behind := Nat.le_refl _
  received := ⟨[], by rw [expected, Broadcast.between_self]; rfl, fun _ => rfl⟩

/-- Receiving a message takes it over for the socket, or skips one for somebody else. -/
theorem Follows.receive (follows : socket.Follows bus)
    (h : socket.receive bus = some socket') : socket'.Follows bus := by
  obtain ⟨lost, received, none⟩ := follows.received
  rw [GameSocket.receive] at h
  split at h
  · rename_i idle
    obtain ⟨sends, nothing⟩ := Bool.and_eq_true_iff.mp idle
    rw [none sends, Option.isNone_iff_eq_none.mp nothing] at received
    split at h
    · cases h
    · cases h
      exact ⟨follows.subscribed, follows.behind, [], by
        rw [Option.isNone_iff_eq_none.mp nothing]; exact received, fun _ => rfl⟩
    · rename_i message here
      have here := Broadcast.receive_message here
      have inside := (List.getElem?_eq_some_iff.mp here).1
      have next : (bus.between socket.subscribedAt (socket.next + 1)).filter
          (ServerMessage.isFor socket.participantSessionId) =
          socket.handed ++ [message].filter
            (ServerMessage.isFor socket.participantSessionId) := by
        rw [Broadcast.between_succ follows.subscribed here, List.filter_append]
        refine congrArg (· ++ _) (received.trans ?_)
        simp
      split at h
      · rename_i wanted
        cases h
        refine ⟨Nat.le_succ_of_le follows.subscribed, inside, [], ?_, fun _ => rfl⟩
        rw [expected, next, List.filter_cons_of_pos wanted]
        rfl
      · rename_i skipped
        cases h
        refine ⟨Nat.le_succ_of_le follows.subscribed, inside, [], ?_, fun _ => rfl⟩
        rw [expected, next, List.filter_cons_of_neg skipped,
          Option.isNone_iff_eq_none.mp nothing]
        rfl
  · cases h

theorem Follows.handOver {ok : Bool} (follows : socket.Follows bus)
    (h : socket.handOver ok = some socket') : socket'.Follows bus := by
  obtain ⟨lost, received, none⟩ := follows.received
  obtain ⟨message, sending, h⟩ := Option.map_eq_some_iff.mp h
  rw [sending] at received
  split at h <;> cases h
  · refine ⟨follows.subscribed, follows.behind, lost, ?_, none⟩
    rw [List.append_assoc]
    exact received
  · exact ⟨follows.subscribed, follows.behind, message :: lost, received,
      fun sends => absurd sends Bool.false_ne_true⟩

theorem Follows.close (follows : socket.Follows bus) (h : socket.close = some socket') :
    socket'.Follows bus := by
  obtain ⟨lost, received, none⟩ := follows.received
  rw [GameSocket.close] at h
  split at h <;> cases h
  exact ⟨follows.subscribed, follows.behind, socket.sending.toList ++ lost, received,
    fun sends => absurd sends Bool.false_ne_true⟩

/-- A connection that follows the bus and sends as long as it serves has no silent gap. -/
theorem Follows.noSilentGap (follows : socket.Follows bus)
    (live : socket.serves = true → socket.sends = true) : NoSilentGap bus socket := by
  obtain ⟨lost, received, none⟩ := follows.received
  refine ⟨?_, live, fun serves caughtUp idle => ?_⟩
  · obtain ⟨rest, all⟩ := bus.between_append socket.subscribedAt socket.next
    rw [expected] at received
    rw [all, List.filter_append, received, List.append_assoc]
    exact ⟨_, rfl⟩
  · rw [none (live serves), idle, caughtUp, expected, Broadcast.between_length] at received
    rw [received]
    simp

end GameSocket

namespace GameChannel

variable {channel channel' : GameChannel P}

theorem atSocket_cases {i : Nat} {step : GameSocket P → Option (GameSocket P)}
    (h : channel.atSocket i step = some channel') :
    ∃ socket socket' : GameSocket P, channel.sockets[i]? = some socket ∧
      step socket = some socket' ∧
      channel' = { channel with sockets := channel.sockets.set i socket' } := by
  obtain ⟨socket, here, h⟩ := Option.bind_eq_some_iff.mp h
  obtain ⟨socket', taken, h⟩ := Option.map_eq_some_iff.mp h
  exact ⟨socket, socket', here, taken, h.symm⟩

/-- What a step of one connection keeps, and all others have, every connection has. -/
theorem forall_set {i : Nat} {socket' : GameSocket P} {p : GameSocket P → Prop}
    (all : ∀ socket ∈ channel.sockets, p socket) (new : p socket') :
    ∀ socket ∈ channel.sockets.set i socket', p socket := by
  intro socket mem
  rcases List.mem_or_eq_of_mem_set mem with old | rfl
  · exact all socket old
  · exact new

/-- Every connection follows the bus, whatever happens. -/
theorem step_follows {action : ChannelAction P}
    (follows : ∀ socket ∈ channel.sockets, socket.Follows channel.bus)
    (h : channel.step action = some channel') :
    ∀ socket ∈ channel'.sockets, socket.Follows channel'.bus := by
  cases action with
  | publish message =>
    cases h
    exact fun socket mem => (follows socket mem).send message
  | subscribe id =>
    cases h
    intro socket mem
    rcases List.mem_append.mp mem with old | new
    · exact follows socket old
    · rw [List.mem_singleton.mp new]
      exact GameSocket.follows_subscribe channel.bus id
  | receive i =>
    obtain ⟨socket, socket', here, taken, rfl⟩ := atSocket_cases h
    exact forall_set follows ((follows socket (List.mem_of_getElem? here)).receive taken)
  | handOver i ok =>
    obtain ⟨socket, socket', here, taken, rfl⟩ := atSocket_cases h
    exact forall_set follows ((follows socket (List.mem_of_getElem? here)).handOver taken)
  | serve i answer =>
    simp only [step] at h
    split at h <;> cases h
    cases answer with
    | none => exact follows
    | some message => exact fun socket mem => (follows socket mem).send message
  | close i =>
    obtain ⟨socket, socket', here, taken, rfl⟩ := atSocket_cases h
    exact forall_set follows ((follows socket (List.mem_of_getElem? here)).close taken)

/-- As long as connections keep up, a loop that serves has its send task. -/
theorem step_live {action : ChannelAction P}
    (live : ∀ socket ∈ channel.sockets, socket.serves = true → socket.sends = true)
    (met : KeepsUp channel action) (h : channel.step action = some channel') :
    ∀ socket ∈ channel'.sockets, socket.serves = true → socket.sends = true := by
  cases action with
  | publish message =>
    cases h
    exact live
  | subscribe id =>
    cases h
    intro socket mem
    rcases List.mem_append.mp mem with old | new
    · exact live socket old
    · rw [List.mem_singleton.mp new]
      exact fun _ => rfl
  | receive i =>
    obtain ⟨socket, socket', here, taken, rfl⟩ := atSocket_cases h
    refine forall_set live fun serves => ?_
    rw [GameSocket.receive] at taken
    split at taken
    · rename_i idle
      have sends := (Bool.and_eq_true_iff.mp idle).1
      split at taken
      · cases taken
      · rename_i lagged
        exact absurd lagged (Broadcast.receive_ne_lagged (met socket here))
      · split at taken <;> cases taken <;> exact sends
    · cases taken
  | handOver i ok =>
    obtain ⟨socket, socket', here, taken, rfl⟩ := atSocket_cases h
    cases met
    obtain ⟨message, -, taken⟩ := Option.map_eq_some_iff.mp taken
    cases taken
    exact forall_set live (live socket (List.mem_of_getElem? here))
  | serve i answer =>
    simp only [step] at h
    split at h <;> cases h
    exact live
  | close i =>
    obtain ⟨socket, socket', here, taken, rfl⟩ := atSocket_cases h
    refine forall_set live fun serves => ?_
    rw [GameSocket.close] at taken
    split at taken <;> cases taken
    cases serves

end GameChannel

/--
As long as no receiver lags when it asks for a message and no socket refuses one, every connection
is handed what is published for it, and its loop does not outlive its send task.
-/
theorem connections_without_silent_gap {channel : GameChannel P}
    (run : (channelMachine P).Run KeepsUp (.initial P) channel) :
    ∀ socket ∈ channel.sockets, NoSilentGap channel.bus socket := by
  have kept : (∀ socket ∈ channel.sockets, socket.Follows channel.bus) ∧
      ∀ socket ∈ channel.sockets, socket.serves = true → socket.sends = true :=
    run.invariant ⟨by simp [GameChannel.initial], by simp [GameChannel.initial]⟩
      fun inv met step => ⟨GameChannel.step_follows inv.1 step, GameChannel.step_live inv.2 met step⟩
  exact fun socket mem => (kept.1 socket mem).noSilentGap (kept.2 socket mem)

def channelActions : List (ChannelAction Nat) :=
  [.subscribe (.human 0), .publish (.broadcast 1), .publish (.targeted (.human 1) 2), .receive 0,
    .handOver 0 true, .receive 0]

def keepsUp (channel : GameChannel P) : ChannelAction P → Bool
  | .receive i => channel.sockets[i]?.all fun socket => !channel.bus.lags socket.next
  | .handOver _ ok => ok
  | _ => true

theorem keepsUp_of_check (channel : GameChannel P) (action : ChannelAction P)
    (checked : keepsUp channel action = true) : KeepsUp channel action := by
  cases action with
  | receive i =>
    intro socket here
    simpa [keepsUp, here] using checked
  | handOver i ok => exact checked
  | publish | subscribe | serve | close => trivial

theorem connection_caught_up :
    ∃ channel, ((channelMachine Nat).restrict keepsUp).exec (.initial Nat) channelActions =
        some channel ∧
      (channel.sockets.map fun socket => socket.handed.map ServerMessage.payload) = [[1]] ∧
      ∀ socket ∈ channel.sockets, NoSilentGap channel.bus socket := by
  have reached : ((channelMachine Nat).restrict keepsUp).exec (.initial Nat) channelActions =
      some _ := rfl
  exact ⟨_, reached, rfl, connections_without_silent_gap (.of_exec keepsUp_of_check reached)⟩

def GameSocket.silent (socket : GameSocket P) : Bool := socket.serves && !socket.sends

/-- A receiver that falls 257 messages behind loses them, and its loop goes on without sending. -/
theorem lagged_connection_served_on :
    ∃ channel, (channelMachine Nat).Run Machine.unguarded (.initial Nat) channel ∧
      ∃ socket ∈ channel.sockets, ¬NoSilentGap channel.bus socket := by
  have lagged : ((channelMachine Nat).exec (.initial Nat) (.subscribe (.human 0) ::
      List.replicate 257 (.publish (.broadcast 0)) ++ [.receive 0, .serve 0 none])).any
        (fun channel => channel.sockets.any GameSocket.silent) = true := by decide +kernel
  obtain ⟨channel, reached, lagged⟩ := (Option.any_eq_true _ _).mp lagged
  obtain ⟨socket, mem, silent⟩ := List.any_eq_true.mp lagged
  refine ⟨channel, .of_exec_unguarded reached, socket, mem, fun gapless => ?_⟩
  obtain ⟨serves, stopped⟩ := Bool.and_eq_true_iff.mp silent
  rw [gapless.live serves] at stopped
  cases stopped

end Parlando
