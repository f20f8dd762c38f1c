import Parlando.Concurrency.Broadcast
import Parlando.Concurrency.Machine
import Parlando.Protocol

namespace Parlando

open Concurrency

/-- Versioned server message with an optional internal-only recipient selector. -/
structure ServerMessage (P : Type) where
  protocolVersion : Nat
  payload : P
  recipient : Option ParticipantSessionId

namespace ServerMessage

variable {P : Type}

def broadcast (payload : P) : ServerMessage P := ⟨2, payload, none⟩

/-- A message routed only to one authenticated participant session. -/
def targeted (recipient : ParticipantSessionId) (payload : P) : ServerMessage P :=
  ⟨2, payload, some recipient⟩

/-- The send task of a participant's connection does not skip the message. -/
def isFor (id : ParticipantSessionId) (message : ServerMessage P) : Bool :=
  message.recipient.all fun target => target == id

end ServerMessage

/-- One `websocket_loop` from its subscription on, with its detached send task. -/
structure GameSocket (P : Type) where
  participantSessionId : ParticipantSessionId
  subscribedAt : Nat
  /-- The position of the receiver on the bus. -/
  next : Nat
  /-- The message the send task is handing to the socket. -/
  sending : Option (ServerMessage P) := none
  /-- The send task has not ended. -/
  sends : Bool := true
  /-- The messages handed to the socket. -/
  handed : List (ServerMessage P) := []
  /-- The receiving loop has not ended. -/
  serves : Bool := true

/-- One session bus with the connections subscribed to it. -/
structure GameChannel (P : Type) where
  bus : Broadcast (ServerMessage P)
  sockets : List (GameSocket P) := []

inductive ChannelAction (P : Type) where
  /-- Any sender on the bus. -/
  | publish (message : ServerMessage P)
  | subscribe (id : ParticipantSessionId)
  /-- The send task asks for its next message. -/
  | receive (i : Nat)
  /-- The transport takes the message, or fails. -/
  | handOver (i : Nat) (ok : Bool)
  /-- The loop handles one client message, with the answer it may publish. -/
  | serve (i : Nat) (answer : Option (ServerMessage P))
  /-- The loop ends: it is shut down, hears nothing for five seconds, or its transport closes. -/
  | close (i : Nat)

namespace GameSocket

variable {P : Type}

/-- One round of the send task's `while let Ok(message) = receiver.recv().await`. -/
def receive (bus : Broadcast (ServerMessage P)) (socket : GameSocket P) : Option (GameSocket P) :=
  if socket.sends && socket.sending.isNone then
    match bus.receive socket.next with
    | .empty => none
    | .lagged => some { socket with sends := false }
    | .message message =>
      if message.isFor socket.participantSessionId then
        some { socket with next := socket.next + 1, sending := some message }
      else some { socket with next := socket.next + 1 }
  else none

def handOver (ok : Bool) (socket : GameSocket P) : Option (GameSocket P) :=
  socket.sending.map fun message =>
    if ok then { socket with sending := none, handed := socket.handed ++ [message] }
    else { socket with sending := none, sends := false }

def close (socket : GameSocket P) : Option (GameSocket P) :=
  if socket.serves then some { socket with sending := none, sends := false, serves := false }
  else none

end GameSocket

namespace GameChannel

variable {P : Type}

def atSocket (channel : GameChannel P) (i : Nat) (step : GameSocket P → Option (GameSocket P)) :
    Option (GameChannel P) :=
  channel.sockets[i]?.bind fun socket => (step socket).map fun socket =>
    { channel with sockets := channel.sockets.set i socket }

def step (channel : GameChannel P) : ChannelAction P → Option (GameChannel P)
  | .publish message => some { channel with bus := channel.bus.send message }
  | .subscribe id =>
    let position := channel.bus.sent.length
    some { channel with sockets := channel.sockets ++ [⟨id, position, position, none, true, [], true⟩] }
  | .receive i => channel.atSocket i (GameSocket.receive channel.bus)
  | .handOver i ok => channel.atSocket i (GameSocket.handOver ok)
  | .serve i answer =>
    if channel.sockets[i]?.any GameSocket.serves then
      some { channel with bus := (answer.map channel.bus.send).getD channel.bus }
    else none
  | .close i => channel.atSocket i GameSocket.close

/-- A new session bus, as `session_bus` creates it. -/
def initial (P : Type) : GameChannel P := ⟨⟨256, []⟩, []⟩

end GameChannel

/-- Publications on a session bus and the connections that follow it. -/
def channelMachine (P : Type) : Machine (GameChannel P) (ChannelAction P) where
  step := GameChannel.step

end Parlando
