import Parlando.Procedures.Ending
import Parlando.Procedures.Start

namespace Parlando

variable {G : Game}

/-- Where a `persist_session_event` call stands; its failures are only logged. -/
inductive EventPc where
  | record
  | append (record : SessionEventRecord)
  | returned

/-- The arguments of one `persist_session_event` call. -/
structure EventCall where
  actor : Option ParticipantSessionId
  eventType : String
  payload : Value

namespace EventPc

/-- One atomic step of `persist_session_event`. -/
def step (call : EventCall) (cell : Cell G) (input : Input) :
    EventPc → Option (Section G × EventPc)
  | record =>
    match sessionEventRecord cell.session call.actor call.eventType call.payload none with
    | .error _ => some (.skip, returned)
    | .ok event => some (.skip, append event)
  | append event =>
    some (if input.storeOk then .transaction (.append event input.now) else .skip, returned)
  | returned => none

end EventPc

structure SocketCall where
  participantSessionId : ParticipantSessionId
  role : PlayerRole
  deriving DecidableEq, Repr

/-- Where one `websocket_loop` stands; the points marked as calls are left as soon as they are reached. -/
inductive SocketPc where
  | register
  | connect (generation : Nat)
  | persistConnected (generation : Nat)
  /-- Calls `persist_session_event`. -/
  | connectedEvent (generation : Nat)
  | started (generation : Nat)
  /-- Calls `maybe_start_game`. -/
  | starting (generation : Nat)
  /-- Messages are served until the transport closes or a newer socket takes over. -/
  | serving (generation : Nat)
  /-- The generation still owned the connection; the clock is read next. -/
  | stamp
  | disconnect (disconnectedAt deadline : Timestamp)
  | persistDisconnected (disconnectedAt deadline : Timestamp)
  /-- Calls `persist_session_event`. -/
  | disconnectedEvent (deadline : Timestamp)
  /-- Calls `abandon_session`. -/
  | abandoning
  | pause (deadline : Timestamp)
  | closed

namespace SocketPc

/-- What follows the disconnect's two database writes. -/
def afterDisconnect (config : ExperimentConfig) (deadline : Timestamp) : SocketPc :=
  if config.graceSeconds = 0 then abandoning else pause deadline

/-- One atomic step of `websocket_loop`. -/
def step (config : ExperimentConfig) (call : SocketCall) (cell : Cell G) (input : Input) :
    SocketPc → Option (Section G × SocketPc)
  | register => some (.register call.role, connect cell.nextGeneration)
  | connect g => some (.memory (.connect call.participantSessionId input.now), persistConnected g)
  | persistConnected g =>
    some (if input.storeOk then
        .transaction (.connection call.participantSessionId "connected" none none)
      else .skip, connectedEvent g)
  | started g =>
    let hasStarted := cell.session.any fun session => !session.lifecycle.isForming
    some (.skip, if hasStarted then serving g else starting g)
  | serving g =>
    some (.unregister call.role g, if cell.ownsConnection call.role g then stamp else closed)
  | stamp =>
    -- One reading stands for the source's two adjacent ones.
    some (.skip, disconnect input.now (input.now + Timestamp.seconds config.graceSeconds))
  | disconnect disconnectedAt deadline =>
    some (.memory (.disconnect call.participantSessionId disconnectedAt deadline),
      persistDisconnected disconnectedAt deadline)
  | persistDisconnected disconnectedAt deadline =>
    some (if input.storeOk then
        .transaction (.connection call.participantSessionId "disconnected" (some disconnectedAt)
          (some deadline))
      else .skip, disconnectedEvent deadline)
  | pause deadline => some (.memory (.pause deadline), closed)
  | connectedEvent _ | starting _ | disconnectedEvent _ | abandoning | closed => none

end SocketPc

inductive TimerPc where
  | sleeping (wakeAt : Timestamp)
  /-- Calls `expire_live_session`. -/
  | expiring
  | done
  deriving DecidableEq, Repr

namespace TimerPc

/-- One atomic step of a reconnect timer: it looks only at whether its participant is back. -/
def step (id : ParticipantSessionId) (cell : Cell G) (input : Input) :
    TimerPc → Option (Section G × TimerPc)
  | sleeping wakeAt =>
    if input.now < wakeAt then none
    else
      let stillDisconnected := cell.session.any fun session =>
        (session.participants.lookup id).any fun participant => !participant.connected
      some (.skip, if stillDisconnected then expiring else done)
  | expiring | done => none

end TimerPc

end Parlando
