import Parlando.Procedures.Ending

namespace Parlando

variable {G : Game}

def passed (deadline : Option Timestamp) (now : Timestamp) : Bool :=
  deadline.any fun deadline => decide (deadline ≤ now)

/-- Why the cleaner's scan picks a session, if it does. -/
def cleanupReason (session : LiveSession G) (now : Timestamp) : Option EndReason :=
  let lifecycle := session.lifecycle
  if !lifecycle.isEnded && decide (session.lifetimeDeadlineAt ≤ now) then some .maximumLifetime
  else if lifecycle.isForming && decide (session.waitingDeadlineAt ≤ now) then
    some .waitingTimeout
  else if !lifecycle.isEnded && passed session.reconnectDeadline now then some .reconnectTimeout
  else if lifecycle.isRunning && passed session.idleDeadlineAt now then some .idleTimeout
  else if lifecycle.isEnded && (passed session.voiceEndsAt now ||
      session.voiceEndsAt.isNone &&
        !session.participants.values.any SessionParticipant.connected &&
        passed session.reconnectDeadline now) then
    some .terminalCleanup
  else none

/-- Whether a candidate of the scan is still current when its turn comes. -/
def roomIsCurrent (session : LiveSession G) (observedUpdatedAt : Timestamp) (reason : EndReason)
    (now : Timestamp) : Bool :=
  session.updatedAt == observedUpdatedAt &&
    match reason with
    | .reconnectTimeout => session.participants.values.any fun participant =>
        !participant.connected && passed participant.reconnectDeadlineAt now
    | .idleTimeout => passed session.idleDeadlineAt now
    | _ => true

/-- Where one tick of `cleanup_transient_rooms` stands with this session. -/
inductive CleanupPc where
  | tick
  | scan (now : Timestamp)
  | stamp (reason : EndReason) (observedUpdatedAt : Timestamp)
  | recheck (reason : EndReason) (observedUpdatedAt now : Timestamp)
  /-- Calls `expire_live_session`. -/
  | expiring (reason : EndReason)
  | remove
  | dropLock
  | dropConnections
  | done
  deriving DecidableEq, Repr

namespace CleanupPc

/-- Only a successful expiry lets the tick go on to remove the session. -/
def afterExpire : Except String Bool → CleanupPc
  | .ok true => remove
  | _ => done

/-- One atomic step of a cleaner tick. -/
def step (cell : Cell G) (input : Input) : CleanupPc → Option (Section G × CleanupPc)
  | tick => some (.skip, scan input.now)
  | scan now =>
    match cell.session with
    | none => some (.skip, done)
    | some session =>
      match cleanupReason session now with
      | none => some (.skip, done)
      | some reason => some (.skip, stamp reason session.updatedAt)
  | stamp reason observedUpdatedAt => some (.skip, recheck reason observedUpdatedAt input.now)
  | recheck reason observedUpdatedAt now =>
    match cell.session with
    | none => some (.skip, done)
    | some session =>
      if roomIsCurrent session observedUpdatedAt reason now then
        if reason ≠ .terminalCleanup ∧ session.sessionId > 0 then some (.skip, expiring reason)
        else some (.skip, remove)
      else some (.skip, done)
  | remove => some (.memory .remove, dropLock)
  | dropLock => some (.dropLock, dropConnections)
  | dropConnections => some (.dropConnections, done)
  | expiring _ | done => none

end CleanupPc

end Parlando
