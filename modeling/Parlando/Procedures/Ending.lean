import Parlando.Cell

namespace Parlando

variable {G : Game}

/-- Where an `abandon_session` call stands; the transition lock is held from `check` to `release`. -/
inductive AbandonPc where
  | fetch
  | lock (lock : Nat)
  | check (lock : Nat)
  | record (lock : Nat) (sessionEnd : SessionEnd)
  | commit (lock : Nat) (sessionEnd : SessionEnd) (record : SessionEventRecord)
  | write (lock : Nat) (sessionEnd : SessionEnd)
  | release (lock : Nat) (result : Except String Bool)
  | returned (result : Except String Bool)

/-- The first memory section of `abandon_session`: nothing to do, or the terminal value. -/
def checkAbandon (config : ExperimentConfig) (session : Option (LiveSession G))
    (id : ParticipantSessionId) (reason : EndReason) : Except String (Option SessionEnd) :=
  match session with
  | none => .error "Session not found."
  | some session =>
    if session.lifecycle.isEnded then .ok none
    else match session.participants.lookup id with
      | none => .error "Participant not in session."
      | some actor => (abandonedSessionEnd config session actor reason).map some

namespace AbandonPc

/-- One atomic step of `abandon_session`. -/
def step (config : ExperimentConfig) (id : ParticipantSessionId) (reason : EndReason)
    (cell : Cell G) (pid : Nat) (input : Input) : AbandonPc → Option (Section G × AbandonPc)
  | fetch => some (.fetchLock, lock cell.transitionLock)
  | lock l => if cell.lockFree l then some (.acquire l pid, check l) else none
  | check l =>
    match checkAbandon config cell.session id reason with
    | .error message => some (.skip, release l (.error message))
    | .ok none => some (.skip, release l (.ok false))
    | .ok (some sessionEnd) => some (.skip, record l sessionEnd)
  | record l sessionEnd =>
    match sessionEventRecord cell.session (some id) "session_abandoned"
        (.object [("reason", .string reason.asStr)]) none with
    | .error message => some (.skip, release l (.error message))
    | .ok event => some (.skip, commit l sessionEnd event)
  | commit l sessionEnd event =>
    if input.storeOk then
      some (.transaction (.endSession event sessionEnd input.now),
        if (cell.store.endSession event sessionEnd input.now).2 then write l sessionEnd
        else release l (.ok false))
    else some (.skip, release l (.error "database error"))
  | write l sessionEnd =>
    some (.memory (.terminate sessionEnd input.now), release l (.ok true))
  | release l result => some (.release l, returned result)
  | returned _ => none

end AbandonPc

/-- Where an `expire_live_session` call stands; it takes no transition lock. -/
inductive ExpirePc where
  | check
  | commit (sessionEnd : SessionEnd)
  | write (sessionEnd : SessionEnd)
  | returned (result : Except String Bool)

/-- The memory section of `expire_live_session`: nothing to do, or the terminal value. -/
def checkExpiry (config : ExperimentConfig) (session : Option (LiveSession G))
    (reason : EndReason) (pick : Nat) : Except String (Option SessionEnd) :=
  match session with
  | none => .error "Session not found."
  | some session =>
    if session.lifecycle.isEnded then .ok none
    else (expiredSessionEnd config session reason pick).map some

namespace ExpirePc

/-- One atomic step of `expire_live_session`. -/
def step (config : ExperimentConfig) (reason : EndReason) (cell : Cell G) (input : Input) :
    ExpirePc → Option (Section G × ExpirePc)
  | check =>
    match checkExpiry config cell.session reason input.pick with
    | .error message => some (.skip, returned (.error message))
    | .ok none => some (.skip, returned (.ok false))
    | .ok (some sessionEnd) => some (.skip, commit sessionEnd)
  | commit sessionEnd =>
    if input.storeOk then
      let event := sessionEndedRecord sessionEnd
      some (.transaction (.endSession event sessionEnd input.now),
        if (cell.store.endSession event sessionEnd input.now).2 then write sessionEnd
        else returned (.ok false))
    else some (.skip, returned (.error "database error"))
  | write sessionEnd =>
    some (.memory (.terminate sessionEnd input.now), returned (.ok true))
  | returned _ => none

end ExpirePc

/-- Where `finalize_interrupted_sessions` stands with this session's row. -/
inductive FinalizePc where
  | list
  | members (started : Bool)
  | commit (sessionEnd : SessionEnd)
  | returned

namespace FinalizePc

/-- One atomic step of `finalize_interrupted_sessions`; it writes no memory. -/
def step (config : ExperimentConfig) (cell : Cell G) (input : Input) :
    FinalizePc → Option (Section G × FinalizePc)
  | list =>
    if input.storeOk && !cell.store.ended then
      some (.skip, members cell.store.row.startedAt.isSome)
    else some (.skip, returned)
  | members started =>
    if input.storeOk then
      some (.skip, commit (interruptedSessionEnd config started cell.store.members))
    else some (.skip, returned)
  | commit sessionEnd =>
    some (if input.storeOk then
        .transaction (.endSession (sessionEndedRecord sessionEnd) sessionEnd input.now)
      else .skip, returned)
  | returned => none

end FinalizePc

end Parlando
