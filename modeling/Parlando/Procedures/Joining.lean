import Parlando.Procedures.Connection

namespace Parlando

variable {G : Game}

/-- The row `persist_session_participant` writes for a member of the session. -/
def memberRow (participant : SessionParticipant) (joinedAt : Timestamp) :
    SessionParticipantRow where
  participantId := participant.participantId
  participantSessionId := participant.participantSessionId
  source := participant.source
  role := participant.role
  joinedAt
  connectionStatus := if participant.connected then "connected" else "joined"

/-- The memory section of `persist_session_participant`. -/
def findMember (session : Option (LiveSession G)) (id : ParticipantSessionId) :
    Except String SessionParticipant :=
  match session with
  | none => .error "Session not found."
  | some session =>
    match session.participants.lookup id with
    | none => .error "Participant is not in session."
    | some participant => .ok participant

/-- Where the rest of a `create_session` request stands once its participant is in the session. -/
inductive AdmitPc where
  | persist (role : PlayerRole)
  | persistRow (role : PlayerRole) (participant : SessionParticipant)
  /-- Calls `persist_session_event`. -/
  | joinedEvent (role : PlayerRole)
  | returned (result : Except AppError PlayerRole)

namespace AdmitPc

/-- One atomic step of `create_session` after its admission section. -/
def step (participant : ParticipantSession) (cell : Cell G) (input : Input) :
    AdmitPc → Option (Section G × AdmitPc)
  | persist role =>
    match findMember cell.session participant.id with
    | .error _ => some (.skip, returned (.error internalError))
    | .ok member => some (.skip, persistRow role member)
  | persistRow role member =>
    if input.storeOk then
      some (.transaction (.addMember (memberRow member input.now)), joinedEvent role)
    else some (.skip, returned (.error internalError))
  | joinedEvent _ | returned _ => none

end AdmitPc

/-- Where the pairing of a `create_session` request with this session stands. -/
inductive PairPc where
  | find
  | join
  /-- Goes on as every admitted request does. -/
  | admitted (role : PlayerRole)
  | refused (error : AppError)

namespace PairPc

/-- One atomic step of the pairing in `create_session`. -/
def step (config : ExperimentConfig) (participant : ParticipantSession) (cell : Cell G)
    (input : Input) : PairPc → Option (Section G × PairPc)
  | find =>
    if cell.session.any fun session => session.openForPairing participant.purpose then
      some (.skip, join)
    else none
  | join =>
    match input.capacityError, cell.session with
    | some error, _ => some (.skip, refused error)
    | none, none => some (.skip, refused ⟨.notFound, "Session not found."⟩)
    | none, some session =>
      match session.addHumanParticipant config participant input.now with
      | .error error => some (.skip, refused error)
      | .ok (role, _) => some (.memory (.addHuman participant input.now), admitted role)
  | admitted _ | refused _ => none

end PairPc

/-- The agent participant of one session and what its events record about it. -/
structure AgentCall where
  participant : ParticipantSession
  metadata : Value

/-- Where the construction and the start of a session's agent stand. -/
inductive AgentPc where
  | probe
  | create
  | fetch
  | lock (lock : Nat)
  | attach (lock : Nat)
  | persist (lock : Nat)
  | persistRow (lock : Nat) (participant : SessionParticipant)
  | detach (lock : Nat)
  /-- Calls `persist_session_event`, as the other event points do. -/
  | joinedEvent (lock : Nat)
  | releaseAttach (lock : Nat) (attached : Bool)
  | observe
  | agentStart
  | errorEvent (message : String)
  | readyFetch
  | readyLock (lock : Nat)
  | ready (lock : Nat)
  | connectedEvent (lock : Nat)
  | startedEvent (lock : Nat)
  | releaseReady (lock : Nat) (isReady : Bool)
  /-- Calls `maybe_start_game`. -/
  | starting
  /-- Calls `expire_live_session`. -/
  | expiring (reason : EndReason)
  | done

namespace AgentPc

/-- One atomic step of `construct_and_join_agent` and of `start_agent_task` up to the game start. -/
def step (call : AgentCall) (cell : Cell G) (pid : Nat) (input : Input) :
    AgentPc → Option (Section G × AgentPc)
  | probe =>
    if cell.session.any fun session => session.lifecycle.isForming then some (.skip, create)
    else some (.skip, expiring .agentConstructionFailed)
  | create =>
    if input.storeOk && input.agentOk then some (.skip, fetch)
    else some (.skip, expiring .agentConstructionFailed)
  | fetch => some (.fetchLock, lock cell.transitionLock)
  | lock l => if cell.lockFree l then some (.acquire l pid, attach l) else none
  | attach l =>
    if cell.session.any fun session => session.lifecycle.isForming then
      some (.memory (.attachAgent call.participant input.now), persist l)
    else some (.skip, releaseAttach l false)
  | persist l =>
    match findMember cell.session call.participant.id with
    | .error _ => some (.skip, detach l)
    | .ok member => some (.skip, persistRow l member)
  | persistRow l member =>
    if input.storeOk then
      some (.transaction (.addMember (memberRow member input.now)), joinedEvent l)
    else some (.skip, detach l)
  | detach l => some (.memory (.detachAgent call.participant.id), releaseAttach l false)
  | releaseAttach l attached =>
    some (.release l, if attached then observe else expiring .agentConstructionFailed)
  | observe =>
    if cell.session.any fun session => session.lifecycle.isForming then some (.skip, agentStart)
    else some (.skip, done)
  | agentStart => some (.skip, if input.agentOk then readyFetch else errorEvent input.agentError)
  | readyFetch => some (.fetchLock, readyLock cell.transitionLock)
  | readyLock l => if cell.lockFree l then some (.acquire l pid, ready l) else none
  | ready l =>
    if cell.session.any fun session =>
        session.lifecycle.isForming &&
          (session.participants.lookup call.participant.id).isSome then
      some (.memory (.agentReady call.participant.id input.now), connectedEvent l)
    else some (.skip, releaseReady l false)
  | releaseReady l isReady => some (.release l, if isReady then starting else done)
  | joinedEvent _ | errorEvent _ | connectedEvent _ | startedEvent _ | starting | expiring _
  | done => none

end AgentPc

/-- Where the completion of one participant's audio setup stands. -/
inductive AudioPc where
  | mark
  /-- Calls `maybe_start_game`. -/
  | starting
  | done
  deriving DecidableEq, Repr

namespace AudioPc

/-- One atomic step after audio setup: mark the participant, then try to start the game. -/
def step (id : ParticipantSessionId) (input : Input) : AudioPc → Option (Section G × AudioPc)
  | mark => some (.memory (.audioReady id input.now), starting)
  | starting | done => none

end AudioPc

/-- Where a `touch_session_activity` call outside `submit_action` stands. -/
inductive TouchPc where
  | memory
  | store (activityAt : Timestamp)
  | done
  deriving DecidableEq, Repr

namespace TouchPc

/-- One atomic step of `touch_session_activity`. -/
def step (config : ExperimentConfig) (cell : Cell G) (input : Input) :
    TouchPc → Option (Section G × TouchPc)
  | memory =>
    some (.memory (.touch input.now (idleDeadline config input.now)),
      if cell.session.isSome then store input.now else done)
  | store activityAt =>
    some (if input.storeOk then .transaction (.touch activityAt (idleDeadline config activityAt))
      else .skip, done)
  | done => none

end TouchPc

end Parlando
