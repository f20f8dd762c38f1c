import Parlando.Session
import Parlando.Store

namespace Parlando

/-- The reasons the runtime gives for ending a session or removing it from memory. -/
inductive EndReason where
  | waitingTimeout
  | idleTimeout
  | maximumLifetime
  | reconnectTimeout
  | participantLeft
  | agentConstructionFailed
  | agentStartFailed
  | terminalCleanup
  deriving DecidableEq, Repr

def EndReason.asStr : EndReason → String
  | waitingTimeout => "waiting_timeout"
  | idleTimeout => "idle_timeout"
  | maximumLifetime => "maximum_lifetime"
  | reconnectTimeout => "reconnect_timeout"
  | participantLeft => "participant_left"
  | agentConstructionFailed => "agent_construction_failed"
  | agentStartFailed => "agent_start_failed"
  | terminalCleanup => "terminal_cleanup"

variable {G : Game}

/-- Recipient-specific results for every participant that is not an agent. -/
def participantResults (config : ExperimentConfig) (session : LiveSession G)
    (finalState : G.State) (gameStarted : Bool) (reason : String) (completion : Option Value)
    (outcome : SessionParticipant → ParticipantOutcomeKind) :
    Except String (RoleMap ParticipantResult) := do
  let humans := session.participants.values.filter fun participant => !participant.isAgent
  let pairs ← humans.mapM fun participant => do
    let finalObservation ← G.observationJson (G.observation finalState participant.role)
    return (participant.role, {
      outcome := outcome participant
      reason
      completion
      finalObservation := some finalObservation
      handoff := if participant.source == .prolific
        then prolificHandoff config (outcome participant) gameStarted else none })
  return .collect pairs

/-- Derives the terminal value for normal game completion from the final game state. -/
def completedSessionEnd (config : ExperimentConfig) (session : LiveSession G)
    (finalState : G.State) (completion : Value) : Except String SessionEnd := do
  let results ← participantResults config session finalState true "game_completed"
    (some completion) fun _ => .completed
  return ⟨.gameCompleted, some completion, results⟩

def abandonOutcome (session : LiveSession G) (reason : EndReason) : ParticipantOutcomeKind :=
  if reason = .reconnectTimeout then .connectionLost
  else if session.lifecycle.isForming then .leftWaitingRoom
  else .leftGame

def abandonedSessionEnd (config : ExperimentConfig) (session : LiveSession G)
    (actor : SessionParticipant) (reason : EndReason) : Except String SessionEnd := do
  let results ← participantResults config session session.state session.lifecycle.isRunning
    reason.asStr none fun participant =>
      if participant.participantSessionId = actor.participantSessionId
      then abandonOutcome session reason else .partnerLeft
  let cause := if reason = .reconnectTimeout
    then SessionEndCause.reconnectTimedOut actor.role.asStr
    else .participantLeft actor.role.asStr
  return ⟨cause, none, results⟩

def expiryCause (session : LiveSession G) (reason : EndReason) (pick : Nat) : SessionEndCause :=
  match reason with
  | .waitingTimeout => .partnerUnavailable
  | .idleTimeout => .idleTimedOut
  | .maximumLifetime => .lifetimeTimedOut
  | .reconnectTimeout => .reconnectTimedOut <|
    match session.findParticipant (fun participant => !participant.connected) pick with
    | some participant => participant.role.asStr
    | none => "unknown"
  | _ => .technicalFailure

def expiryOutcome (cause : SessionEndCause) (participant : SessionParticipant) :
    ParticipantOutcomeKind :=
  match cause with
  | .partnerUnavailable => .partnerUnavailable
  | .reconnectTimedOut _ => if participant.connected then .partnerLeft else .connectionLost
  | .idleTimedOut => .idleLimitReached
  | .lifetimeTimedOut => .lifetimeLimitReached
  -- `expiryCause` answers neither of the two causes that the source refuses here.
  | .technicalFailure | .gameCompleted | .participantLeft _ => .technicalFailure

def expiredSessionEnd (config : ExperimentConfig) (session : LiveSession G) (reason : EndReason)
    (pick : Nat) : Except String SessionEnd := do
  let cause := expiryCause session reason pick
  let results ← participantResults config session session.state session.lifecycle.isRunning
    reason.asStr none (expiryOutcome cause)
  return ⟨cause, none, results⟩

/-- The terminal value start-up recovery gives to a session an earlier process left open. -/
def interruptedSessionEnd (config : ExperimentConfig) (started : Bool)
    (members : List SessionParticipantRow) : SessionEnd :=
  let humans := members.filter fun member => member.source != .agent
  ⟨.technicalFailure, none, .collect <| humans.map fun member => (member.role, {
    outcome := .technicalFailure
    reason := "server_restart"
    completion := none
    finalObservation := none
    handoff := if member.source == .prolific
      then prolificHandoff config .technicalFailure started else none })⟩

def sessionEndedRecord (sessionEnd : SessionEnd) : SessionEventRecord :=
  ⟨"session_ended", none, none, sessionEnd.toValue, none⟩

/-- Resolves one session event record against memory without writing it. -/
def sessionEventRecord (session : Option (LiveSession G)) (actor : Option ParticipantSessionId)
    (eventType : String) (payload : Value) (gameState : Option Value) :
    Except String SessionEventRecord :=
  match session with
  | none => .error "Session not found."
  | some session =>
    if session.sessionId ≤ 0 then .error "Session does not have a durable session."
    else
      let actor := actor.bind session.participants.lookup
      .ok ⟨eventType, actor.map SessionParticipant.participantId,
        actor.map SessionParticipant.role, payload, gameState⟩

end Parlando
