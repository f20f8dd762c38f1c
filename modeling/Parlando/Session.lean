import Parlando.Data.Map
import Parlando.Config
import Parlando.Game

namespace Parlando

inductive SessionLifecycle where
  | forming
  | running
  | ended (sessionEnd : SessionEnd)

namespace SessionLifecycle

/-- Reports whether the session has reached its absorbing state. -/
def isEnded : SessionLifecycle → Bool
  | ended _ => true
  | _ => false

def isForming : SessionLifecycle → Bool
  | forming => true
  | _ => false

def isRunning : SessionLifecycle → Bool
  | running => true
  | _ => false

end SessionLifecycle

structure ParticipantSession where
  id : ParticipantSessionId
  participantId : Int
  source : ParticipantSource
  purpose : Purpose

/-- Runtime record for one participant's membership in a session. -/
structure SessionParticipant where
  participantSessionId : ParticipantSessionId
  participantId : Int
  source : ParticipantSource
  role : PlayerRole
  connected : Bool
  ready : Bool
  audioReady : Bool
  joinedAt : Timestamp
  updatedAt : Timestamp
  disconnectedAt : Option Timestamp
  reconnectDeadlineAt : Option Timestamp

namespace SessionParticipant

/-- A human member as admission and pairing record it: not connected yet. -/
def joined (config : ExperimentConfig) (participant : ParticipantSession) (role : PlayerRole)
    (now : Timestamp) : SessionParticipant where
  participantSessionId := participant.id
  participantId := participant.participantId
  source := participant.source
  role
  connected := false
  ready := false
  audioReady := !config.speechmaticsReadinessRequired
  joinedAt := now
  updatedAt := now
  disconnectedAt := none
  reconnectDeadlineAt := none

/-- An agent member as its attachment records it: connected but not ready. -/
def attached (agent : ParticipantSession) (now : Timestamp) : SessionParticipant where
  participantSessionId := agent.id
  participantId := agent.participantId
  source := .agent
  role := .B
  connected := true
  ready := false
  audioReady := true
  joinedAt := now
  updatedAt := now
  disconnectedAt := none
  reconnectDeadlineAt := none

def isAgent (participant : SessionParticipant) : Bool := participant.source == .agent

/-- Whether this participant is connected and past required audio setup. -/
def readyForGame (config : ExperimentConfig) (participant : SessionParticipant) : Bool :=
  participant.connected && (participant.source != .agent || participant.ready) &&
    (participant.source == .agent || participant.source == .worker ||
      !config.speechmaticsReadinessRequired || participant.audioReady)

def connect (now : Timestamp) (participant : SessionParticipant) : SessionParticipant :=
  { participant with
    connected := true
    updatedAt := now
    disconnectedAt := none
    reconnectDeadlineAt := none }

/-- The disconnect section's update of the leaving participant. -/
def disconnect (disconnectedAt deadline : Timestamp) (participant : SessionParticipant) :
    SessionParticipant :=
  { participant with
    connected := false
    updatedAt := disconnectedAt
    disconnectedAt := some disconnectedAt
    reconnectDeadlineAt := some deadline }

end SessionParticipant

/-- Runtime session record parameterized by a concrete game. -/
structure LiveSession (G : Game) where
  sessionId : Int
  purpose : Purpose
  state : G.State
  lifecycle : SessionLifecycle
  pause : Option ParticipantPauseReason
  participants : Map ParticipantSessionId SessionParticipant
  waitingStartedAt : Timestamp
  waitingDeadlineAt : Timestamp
  lifetimeDeadlineAt : Timestamp
  lastMeaningfulActivityAt : Option Timestamp
  idleDeadlineAt : Option Timestamp
  voiceEndsAt : Option Timestamp
  updatedAt : Timestamp

namespace LiveSession

variable {G : Game}

/-- The session as `create_live_session_locked` inserts it into memory. -/
def created (config : ExperimentConfig) (sessionId : Int) (state : G.State)
    (participant : ParticipantSession) (waitingStartedAt : Timestamp) (now : Timestamp) :
    LiveSession G where
  sessionId
  purpose := participant.purpose
  state
  lifecycle := .forming
  pause := none
  participants := AList.singleton participant.id (.joined config participant .A now)
  waitingStartedAt
  waitingDeadlineAt := waitingStartedAt +
    Timestamp.seconds config.session.waitingSessionTimeoutSeconds
  lifetimeDeadlineAt := waitingStartedAt +
    Timestamp.seconds config.session.sessionMaxLifetimeSeconds
  lastMeaningfulActivityAt := none
  idleDeadlineAt := none
  voiceEndsAt := none
  updatedAt := waitingStartedAt

def hasRole (session : LiveSession G) (role : PlayerRole) : Bool :=
  session.participants.values.any fun participant => participant.role == role

def nextRole (session : LiveSession G) : Option PlayerRole :=
  if !session.hasRole .A then some .A
  else if !session.hasRole .B then some .B
  else none

def allConnected (session : LiveSession G) : Bool :=
  session.participants.values.all SessionParticipant.connected

/-- Returns whether both player roles are connected and past required audio setup. -/
def readyForGame (config : ExperimentConfig) (session : LiveSession G) : Bool :=
  let ready := session.participants.values.filter (SessionParticipant.readyForGame config)
  ready.any (fun participant => participant.role == .A) &&
    ready.any (fun participant => participant.role == .B)

/-- Finds a participant in the map's iteration order, which `pick` stands for. -/
def findParticipant (session : LiveSession G) (p : SessionParticipant → Bool) (pick : Nat) :
    Option SessionParticipant :=
  let found := session.participants.values.filter p
  found[pick % found.length]?

/-- Whether an open session can accept one more human of this purpose. -/
def openForPairing (session : LiveSession G) (purpose : Purpose) : Bool :=
  session.lifecycle.isForming && session.purpose == purpose && session.nextRole == some .B &&
    session.participants.values.all fun participant => !participant.isAgent

def reconnectDeadline (session : LiveSession G) : Option Timestamp :=
  ((session.participants.values.filter fun participant => !participant.connected).filterMap
    SessionParticipant.reconnectDeadlineAt).min?

/-- The connect section: the participant is back, and a complete session is no longer paused. -/
def connectParticipant (session : LiveSession G) (id : ParticipantSessionId) (now : Timestamp) :
    LiveSession G :=
  let session := { session with
    participants := session.participants.modify id (SessionParticipant.connect now) }
  if session.allConnected then { session with pause := none } else session

def disconnectParticipant (session : LiveSession G) (id : ParticipantSessionId)
    (disconnectedAt deadline : Timestamp) : LiveSession G :=
  { session with
    participants :=
      session.participants.modify id (SessionParticipant.disconnect disconnectedAt deadline) }

def pauseForReconnect (session : LiveSession G) (deadline : Timestamp) : LiveSession G :=
  if session.lifecycle.isRunning then
    { session with pause := some (.partnerReconnecting deadline) }
  else session

/-- The memory section of a game start. -/
def start (session : LiveSession G) (startedAt idleDeadlineAt : Timestamp) : LiveSession G :=
  { session with
    lifecycle := .running
    pause := none
    updatedAt := startedAt
    lastMeaningfulActivityAt := some startedAt
    idleDeadlineAt := some idleDeadlineAt }

/-- The memory section of an accepted action; a completing one also ends the session. -/
def applyTransition (session : LiveSession G) (after : G.State) (sessionEnd : Option SessionEnd)
    (completedAt : Timestamp) (voiceEndsAt : Option Timestamp) : LiveSession G :=
  let session := { session with state := after }
  match sessionEnd with
  | some sessionEnd => { session with
      updatedAt := completedAt
      voiceEndsAt
      lifecycle := .ended sessionEnd }
  | none => session

def terminate (session : LiveSession G) (sessionEnd : SessionEnd) (now : Timestamp) :
    LiveSession G :=
  { session with lifecycle := .ended sessionEnd, pause := none, updatedAt := now }

def touch (session : LiveSession G) (activityAt idleDeadlineAt : Timestamp) : LiveSession G :=
  { session with
    updatedAt := activityAt
    lastMeaningfulActivityAt := some activityAt
    idleDeadlineAt := some idleDeadlineAt }

def addHumanParticipant (config : ExperimentConfig) (session : LiveSession G)
    (participant : ParticipantSession) (now : Timestamp) :
    Except AppError (PlayerRole × LiveSession G) :=
  if session.purpose ≠ participant.purpose then
    .error ⟨.conflict, "Testing and research participants cannot share a session"⟩
  else match session.participants.lookup participant.id with
    | some existing => .ok (existing.role, session)
    | none => match session.nextRole with
      | none => .error ⟨.forbidden, "Session already has two players."⟩
      | some role => .ok (role, { session with
          participants :=
            session.participants.insert participant.id (.joined config participant role now) })

def attachAgent (session : LiveSession G) (agent : ParticipantSession) (now : Timestamp) :
    Except AppError (LiveSession G) :=
  if session.lifecycle.isForming then
    .ok { session with participants := session.participants.insert agent.id (.attached agent now) }
  else .error ⟨.conflict, "Session is no longer waiting"⟩

/-- Takes an agent out again when its membership could not be persisted. -/
def detachAgent (session : LiveSession G) (id : ParticipantSessionId) : LiveSession G :=
  { session with participants := session.participants.erase id }

def markAgentReady (session : LiveSession G) (id : ParticipantSessionId) (now : Timestamp) :
    LiveSession G :=
  { session with
    participants := session.participants.modify id fun participant =>
      { participant with ready := true, updatedAt := now } }

def markAudioReady (session : LiveSession G) (id : ParticipantSessionId) (now : Timestamp) :
    LiveSession G :=
  { session with
    participants := session.participants.modify id fun participant =>
      { participant with audioReady := true, updatedAt := now } }

end LiveSession

end Parlando
