import Parlando.Protocol

namespace Parlando

inductive RowLifecycle where
  | forming
  | running
  | ended
  deriving DecidableEq, Repr

structure SessionRow where
  purpose : Purpose
  lifecycle : RowLifecycle := .forming
  initializationComplete : Bool := false
  createdAt : Timestamp
  waitingDeadlineAt : Timestamp
  lifetimeDeadlineAt : Timestamp
  startedAt : Option Timestamp := none
  lastMeaningfulActivityAt : Option Timestamp := none
  idleDeadlineAt : Option Timestamp := none
  endedAt : Option Timestamp := none
  completion : Option Value := none
  sessionEnd : Option SessionEnd := none

/-- One row of `session_participants`, joined with its participant's source. -/
structure SessionParticipantRow where
  participantId : Int
  participantSessionId : ParticipantSessionId
  source : ParticipantSource
  role : PlayerRole
  joinedAt : Timestamp
  connectionStatus : String
  leftAt : Option Timestamp := none
  disconnectedAt : Option Timestamp := none
  reconnectDeadlineAt : Option Timestamp := none
  terminalResult : Option ParticipantResult := none

structure SessionEventRecord where
  eventType : String
  actorParticipantId : Option Int
  actorRole : Option PlayerRole
  payload : Value
  gameState : Option Value

structure SessionEvent extends SessionEventRecord where
  eventIndex : Int
  gameTimeMs : Int

/-- The rows the database holds about one session; events stand in insertion order. -/
structure SessionStore where
  row : SessionRow
  members : List SessionParticipantRow := []
  events : List SessionEvent := []

namespace SessionStore

/-- The row has reached its terminal lifecycle. -/
def ended (store : SessionStore) : Bool := store.row.lifecycle == .ended

/-- Game-relative milliseconds, or temporary Unix milliseconds before game start. -/
def storedGameTimeMs (store : SessionStore) (timestamp : Timestamp) : Int :=
  match store.row.startedAt with
  | some startedAt => timestamp.millis - startedAt.millis
  | none => timestamp.millis

def maxEventIndex (store : SessionStore) : Int :=
  store.events.foldl (fun index event => max index event.eventIndex) 0

def insertEvent (store : SessionStore) (record : SessionEventRecord) (gameTimeMs : Int) :
    SessionStore :=
  { store with events := store.events ++
      [{ record with eventIndex := store.maxEventIndex + 1, gameTimeMs }] }

def insertEvents (store : SessionStore) (records : List SessionEventRecord) (gameTimeMs : Int) :
    SessionStore :=
  records.foldl (fun store record => store.insertEvent record gameTimeMs) store

def persistTerminalValue (store : SessionStore) (sessionEnd : SessionEnd) (endedAt : Timestamp) :
    SessionStore :=
  { store with
    row := if store.ended then store.row else { store.row with
      lifecycle := .ended
      endedAt := some endedAt
      completion := sessionEnd.completion
      sessionEnd := some sessionEnd }
    members := store.members.map fun member =>
      match sessionEnd.participantResults.get member.role with
      | some result => { member with
          terminalResult := some result
          leftAt := member.leftAt.or (some endedAt) }
      | none => member }

def appendSessionEvent (store : SessionStore) (record : SessionEventRecord)
    (occurredAt : Timestamp) : SessionStore :=
  store.insertEvent record (store.storedGameTimeMs occurredAt)

/-- The transaction `commit_session_transition`; an ended row is rolled back to and answered with `false`. -/
def commitSessionTransition (store : SessionStore) (records : List SessionEventRecord)
    (sessionEnd : Option SessionEnd) (occurredAt : Timestamp) : SessionStore × Bool :=
  if records.isEmpty then (store, false)
  else if store.ended then (store, false)
  else
    let inserted := store.insertEvents records (store.storedGameTimeMs occurredAt)
    match sessionEnd with
    | some sessionEnd => (inserted.persistTerminalValue sessionEnd occurredAt, true)
    | none => (inserted, true)

def endSession (store : SessionStore) (record : SessionEventRecord) (sessionEnd : SessionEnd)
    (occurredAt : Timestamp) : SessionStore × Bool :=
  if store.ended then (store, false)
  else
    ((store.insertEvent record (store.storedGameTimeMs occurredAt)).persistTerminalValue
      sessionEnd occurredAt, true)

/-- The transaction `start_session`, which also rebases earlier events to the game clock. -/
def startSession (store : SessionStore) (startedAt idleDeadlineAt : Timestamp) :
    SessionStore × Bool :=
  if store.row.lifecycle = .forming ∧ store.row.initializationComplete then
    ({ store with
      row := { store.row with
        lifecycle := .running
        startedAt := some startedAt
        lastMeaningfulActivityAt := some startedAt
        idleDeadlineAt := some idleDeadlineAt }
      events := store.events.map fun event =>
        { event with gameTimeMs := event.gameTimeMs - startedAt.millis } }, true)
  else (store, false)

def completeSessionInitialization (store : SessionStore) : SessionStore × Bool :=
  if store.row.lifecycle = .forming ∧ !store.row.initializationComplete then
    ({ store with row := { store.row with initializationComplete := true } }, true)
  else (store, false)

def initializationFailed (reasonCode : String) : SessionEventRecord where
  eventType := "session_initialization_failed"
  actorParticipantId := none
  actorRole := none
  payload := .object [("reason_code", .string reasonCode)]
  gameState := none

/-- The transaction `fail_session_initialization`, which inserts its event whatever the row is. -/
def failSessionInitialization (store : SessionStore) (reasonCode : String)
    (occurredAt : Timestamp) : SessionStore :=
  let inserted := store.insertEvent (initializationFailed reasonCode) occurredAt.millis
  if store.row.lifecycle = .forming then
    { inserted with row := { store.row with
      lifecycle := .ended
      initializationComplete := true
      endedAt := some occurredAt
      sessionEnd := some ⟨.technicalFailure, none, {}⟩ } }
  else inserted

/-- The update `touch_session_activity`, which leaves every row but a running one alone. -/
def touchSessionActivity (store : SessionStore) (activityAt idleDeadlineAt : Timestamp) :
    SessionStore :=
  if store.row.lifecycle = .running then
    { store with row := { store.row with
      lastMeaningfulActivityAt := some activityAt
      idleDeadlineAt := some idleDeadlineAt } }
  else store

def addSessionParticipant (store : SessionStore) (member : SessionParticipantRow) :
    SessionStore :=
  if store.members.any fun row => row.participantId == member.participantId then
    { store with members := store.members.map fun row =>
      if row.participantId == member.participantId then
        { row with
          participantSessionId := member.participantSessionId
          role := member.role
          connectionStatus := member.connectionStatus }
      else row }
  else { store with members := store.members ++ [member] }

/-- The update `update_session_participant_connection`. -/
def updateSessionParticipantConnection (store : SessionStore) (id : ParticipantSessionId)
    (connectionStatus : String) (leftAt reconnectDeadlineAt : Option Timestamp) : SessionStore :=
  { store with members := store.members.map fun row =>
      if row.participantSessionId = id then
        { row with
          connectionStatus
          leftAt
          disconnectedAt := if connectionStatus == "disconnected" then leftAt else none
          reconnectDeadlineAt }
      else row }

end SessionStore

end Parlando
