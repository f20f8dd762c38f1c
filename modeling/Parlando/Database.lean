import Parlando.Data.Table
import Parlando.Store

namespace Parlando

structure SessionKey where
  experimentId : String
  sessionId : Int
  deriving DecidableEq, Repr

/--
One row of `sessions` with its rows of `session_participants` and `session_events`. Their composite
foreign keys keep every such row under an existing session.
-/
structure SessionEntry where
  key : SessionKey
  publicSessionId : String
  dialogueId : String
  mode : String
  configRevision : Int
  gameVersion : String
  store : SessionStore

structure ParticipantRow where
  participantId : Int
  researchId : String
  experimentId : String
  participantKind : String
  identityProvider : String
  externalId : Option String
  metadata : Value
  createdAt : Timestamp

structure ProlificSubmissionRow where
  experimentId : String
  participantId : Int
  prolificParticipantId : String
  prolificStudyId : String
  prolificSessionId : String
  participantSessionId : ParticipantSessionId
  receivedAt : Timestamp
  verificationMethod : String

structure ConsentDeclarationRow where
  experimentId : String
  sessionId : Option Int
  participantId : Int
  consentItemId : String
  accepted : Bool
  purpose : String
  declaredAt : Timestamp
  consentTextHash : Option String
  metadata : Value

/-- The tables of the experiment store; rows stand in insertion order. -/
structure Database where
  experiments : List String
  participants : List ParticipantRow := []
  /-- The last number `participants` handed out; autoincrement never hands one out again. -/
  participantSequence : Int := 0
  sessions : List SessionEntry := []
  prolificSubmissions : List ProlificSubmissionRow := []
  consentDeclarations : List ConsentDeclarationRow := []

structure ParticipantRecord where
  experimentId : String
  participantKind : String
  identityProvider : String
  externalId : Option String
  metadata : Value

structure ProlificSubmissionRecord where
  experimentId : String
  prolificParticipantId : String
  prolificStudyId : String
  prolificSessionId : String
  verificationMethod : String

/-- The key under which `prolific_submissions` has at most one row. -/
def ProlificSubmissionRow.key (row : ProlificSubmissionRow) : String × String :=
  (row.experimentId, row.prolificSessionId)

def ProlificSubmissionRecord.key (submission : ProlificSubmissionRecord) : String × String :=
  (submission.experimentId, submission.prolificSessionId)

structure ProlificAdmission where
  participantId : Int
  researchId : String
  participantSessionId : ParticipantSessionId
  deriving DecidableEq

structure SessionRecord where
  experimentId : String
  publicSessionId : String
  mode : String
  lifecycle : RowLifecycle
  purpose : String
  waitingTimeoutSeconds : Int
  maximumLifetimeSeconds : Int
  configRevision : Int
  gameVersion : String

def foreignKeyFailed : String := "FOREIGN KEY constraint failed"

def uniqueFailed : String := "UNIQUE constraint failed"

def Purpose.parse? : String → Option Purpose
  | "testing" => some .testing
  | "research" => some .research
  | _ => none

namespace Database

def session? (db : Database) (key : SessionKey) : Option SessionEntry :=
  Table.find? SessionEntry.key db.sessions key

def setStore (db : Database) (key : SessionKey) (store : SessionStore) : Database :=
  { db with sessions :=
      Table.update SessionEntry.key db.sessions key fun entry => { entry with store } }

def hasParticipant (db : Database) (participantId : Int) : Bool :=
  db.participants.any fun participant => participant.participantId == participantId

/-- The foreign key of an event's actor is met. -/
def knowsActor (db : Database) (record : SessionEventRecord) : Bool :=
  record.actorParticipantId.all db.hasParticipant

def insertParticipant (db : Database) (participant : ParticipantRecord)
    (identifiers : List String) (now : Timestamp) : Except String (Database × ParticipantRow) :=
  match identifiers.find? fun identifier =>
      !db.participants.any fun row => row.researchId == identifier with
  | none => .error "no participant identifier"
  | some researchId =>
    let row : ParticipantRow := {
      participantId := db.participantSequence + 1
      researchId
      experimentId := participant.experimentId
      participantKind := participant.participantKind
      identityProvider := participant.identityProvider
      externalId := participant.externalId
      metadata := participant.metadata
      createdAt := now }
    .ok ({ db with
      participants := db.participants ++ [row]
      participantSequence := db.participantSequence + 1 }, row)

def externalParticipant? (db : Database) (participant : ParticipantRecord) :
    Option ParticipantRow :=
  participant.externalId.bind fun externalId =>
    db.participants.find? fun row =>
      row.experimentId == participant.experimentId &&
        row.identityProvider == participant.identityProvider && row.externalId == some externalId

def upsertParticipant (db : Database) (participant : ParticipantRecord)
    (identifiers : List String) (now : Timestamp) : Except String (Database × Int) :=
  match db.externalParticipant? participant with
  | some row => .ok (db, row.participantId)
  | none => do
    let (db, row) ← db.insertParticipant participant identifiers now
    return (db, row.participantId)

def prolificSubmission? (db : Database) (key : String × String) :
    Option (ProlificSubmissionRow × ParticipantRow) :=
  (Table.find? ProlificSubmissionRow.key db.prolificSubmissions key).bind fun row =>
    (Table.find? ParticipantRow.participantId db.participants row.participantId).map fun participant =>
      (row, participant)

def admitProlificSubmission (db : Database) (submission : ProlificSubmissionRecord)
    (identifiers : List String) (participantSessionId : ParticipantSessionId) (now : Timestamp) :
    Except String (Database × ProlificAdmission) :=
  match db.prolificSubmission? submission.key with
  | some (existing, participant) =>
    if existing.prolificParticipantId ≠ submission.prolificParticipantId ∨
        existing.prolificStudyId ≠ submission.prolificStudyId then
      .error "Prolific submission identifiers conflict with an existing admission"
    else .ok (db, ⟨existing.participantId, participant.researchId, existing.participantSessionId⟩)
  | none => do
    let (db, row) ← db.insertParticipant
      { experimentId := submission.experimentId
        participantKind := "human"
        identityProvider := "prolific"
        externalId := none
        metadata := .null } identifiers now
    if db.prolificSubmissions.any fun other => other.participantSessionId == participantSessionId || other.key == submission.key
    then throw uniqueFailed
    return ({ db with prolificSubmissions := db.prolificSubmissions ++ [{
      experimentId := submission.experimentId
      participantId := row.participantId
      prolificParticipantId := submission.prolificParticipantId
      prolificStudyId := submission.prolificStudyId
      prolificSessionId := submission.prolificSessionId
      participantSessionId
      receivedAt := now
      verificationMethod := submission.verificationMethod }] },
      ⟨row.participantId, row.researchId, participantSessionId⟩)

def recordConsentDeclaration (db : Database) (declaration : ConsentDeclarationRow) :
    Except String Database :=
  if db.hasParticipant declaration.participantId then
    .ok { db with consentDeclarations := db.consentDeclarations ++ [declaration] }
  else .error foreignKeyFailed

/-- The next session number: one more than the largest in use. -/
def nextSessionId (db : Database) (experimentId : String) : Int :=
  let ids := (db.sessions.filter fun entry => entry.key.experimentId == experimentId).map
    fun entry => entry.key.sessionId
  ids.max?.getD 0 + 1

def newSession (session : SessionRecord) (sessionId : Int) (dialogueId : String)
    (purpose : Purpose) (createdAt : Timestamp) : SessionEntry where
  key := ⟨session.experimentId, sessionId⟩
  publicSessionId := session.publicSessionId
  dialogueId
  mode := session.mode
  configRevision := session.configRevision
  gameVersion := session.gameVersion
  store := { row := {
    purpose
    lifecycle := session.lifecycle
    createdAt
    waitingDeadlineAt := createdAt + Timestamp.seconds session.waitingTimeoutSeconds
    lifetimeDeadlineAt := createdAt + Timestamp.seconds session.maximumLifetimeSeconds
    startedAt := if session.lifecycle = .running then some createdAt else none } }

/-- The transaction `create_session`; the dialogue identifier is the first one drawn that is free. -/
def createSession (db : Database) (session : SessionRecord) (dialogueIds : List String)
    (now : Timestamp) : Except String (Database × Int) :=
  match Purpose.parse? session.purpose with
  | none => .error "session purpose must be testing or research"
  | some purpose =>
    match dialogueIds.find? fun candidate =>
        !db.sessions.any fun entry => entry.dialogueId == candidate with
    | none => .error "no dialogue identifier"
    | some dialogueId =>
      if db.sessions.any fun entry => entry.publicSessionId == session.publicSessionId then
        .error uniqueFailed
      else if !db.experiments.contains session.experimentId then .error foreignKeyFailed
      else
        let sessionId := db.nextSessionId session.experimentId
        .ok ({ db with sessions := db.sessions ++
          [newSession session sessionId dialogueId purpose now] }, sessionId)

/-- An update of one session's row that a missing row leaves without effect. -/
def updateSession (db : Database) (key : SessionKey)
    (update : SessionStore → SessionStore × Bool) : Database × Bool :=
  match db.session? key with
  | none => (db, false)
  | some entry =>
    let (store, accepted) := update entry.store
    (db.setStore key store, accepted)

def completeSessionInitialization (db : Database) (key : SessionKey) : Database × Bool :=
  db.updateSession key SessionStore.completeSessionInitialization

def startSession (db : Database) (key : SessionKey) (startedAt idleDeadlineAt : Timestamp) :
    Database × Bool :=
  db.updateSession key fun store => store.startSession startedAt idleDeadlineAt

def touchSessionActivity (db : Database) (key : SessionKey)
    (activityAt idleDeadlineAt : Timestamp) : Database :=
  (db.updateSession key fun store =>
    (store.touchSessionActivity activityAt idleDeadlineAt, true)).1

def appendSessionEvent (db : Database) (key : SessionKey) (record : SessionEventRecord)
    (now : Timestamp) : Except String Database :=
  match db.session? key with
  | none => .error "session not found"
  | some entry =>
    if db.knowsActor record then .ok (db.setStore key (entry.store.appendSessionEvent record now))
    else .error foreignKeyFailed

def commitSessionTransition (db : Database) (events : List (SessionKey × SessionEventRecord))
    (sessionEnd : Option SessionEnd) (now : Timestamp) : Except String (Database × Bool) :=
  match events with
  | [] => .ok (db, false)
  | (key, _) :: _ =>
    if events.any fun event => event.1 != key then
      .error "transition events must belong to one session"
    else match db.session? key with
      | none => .error "session not found"
      | some entry =>
        if entry.store.ended then .ok (db, false)
        else
          let records := events.map Prod.snd
          if records.all db.knowsActor then
            let (store, committed) := entry.store.commitSessionTransition records sessionEnd now
            .ok (db.setStore key store, committed)
          else .error foreignKeyFailed

def endSession (db : Database) (key : SessionKey) (record : SessionEventRecord)
    (sessionEnd : SessionEnd) (now : Timestamp) : Except String (Database × Bool) :=
  match db.session? key with
  | none => .error "session not found"
  | some entry =>
    if entry.store.ended then .ok (db, false)
    else if db.knowsActor record then
      let (store, ended) := entry.store.endSession record sessionEnd now
      .ok (db.setStore key store, ended)
    else .error foreignKeyFailed

/-- The transaction `fail_session_initialization`; its event carries the absolute time. -/
def failSessionInitialization (db : Database) (key : SessionKey) (reasonCode : String)
    (now : Timestamp) : Except String Database :=
  match db.session? key with
  | none => .error foreignKeyFailed
  | some entry => .ok (db.setStore key (entry.store.failSessionInitialization reasonCode now))

/-- The upsert `add_session_participant`; a participant session belongs to one membership. -/
def addSessionParticipant (db : Database) (key : SessionKey) (member : SessionParticipantRow) :
    Except String Database :=
  match db.session? key with
  | none => .error foreignKeyFailed
  | some entry =>
    if !db.hasParticipant member.participantId then .error foreignKeyFailed
    else if db.sessions.any fun other => other.store.members.any fun row =>
        row.participantSessionId == member.participantSessionId &&
          !(other.key == key && row.participantId == member.participantId) then
      .error uniqueFailed
    else .ok (db.setStore key (entry.store.addSessionParticipant member))

def updateSessionParticipantConnection (db : Database) (id : ParticipantSessionId)
    (connectionStatus : String) (leftAt reconnectDeadlineAt : Option Timestamp) : Database :=
  { db with sessions := db.sessions.map fun entry => { entry with
      store := entry.store.updateSessionParticipantConnection id connectionStatus leftAt
        reconnectDeadlineAt } }

/-- What `delete_participant_data` reports about the rows it removes. -/
structure ParticipantDataPreview where
  participantId : Int
  sessionCount : Nat
  consentCount : Nat
  contentEventCount : Nat
  otherEventCount : Nat
  sessionIds : List String
  otherParticipantIds : List String
  hasNonTerminalSession : Bool

/-- The session belongs to the experiment and holds a membership of the participant. -/
def involves (experimentId : String) (participantId : Int) (entry : SessionEntry) : Bool :=
  entry.key.experimentId == experimentId &&
    entry.store.members.any fun member => member.participantId == participantId

def isContent (event : SessionEvent) : Bool :=
  event.eventType == "conversation_message" || event.eventType == "transcript_segment"

/-- Counts participant-linked rows without modifying them. -/
def participantDataPreview (db : Database) (experimentId : String) (participantId : Int) :
    ParticipantDataPreview :=
  let affected := db.sessions.filter (involves experimentId participantId)
  let acted := (db.sessions.filter fun entry => entry.key.experimentId == experimentId).flatMap
    fun entry => entry.store.events.filter fun event =>
      event.actorParticipantId == some participantId
  let others := affected.flatMap fun entry =>
    (entry.store.members.map SessionParticipantRow.participantId).filter (· != participantId)
  { participantId
    sessionCount := affected.length
    consentCount := db.consentDeclarations.countP fun consent =>
      consent.experimentId == experimentId && consent.participantId == participantId
    contentEventCount := acted.countP isContent
    otherEventCount := acted.countP fun event => !isContent event
    sessionIds := (affected.map SessionEntry.dialogueId).mergeSort
    otherParticipantIds := ((db.participants.filter fun participant =>
      others.contains participant.participantId).map ParticipantRow.researchId).mergeSort
    hasNonTerminalSession := affected.any fun entry => !entry.store.ended }

/-- Some row still refers to the participant through a foreign key. -/
def participantReferenced (db : Database) (participantId : Int) : Bool :=
  db.prolificSubmissions.any (fun row => row.participantId == participantId) ||
  db.consentDeclarations.any (fun row => row.participantId == participantId) ||
  db.sessions.any fun entry =>
    entry.store.members.any (fun row => row.participantId == participantId) ||
    entry.store.events.any fun event => event.actorParticipantId == some participantId

/-- `delete from consent_declarations`, the first statement of a deletion. -/
def deleteConsents (db : Database) (experimentId : String) (participantId : Int) : Database :=
  { db with consentDeclarations := db.consentDeclarations.filter fun consent =>
      !(consent.experimentId == experimentId && (consent.participantId == participantId ||
        (db.sessions.filter (involves experimentId participantId)).any fun entry =>
          consent.sessionId == some entry.key.sessionId)) }

/-- `delete from session_events`, of every session the participant is a member of. -/
def deleteEvents (db : Database) (experimentId : String) (participantId : Int) : Database :=
  { db with sessions := db.sessions.map fun entry =>
      if involves experimentId participantId entry then
        { entry with store := { entry.store with events := [] } }
      else entry }

/-- `delete from session_participants`, of every session the participant is a member of. -/
def deleteMembers (db : Database) (experimentId : String) (participantId : Int) : Database :=
  { db with sessions := db.sessions.map fun entry =>
      if involves experimentId participantId entry then
        { entry with store := { entry.store with members := [] } }
      else entry }

/-- `delete from sessions`, by dialogue identifier; a session with rows left cannot go. -/
def deleteSessions (db : Database) (experimentId : String) (dialogueIds : List String) :
    Except String Database :=
  let doomed := fun entry : SessionEntry =>
    entry.key.experimentId == experimentId && dialogueIds.contains entry.dialogueId
  if db.sessions.any fun entry =>
      doomed entry && !(entry.store.events.isEmpty && entry.store.members.isEmpty) then
    .error foreignKeyFailed
  else .ok { db with sessions := db.sessions.filter fun entry => !doomed entry }

/-- `delete from participants`; a participant other rows refer to cannot go. -/
def deleteParticipant (db : Database) (experimentId : String) (participantId : Int) :
    Except String Database :=
  let doomed := fun row : ParticipantRow =>
    row.experimentId == experimentId && row.participantId == participantId
  if db.participants.any doomed && db.participantReferenced participantId then
    .error foreignKeyFailed
  else .ok { db with participants := db.participants.filter fun row => !doomed row }

/--
The transaction `delete_participant_data`. Its own check for open sessions repeats the preview's,
which reads the same rows.
-/
def deleteParticipantData (db : Database) (experimentId : String) (participantId : Int) :
    Except String (Database × ParticipantDataPreview) :=
  let preview := db.participantDataPreview experimentId participantId
  if preview.hasNonTerminalSession then .error "affected sessions are live or non-terminal"
  else do
    let db := db.deleteConsents experimentId participantId
    let db := db.deleteEvents experimentId participantId
    let db := db.deleteMembers experimentId participantId
    let db ← db.deleteSessions experimentId preview.sessionIds
    let db ← db.deleteParticipant experimentId participantId
    if db.participants.any fun row =>
        row.experimentId == experimentId && row.participantId == participantId then
      .error "participant deletion verification failed"
    else .ok (db, preview)

end Database

end Parlando
