import Parlando.Concurrency.Machine
import Parlando.Database

namespace Parlando

open Concurrency

/-- One transaction of the store, with the clock reading and the random draws it makes. -/
inductive Operation where
  | upsertParticipant (participant : ParticipantRecord) (identifiers : List String)
      (now : Timestamp)
  | admitProlificSubmission (submission : ProlificSubmissionRecord) (identifiers : List String)
      (id : ParticipantSessionId) (now : Timestamp)
  | recordConsentDeclaration (declaration : ConsentDeclarationRow)
  | createSession (session : SessionRecord) (dialogueIds : List String) (now : Timestamp)
  | completeSessionInitialization (key : SessionKey)
  | failSessionInitialization (key : SessionKey) (reasonCode : String) (now : Timestamp)
  | startSession (key : SessionKey) (startedAt idleDeadlineAt : Timestamp)
  | touchSessionActivity (key : SessionKey) (activityAt idleDeadlineAt : Timestamp)
  | addSessionParticipant (key : SessionKey) (member : SessionParticipantRow)
  | updateSessionParticipantConnection (id : ParticipantSessionId) (status : String)
      (leftAt reconnectDeadlineAt : Option Timestamp)
  | appendSessionEvent (key : SessionKey) (record : SessionEventRecord) (now : Timestamp)
  | commitSessionTransition (events : List (SessionKey × SessionEventRecord))
      (sessionEnd : Option SessionEnd) (now : Timestamp)
  | endSession (key : SessionKey) (record : SessionEventRecord) (sessionEnd : SessionEnd)
      (now : Timestamp)
  | deleteParticipantData (experimentId : String) (participantId : Int)

inductive Answer where
  | done
  /-- `Ok(false)`: the row was not in the state the transaction asks for. -/
  | refused
  | created (key : SessionKey)
  deriving DecidableEq

namespace Operation

def accepted (accepted : Bool) : Answer := if accepted then .done else .refused

/-- Runs the transaction; after an error it is rolled back. -/
def apply (db : Database) : Operation → Except String (Database × Answer)
  | upsertParticipant participant identifiers now => do
    let (db, _) ← db.upsertParticipant participant identifiers now
    return (db, .done)
  | admitProlificSubmission submission identifiers id now => do
    let (db, _) ← db.admitProlificSubmission submission identifiers id now
    return (db, .done)
  | recordConsentDeclaration declaration => do
    let db ← db.recordConsentDeclaration declaration
    return (db, .done)
  | createSession session dialogueIds now => do
    let (db, sessionId) ← db.createSession session dialogueIds now
    return (db, .created ⟨session.experimentId, sessionId⟩)
  | completeSessionInitialization key =>
    let (db, changed) := db.completeSessionInitialization key
    .ok (db, accepted changed)
  | failSessionInitialization key reasonCode now => do
    let db ← db.failSessionInitialization key reasonCode now
    return (db, .done)
  | startSession key startedAt idleDeadlineAt =>
    let (db, changed) := db.startSession key startedAt idleDeadlineAt
    .ok (db, accepted changed)
  | touchSessionActivity key activityAt idleDeadlineAt =>
    .ok (db.touchSessionActivity key activityAt idleDeadlineAt, .done)
  | addSessionParticipant key member => do
    let db ← db.addSessionParticipant key member
    return (db, .done)
  | updateSessionParticipantConnection id status leftAt reconnectDeadlineAt =>
    .ok (db.updateSessionParticipantConnection id status leftAt reconnectDeadlineAt, .done)
  | appendSessionEvent key record now => do
    let db ← db.appendSessionEvent key record now
    return (db, .done)
  | commitSessionTransition events sessionEnd now => do
    let (db, committed) ← db.commitSessionTransition events sessionEnd now
    return (db, accepted committed)
  | endSession key record sessionEnd now => do
    let (db, ended) ← db.endSession key record sessionEnd now
    return (db, accepted ended)
  | deleteParticipantData experimentId participantId => do
    let (db, _) ← db.deleteParticipantData experimentId participantId
    return (db, .done)

def target? : Operation → Option SessionKey
  | completeSessionInitialization key => some key
  | failSessionInitialization key _ _ => some key
  | startSession key _ _ => some key
  | touchSessionActivity key _ _ => some key
  | addSessionParticipant key _ => some key
  | appendSessionEvent key _ _ => some key
  | commitSessionTransition events _ _ => events.head?.map Prod.fst
  | endSession key _ _ _ => some key
  | _ => none

def isCreation : Operation → Bool
  | createSession _ _ _ => true
  | _ => false

def onStore (store : SessionStore) : Operation → SessionStore × Bool
  | completeSessionInitialization _ => store.completeSessionInitialization
  | failSessionInitialization _ reasonCode now =>
    (store.failSessionInitialization reasonCode now, true)
  | startSession _ startedAt idleDeadlineAt => store.startSession startedAt idleDeadlineAt
  | touchSessionActivity _ activityAt idleDeadlineAt =>
    (store.touchSessionActivity activityAt idleDeadlineAt, true)
  | addSessionParticipant _ member => (store.addSessionParticipant member, true)
  | appendSessionEvent _ record now => (store.appendSessionEvent record now, true)
  | commitSessionTransition events sessionEnd now =>
    store.commitSessionTransition (events.map Prod.snd) sessionEnd now
  | endSession _ record sessionEnd now => store.endSession record sessionEnd now
  | _ => (store, true)

/-- The database after the transaction, committed or rolled back. -/
def after (db : Database) (operation : Operation) : Database :=
  match operation.apply db with
  | .ok (db', _) => db'
  | .error _ => db

end Operation

/-- The store: its transactions run one after the other, in any order. -/
def store : Machine Database Operation where
  step db operation := some (operation.after db)

end Parlando
