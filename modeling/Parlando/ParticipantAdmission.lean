import Parlando.Concurrency.Pool
import Parlando.Database

namespace Parlando

open Concurrency

/-- What the environment decides about one statement or transaction on the participants. -/
structure ParticipantInput where
  /-- The store answers; otherwise the transaction is rolled back. -/
  storeOk : Bool := true
  /-- The identifiers drawn, up to one that nobody has. -/
  identifiers : List String := []
  /-- The participant session id drawn. -/
  participantSessionId : ParticipantSessionId := .human 0
  now : Timestamp := 0

/-- Where an `upsert_participant` call stands; each of its statements commits by itself. -/
inductive UpsertPc where
  | lookup
  | insert
  | returned (result : Except String Int)

/-- Where an `admit_prolific_submission` call stands; it is one transaction. -/
inductive SubmissionPc where
  | call
  | returned (result : Except String ProlificAdmission)

inductive ParticipantTask where
  | upsert (participant : ParticipantRecord) (pc : UpsertPc)
  | admission (submission : ProlificSubmissionRecord) (pc : SubmissionPc)

namespace UpsertPc

def step (participant : ParticipantRecord) (db : Database) (input : ParticipantInput) :
    UpsertPc → Option (Database × UpsertPc)
  | lookup =>
    if !input.storeOk then some (db, returned (.error "database error"))
    else match db.externalParticipant? participant with
      | some row => some (db, returned (.ok row.participantId))
      | none => some (db, insert)
  | insert =>
    if !input.storeOk then some (db, returned (.error "database error"))
    else match db.insertParticipant participant (input.identifiers.take 1) input.now with
      | .ok (db, row) => some (db, returned (.ok row.participantId))
      -- Somebody has the identifier: the next attempt draws another.
      | .error _ => some (db, insert)
  | returned _ => none

end UpsertPc

namespace SubmissionPc

def step (submission : ProlificSubmissionRecord) (db : Database) (input : ParticipantInput) :
    SubmissionPc → Option (Database × SubmissionPc)
  | call =>
    if !input.storeOk then some (db, returned (.error "database error"))
    else match db.admitProlificSubmission submission input.identifiers input.participantSessionId
        input.now with
      | .ok (db, admission) => some (db, returned (.ok admission))
      | .error error => some (db, returned (.error error))
  | returned _ => none

end SubmissionPc

namespace ParticipantTask

def entry : ParticipantTask → Bool
  | upsert _ .lookup | admission _ .call => true
  | _ => false

def step (db : Database) (input : ParticipantInput) :
    ParticipantTask → Option (Database × ParticipantTask)
  | upsert participant pc =>
    (pc.step participant db input).map fun (db, pc) => (db, upsert participant pc)
  | admission submission pc =>
    (pc.step submission db input).map fun (db, pc) => (db, admission submission pc)

end ParticipantTask

def participantProgram : Program Database ParticipantTask ParticipantInput where
  entry _ task := task.entry
  step db _ task input := (task.step db input).map fun (db, task) => (db, task, [])

abbrev participantMachine := participantProgram.machine

end Parlando
