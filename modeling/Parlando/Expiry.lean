import Parlando.Auth
import Parlando.Runtime

namespace Parlando

open Concurrency

variable {G : Game}

namespace Runtime

def members (runtime : Runtime G) : List ParticipantSessionId :=
  runtime.sessions.flatMap fun session => session.participants.keys

/-- The participant is a member of a session in memory that has not ended. -/
def playing (runtime : Runtime G) (id : ParticipantSessionId) : Bool :=
  runtime.sessions.any fun session =>
    !session.lifecycle.isEnded && session.participants.keys.contains id

end Runtime

/-- One runtime with its table of participants and their credentials. -/
structure Registry (G : Game) where
  clock : Timestamp := 0
  runtime : Runtime G := {}
  /-- When each entry of `memory.participants` was last updated. -/
  participants : Map ParticipantSessionId Timestamp := ∅
  auth : ParticipantAuthenticator := {}
  /-- Everyone who has become a member of a session so far, as an observer notes them. -/
  admitted : List ParticipantSessionId := []

namespace Registry

/-- The sessions have moved on; the observer notes their new members. -/
def withRuntime (s : Registry G) (runtime : Runtime G) : Registry G :=
  { s with
    runtime
    admitted := s.admitted ++ runtime.members.filter fun id => !s.runtime.members.contains id }

/-- The entry's last update is further back than an unattached participant may wait. -/
def isStale (config : ExperimentConfig) (s : Registry G) (now : Timestamp)
    (id : ParticipantSessionId) : Bool :=
  (s.participants.lookup id).any fun updatedAt =>
    decide (updatedAt < now - Timestamp.seconds (max config.session.waitingSessionTimeoutSeconds 1))

end Registry

/--
Where one call of `cleanup_expired_participants` stands, from the registry's cleanup that precedes
it on. From `retain` on it carries the members it saw and how many admissions there had been then.
-/
inductive CleanerPc where
  | readClock
  | credentials (now : Timestamp)
  | snapshot (expired : List ParticipantSessionId)
  | retain (inRooms : List ParticipantSessionId) (since : Nat)
      (expired : List ParticipantSessionId)
  | stamp (inRooms : List ParticipantSessionId) (since : Nat)
  | stale (inRooms : List ParticipantSessionId) (since : Nat) (now : Timestamp)
  | revoke (inRooms : List ParticipantSessionId) (since : Nat)
      (unattached : List ParticipantSessionId)
  | done

namespace CleanerPc

/-- One atomic step of the periodic cleanup of participants. -/
def step (config : ExperimentConfig) (s : Registry G) (now : Timestamp) :
    CleanerPc → Option (Registry G × CleanerPc)
  | readClock => some (s, credentials now)
  | credentials reading =>
    some ({ s with auth := s.auth.cleanup (Timestamp.wholeSeconds reading) },
      snapshot (s.auth.expiredSessions (Timestamp.wholeSeconds reading)))
  | snapshot expired => some (s, retain s.runtime.members s.admitted.length expired)
  | retain inRooms since expired =>
    some ({ s with participants :=
      s.participants.retain fun id => !expired.contains id || inRooms.contains id },
      stamp inRooms since)
  | stamp inRooms since => some (s, stale inRooms since now)
  | stale inRooms since reading =>
    let taken := s.participants.keys.filter fun id =>
      !inRooms.contains id && s.isStale config reading id
    some ({ s with participants := s.participants.retain fun id => !taken.contains id },
      revoke inRooms since taken)
  | revoke inRooms since (id :: unattached) =>
    some ({ s with auth := s.auth.revokeParticipantSession id }, revoke inRooms since unattached)
  | revoke _ _ [] => some (s, done)
  | done => none

/-- Since when the call has been checking: the members it saw and the admissions until then. -/
def since? : CleanerPc → Option (List ParticipantSessionId × Nat)
  | retain inRooms since _ | stamp inRooms since | stale inRooms since _ | revoke inRooms since _ =>
    some (inRooms, since)
  | _ => none

/-- The call is going to take the participant, who was in no session when it looked. -/
def condemns (config : ExperimentConfig) (s : Registry G) (id : ParticipantSessionId) :
    CleanerPc → Bool
  | retain inRooms _ expired => !inRooms.contains id && expired.contains id
  | stale inRooms _ reading => !inRooms.contains id && s.isStale config reading id
  | revoke _ _ unattached => unattached.contains id
  | _ => false

end CleanerPc

inductive RegistryEvent where
  /-- `create_participant_with_id`: a returning participant keeps the entry. -/
  | register (id : ParticipantSessionId)
  | issueCredential (id : ParticipantSessionId)
  /-- The consent section; it updates the entry. -/
  | consent (id : ParticipantSessionId)

def RegistryEvent.apply (s : Registry G) : RegistryEvent → Registry G
  | register id =>
    match s.participants.lookup id with
    | some _ => s
    | none => { s with participants := AList.insert id s.clock s.participants }
  | issueCredential id => { s with auth := s.auth.issue id (Timestamp.wholeSeconds s.clock) }
  | consent id => { s with participants := s.participants.modify id fun _ => s.clock }

/-- Every task of one mounted runtime: its own, the cleaner's calls and all other requests. -/
inductive RegistryTask where
  | runtime (task : RuntimeTask)
  | cleaner (pc : CleanerPc)
  | others

/-- What the environment decides about one step. -/
structure RegistryInput (G : Game) where
  now : Timestamp
  runtime : Option (RuntimeInput G) := none
  event : Option RegistryEvent := none

/--
How a `create_session` request ends at a point that looks for the participant's entry, where the
entry is missing.
-/
def RequestPc.withoutEntry (config : ExperimentConfig) (runtime : Runtime G) :
    RequestPc → Option RequestPc
  | find | createRow => some (release (.error ⟨.notFound, "Participant session not found."⟩))
  | join _ _ =>
    some (release (.error (match runtime.ensureSessionCapacity config .active 1 with
      | .error error => error
      | .ok () => ⟨.notFound, "Participant session not found."⟩)))
  | _ => none

namespace RegistryTask

/-- A task of the runtime that is stopped because its participant has no entry. -/
def stopped (config : ExperimentConfig) (s : Registry G) : RuntimeTask → Option RuntimeTask
  | .request applicant pc =>
    if (s.participants.lookup applicant.participant.id).isSome then none
    else (pc.withoutEntry config s.runtime).map (.request applicant)
  | .sessions => none

/-- One step of a task at the current time. -/
def next (config : ExperimentConfig) (s : Registry G) (pid : Nat) (input : RegistryInput G) :
    RegistryTask → Option (Registry G × RegistryTask)
  | runtime task =>
    match stopped config s task with
    | some task => some (s, runtime task)
    | none => input.runtime.bind fun given =>
      ((runtimeProgram G config).step s.runtime pid task given).map fun (after, task, _) =>
        (s.withRuntime after, runtime task)
  | cleaner pc => (pc.step config s input.now).map fun (s, pc) => (s, cleaner pc)
  | others => input.event.map fun event => (event.apply s, others)

end RegistryTask

/-- A runtime and its participants as a concurrent program; the clock never runs back. -/
def registryProgram (G : Game) (config : ExperimentConfig) :
    Program (Registry G) RegistryTask (RegistryInput G) where
  entry s
    | .runtime task => (runtimeProgram G config).entry s.runtime task
    | .cleaner .readClock | .others => true
    | _ => false
  step s pid task input :=
    if input.now < s.clock then none
    else (task.next config { s with clock := input.now } pid input).map fun (s, task) =>
      (s, task, [])

abbrev registryMachine (G : Game) (config : ExperimentConfig) := (registryProgram G config).machine

/-- A freshly mounted runtime that nobody has registered with. -/
def Registry.initial (G : Game) : Pool (Registry G) RegistryTask := ⟨{}, []⟩

end Parlando
