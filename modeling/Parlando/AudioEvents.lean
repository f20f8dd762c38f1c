import Parlando.SessionSystem

namespace Parlando

open Concurrency

variable {G : Game}

/-- The transition lock a `maybe_start_game` call holds. -/
def StartPc.held : StartPc → Option Nat
  | check l | commit l _ | write l _ | release l => some l
  | _ => none

namespace Task

def handlesEvent : Task G → Option (ParticipantSessionId × Option Nat)
  | audio id _ => some (id, none)
  | start (.audio id) pc => some (id, pc.held)
  | _ => none

/-- The task is between two pieces of work, or through with its last one. -/
def resting : Task G → Bool
  | submit _ (.returned _) | abandon _ _ .request (.returned _) | event _ .detached .returned
  | socket _ (.serving _) | socket _ .closed | timer _ _ (.sleeping _) | timer _ _ .done
  | cleanup .done | finalize .returned | pair _ (.refused _) | admission _ (.returned _)
  | agent _ .done | audio _ .done | touch .done => true
  | _ => false

end Task

/-- A session together with the ends of its participants' audio connections. -/
structure AudioRoom (G : Game) where
  room : Pool (Cell G) (Task G)
  /-- A provider transcribes the audio; its events are handled by a task beside the connection. -/
  transcribed : Bool
  /-- The audio connections that have closed, each with the time its event task is awaited from. -/
  closed : List (ParticipantSessionId × Timestamp) := []

inductive AudioAction (G : Game) where
  | task (action : Pool.Action (Task G) Input)
  /-- An audio connection of the participant closes. -/
  | close (id : ParticipantSessionId) (now : Timestamp)
  /-- The event task of a closed audio connection is aborted. -/
  | abort (pid : Nat) (now : Timestamp)

namespace AudioRoom

def eventTaskPatience : Timestamp := Timestamp.seconds 5

/-- The participant has an audio connection that has waited long enough for its event task. -/
def outwaited (s : AudioRoom G) (id : ParticipantSessionId) (now : Timestamp) : Bool :=
  s.closed.any fun (owner, closedAt) => owner == id && decide (closedAt + eventTaskPatience ≤ now)

/-- A dropped task gives back the transition lock where it holds it. -/
def dropGuard (config : ExperimentConfig) (cell : Cell G) (held : Option Nat) : Cell G :=
  match held with
  | some l => cell.apply config (.release l)
  | none => cell

def dropTask (config : ExperimentConfig) (s : AudioRoom G) (pid : Nat) (id : ParticipantSessionId)
    (held : Option Nat) (now : Timestamp) : AudioRoom G :=
  { s with room := {
      shared := { dropGuard config s.room.shared held with clock := now }
      tasks := s.room.tasks.set pid (.audio id .done) } }

/-- One atomic step of the session, of the end of an audio connection or of its event task. -/
def step (config : ExperimentConfig) (s : AudioRoom G) : AudioAction G → Option (AudioRoom G)
  | .task action => ((sessionMachine G config).step s.room action).map fun room => { s with room }
  | .close id now =>
    if now < s.room.shared.clock then none
    else some { s with
      room := { s.room with shared := { s.room.shared with clock := now } }
      closed := s.closed ++ [(id, now)] }
  | .abort pid now =>
    s.room.tasks[pid]?.bind fun task => task.handlesEvent.bind fun (id, held) =>
      if s.transcribed && s.outwaited id now && decide (s.room.shared.clock ≤ now) then
        some (s.dropTask config pid id held now)
      else none

def initial (config : ExperimentConfig) (transcribed : Bool) (creation : Creation G) :
    AudioRoom G := { room := creation.initial config, transcribed }

/-- No step is in progress. -/
def quiescent (s : AudioRoom G) : Bool := s.room.tasks.all Task.resting

end AudioRoom

/-- A live session whose participants' audio connections come and go. -/
def audioEventMachine (G : Game) (config : ExperimentConfig) :
    Machine (AudioRoom G) (AudioAction G) where
  step := AudioRoom.step config

end Parlando
