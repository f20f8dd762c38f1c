import Mathlib.Algebra.Ring.Nat
import Parlando.SessionSystem

namespace Parlando

open Concurrency

variable {G : Game}

/-- One live session with the tasks that work on it. -/
abbrev Room (G : Game) := Pool (Cell G) (Task G)

/-- The part of one mounted runtime that admissions share. -/
structure Runtime (G : Game) where
  /-- The sessions ever inserted into memory, in that order. -/
  rooms : List (Room G) := []
  /-- The request that holds `session_admission`. -/
  admission : Option Nat := none

inductive SessionAdmission where
  /-- A human-human session still waiting for its second participant. -/
  | waiting
  /-- A fully allocated human-human or human-agent session. -/
  | active
  deriving DecidableEq, Repr

namespace LiveSession

/-- A forming session with fewer than two participants. -/
def isWaiting (session : LiveSession G) : Bool :=
  session.lifecycle.isForming && decide (session.participants.values.length < 2)

/-- The transcription streams a session reserves. -/
def streams (session : LiveSession G) : Nat :=
  if session.lifecycle.isEnded then 0
  else session.participants.values.countP fun participant => !participant.isAgent

end LiveSession

namespace Runtime

def sessions (runtime : Runtime G) : List (LiveSession G) :=
  runtime.rooms.filterMap fun room => room.shared.session

def inSession (runtime : Runtime G) (id : ParticipantSessionId) : Bool :=
  runtime.sessions.any fun session => (session.participants.lookup id).isSome

def terminalParticipantState (runtime : Runtime G) (id : ParticipantSessionId) : Bool :=
  runtime.rooms.any fun room => room.shared.store.ended && room.shared.store.members.any fun row =>
    row.participantSessionId == id && row.terminalResult.isSome

/-- The waiting sessions that can accept one more human of this purpose. -/
def openForPairing (runtime : Runtime G) (purpose : Purpose) : List Nat :=
  (List.range runtime.rooms.length).filter fun r => runtime.rooms[r]?.any fun room =>
    room.shared.session.any fun session => session.openForPairing purpose

def ensureSessionCapacity (config : ExperimentConfig) (runtime : Runtime G)
    (admission : SessionAdmission) (transcriptionStreamsToAdd : Nat) : Except AppError Unit :=
  let waiting := runtime.sessions.countP LiveSession.isWaiting
  let active := runtime.sessions.countP fun session => session.lifecycle.isRunning
  if admission = .waiting ∧ waiting ≥ config.capacity.maxWaitingSessions then
    .error ⟨.serviceUnavailable, "Waiting-session capacity is temporarily full"⟩
  else if admission = .active ∧ active ≥ config.capacity.maxActiveSessions then
    .error ⟨.serviceUnavailable, "Active-session capacity is temporarily full"⟩
  else if config.speechmaticsReadinessRequired ∧
      (runtime.sessions.map LiveSession.streams).sum + transcriptionStreamsToAdd >
        config.capacity.maxTranscriptionStreams then
    .error ⟨.serviceUnavailable, "Transcription capacity is temporarily full"⟩
  else .ok ()

end Runtime

/-- A participant who asks for a session: a registered human. -/
structure Applicant where
  participant : ParticipantSession
  isHuman : participant.id.isHuman = true
  notAgent : participant.source ≠ .agent

/-- Where an admitted request's session stands, and whether it was created for the request. -/
structure Placement where
  room : Nat
  created : Bool
  deriving DecidableEq, Repr

/-- Where a `create_session` request stands; it holds `session_admission` from `find` or `reserve` on. -/
inductive RequestPc where
  | existing
  | terminal
  /-- Intake, consent, storage reserve and the preparation of an agent. -/
  | gates
  | admission
  | find
  /-- The task that pairs the request with the room it found. -/
  | join (room task : Nat)
  | reserve (mode : SessionAdmission)
  | createRow
  | createEvent
  | createGame
  | timing
  | insert
  | complete (room : Nat)
  | release (result : Except AppError Placement)
  | enter (room : Nat)
  | agent (room : Nat)
  | returned (result : Except AppError (Option Placement))

structure RequestInput (G : Game) extends Input where
  gatesError : Option AppError := none
  /-- What game construction answers. -/
  gameError : Option AppError := none
  /-- The answers that a session created now is built from. -/
  serial : Nat := 0
  publicSessionId : String := ""
  seed : Int := 0
  state : Option G.State := none
  metadata : Value := .null

namespace Runtime

/-- The runtime after one of its rooms has taken some steps; `none` where it cannot take them. -/
def act (config : ExperimentConfig) (runtime : Runtime G) (r : Nat)
    (actions : List (Pool.Action (Task G) Input)) : Option (Runtime G) :=
  runtime.rooms[r]?.bind fun room => ((sessionMachine G config).exec room actions).map fun room =>
    { runtime with rooms := runtime.rooms.set r room }

def pairing (runtime : Runtime G) (r task : Nat) : Except AppError Placement :=
  match runtime.rooms[r]?.bind fun room => room.tasks[task]? with
  | some (.pair _ (.refused error)) => .error error
  | _ => .ok ⟨r, false⟩

def roomAgent (r : Nat) (purpose : Purpose) (metadata : Value) : AgentCall :=
  ⟨⟨.agent r, r, .agent, purpose⟩, metadata⟩

end Runtime

namespace RequestPc

/-- One atomic step of `create_session`. -/
def step (config : ExperimentConfig) (applicant : Applicant) (runtime : Runtime G) (pid : Nat)
    (input : RequestInput G) : RequestPc → Option (Runtime G × RequestPc)
  | existing =>
    some (runtime, if runtime.inSession applicant.participant.id then returned (.ok none)
      else terminal)
  | terminal =>
    if input.storeOk then
      some (runtime, if runtime.terminalParticipantState applicant.participant.id
        then returned (.ok none) else gates)
    else some (runtime, returned (.error internalError))
  | gates =>
    match input.gatesError with
    | some error => some (runtime, returned (.error error))
    | none => some (runtime, admission)
  | admission =>
    if runtime.admission.isNone then
      some ({ runtime with admission := some pid },
        if config.agentsMode = .humanVsHuman then find else reserve .active)
    else none
  | find =>
    let rooms := runtime.openForPairing applicant.participant.purpose
    match rooms[input.pick % rooms.length]? with
    | none => some (runtime, reserve .waiting)
    | some r => runtime.rooms[r]?.bind fun room =>
      let task := room.tasks.length
      (runtime.act config r [.spawn (.pair applicant.participant .find),
        .run task input.toInput]).map fun runtime => (runtime, join r task)
  | join r task =>
    let capacityError := match runtime.ensureSessionCapacity config .active 1 with
      | .error error => some error
      | .ok () => none
    (runtime.act config r [.run task { input.toInput with capacityError }]).map fun runtime =>
      (runtime, release (runtime.pairing r task))
  | reserve mode =>
    match runtime.ensureSessionCapacity config mode 1 with
    | .error error => some (runtime, release (.error error))
    | .ok () => some (runtime, createRow)
  | createRow =>
    some (runtime, if input.storeOk then createEvent else release (.error internalError))
  | createEvent =>
    some (runtime, if input.storeOk then createGame else release (.error internalError))
  | createGame =>
    match input.gameError with
    | some error => some (runtime, release (.error error))
    | none => some (runtime, timing)
  | timing =>
    some (runtime, if input.storeOk then insert else release (.error internalError))
  | insert =>
    input.state.map fun state =>
      let creation : Creation G := {
        participant := applicant.participant
        sessionId := input.serial + 1
        publicSessionId := input.publicSessionId
        seed := input.seed
        state
        createdAt := input.now
        isHuman := applicant.isHuman
        notAgent := applicant.notAgent
        durable := by omega }
      ({ runtime with rooms := runtime.rooms ++ [creation.initial config] },
        complete runtime.rooms.length)
  | complete r =>
    if input.storeOk then some (runtime, release (.ok ⟨r, true⟩))
    else
      some ({ runtime with rooms := runtime.rooms.dropLast }, release (.error internalError))
  | release result =>
    some ({ runtime with admission := none },
      match result with
      | .ok ⟨r, true⟩ => enter r
      | .ok placement => returned (.ok (some placement))
      | .error error => returned (.error error))
  | enter r =>
    some ((runtime.act config r [.spawn (.admission applicant.participant (.persist .A))]).getD runtime,
      if config.agentsMode = .humanVsAgent then agent r else returned (.ok (some ⟨r, true⟩)))
  | agent r =>
    let call := Runtime.roomAgent r applicant.participant.purpose input.metadata
    some ((runtime.act config r [.spawn (.agent call .probe)]).getD runtime,
      returned (.ok (some ⟨r, true⟩)))
  | returned _ => none

end RequestPc

/-- The tasks of a runtime: admission requests, and everything else that works on its sessions. -/
inductive RuntimeTask where
  | request (applicant : Applicant) (pc : RequestPc)
  | sessions

/-- The input of a runtime step: that of a request, or a room and the action it takes. -/
inductive RuntimeInput (G : Game) where
  | request (input : RequestInput G)
  | room (r : Nat) (action : Pool.Action (Task G) Input)

namespace Runtime

/-- The actions of a room that are not a request's: pairings and admitted members are theirs. -/
def ownAction (room : Room G) : Pool.Action (Task G) Input → Bool
  | .spawn (.pair _ _) | .spawn (.admission _ _) | .spawn (.agent _ _) => false
  | .spawn _ => true
  | .run pid _ => match room.tasks[pid]? with
    | some (.pair _ _) => false
    | _ => true

end Runtime

def runtimeProgram (G : Game) (config : ExperimentConfig) :
    Program (Runtime G) RuntimeTask (RuntimeInput G) where
  entry _
    | .request _ .existing => true
    | .sessions => true
    | _ => false
  step runtime pid task input :=
    match task, input with
    | .request applicant pc, .request input =>
      (pc.step config applicant runtime pid input).map fun (runtime, pc) =>
        (runtime, .request applicant pc, [])
    | .sessions, .room r action =>
      if runtime.rooms[r]?.any fun room => Runtime.ownAction room action then
        (runtime.act config r [action]).map fun runtime => (runtime, .sessions, [])
      else none
    | _, _ => none

abbrev runtimeMachine (G : Game) (config : ExperimentConfig) := (runtimeProgram G config).machine

/-- A freshly mounted runtime. -/
def Runtime.initial (G : Game) : Pool (Runtime G) RuntimeTask := ⟨{}, []⟩

end Parlando
