import Parlando.Cell

namespace Parlando

variable {G : Game}

/-- Why `submit_action` answers an error. -/
inductive SubmitError where
  | anyhow (message : String)
  /-- Expected server-owned reason why an action cannot enter the game transition. -/
  | submissionRejection (code : String)
  | actionRejection (rejection : ActionRejection)
  deriving DecidableEq, Repr

inductive TransitionOutcome where
  | continued
  | completed
  deriving DecidableEq, Repr

structure SubmitCall (G : Game) where
  participantSessionId : ParticipantSessionId
  role : PlayerRole
  action : G.Action

/-- What the first memory section of `submit_action` computes. -/
structure Transition (G : Game) where
  after : G.State
  metadata : Option Value
  storedGameState : Value
  completion : Option Value

namespace Transition

def outcome (transition : Transition G) : TransitionOutcome :=
  if transition.completion.isSome then .completed else .continued

end Transition

namespace SubmitCall

/-- The checks of `submit_action` and the transition they admit. -/
def check (config : ExperimentConfig) (call : SubmitCall G) (session : Option (LiveSession G)) :
    Except SubmitError (Transition G) :=
  match session with
  | none => .error (.anyhow "Session not found.")
  | some session =>
    if session.lifecycle.isEnded then .error (.submissionRejection "session_complete")
    else if !session.lifecycle.isRunning || session.pause.isSome then
      .error (.submissionRejection "participant_not_active")
    else if !session.readyForGame config then
      if config.speechmaticsReadinessRequired then
        .error (.submissionRejection "transcription_not_ready")
      else .error (.submissionRejection "players_not_ready")
    else match G.applyAction session.state call.action call.role with
      | .error rejection => .error (.actionRejection rejection)
      | .ok after =>
        let metadata := G.transitionMetadata session.state after call.action call.role
        match G.stateJson after, (G.completion after).mapM G.completionJson with
        | .ok storedGameState, .ok completion => .ok { after, metadata, storedGameState, completion }
        | .error message, _ => .error (.anyhow message)
        | _, .error message => .error (.anyhow message)

def acceptedPayload (call : SubmitCall G) (transition : Transition G) : Except String Value :=
  (G.actionJson call.action).map fun action =>
    .object [("action", action), ("metadata", .ofOption transition.metadata)]

def acceptedRecord (call : SubmitCall G) (transition : Transition G)
    (session : Option (LiveSession G)) : Except String SessionEventRecord := do
  let payload ← call.acceptedPayload transition
  sessionEventRecord session (some call.participantSessionId) "game_action_accepted" payload
    (some transition.storedGameState)

def completedRecord (call : SubmitCall G) (completion : Value) (session : Option (LiveSession G)) :
    Except String SessionEventRecord :=
  sessionEventRecord session (some call.participantSessionId) "session_completed" completion none

end SubmitCall

/-- Where a `submit_action` call stands; the transition lock is held from `check` to `release`. -/
inductive SubmitPc (G : Game) where
  | fetch
  | lock (lock : Nat)
  | check (lock : Nat)
  /-- The terminal value of a completing transition is computed from memory. -/
  | finish (lock : Nat) (transition : Transition G) (completion : Value)
  | record (lock : Nat) (transition : Transition G) (sessionEnd : Option SessionEnd)
  | recordCompleted (lock : Nat) (transition : Transition G) (sessionEnd : Option SessionEnd)
      (completion : Value) (accepted : SessionEventRecord)
  | commit (lock : Nat) (transition : Transition G) (sessionEnd : Option SessionEnd)
      (records : List SessionEventRecord)
  | write (lock : Nat) (transition : Transition G) (sessionEnd : Option SessionEnd)
  | touch (lock : Nat) (transition : Transition G)
  | touchStore (lock : Nat) (transition : Transition G) (activityAt : Timestamp)
  | release (lock : Nat) (result : Except SubmitError (Transition G))
  | returned (result : Except SubmitError (Transition G))

def idleDeadline (config : ExperimentConfig) (activityAt : Timestamp) : Timestamp :=
  activityAt + Timestamp.seconds config.session.sessionIdleTimeoutSeconds

/-- The end of the voice period after a completed game, where voice stays open. -/
def voiceDeadline (config : ExperimentConfig) (completed humanPair : Bool) (now : Timestamp) :
    Option Timestamp :=
  if completed && config.voice.enabled && config.agentsMode == .humanVsHuman && humanPair then
    some (now + Timestamp.seconds config.voice.postCompletionSeconds)
  else none

namespace SubmitPc

/-- One atomic step of `submit_action`. -/
def step (config : ExperimentConfig) (call : SubmitCall G) (cell : Cell G) (pid : Nat)
    (input : Input) : SubmitPc G → Option (Section G × SubmitPc G)
  | fetch => some (.fetchLock, lock cell.transitionLock)
  | lock l => if cell.lockFree l then some (.acquire l pid, check l) else none
  | check l =>
    match call.check config cell.session with
    | .error error => some (.skip, release l (.error error))
    | .ok transition =>
      match transition.completion with
      | some completion => some (.skip, finish l transition completion)
      | none => some (.skip, record l transition none)
  | finish l transition completion =>
    match cell.session with
    | none => some (.skip, release l (.error (.anyhow "Session not found.")))
    | some session =>
      match completedSessionEnd config session transition.after completion with
      | .error message => some (.skip, release l (.error (.anyhow message)))
      | .ok sessionEnd => some (.skip, record l transition (some sessionEnd))
  | record l transition sessionEnd =>
    match call.acceptedRecord transition cell.session with
    | .error message => some (.skip, release l (.error (.anyhow message)))
    | .ok accepted =>
      match transition.completion with
      | some completion => some (.skip, recordCompleted l transition sessionEnd completion accepted)
      | none => some (.skip, commit l transition sessionEnd [accepted])
  | recordCompleted l transition sessionEnd completion accepted =>
    match call.completedRecord completion cell.session with
    | .error message => some (.skip, release l (.error (.anyhow message)))
    | .ok completed => some (.skip, commit l transition sessionEnd [accepted, completed])
  | commit l transition sessionEnd records =>
    if input.storeOk then
      -- The transaction's Boolean answer, false for an ended row, is not looked at.
      some (.transaction (.commit records sessionEnd input.now), write l transition sessionEnd)
    else
      some (.skip, release l (.error (.anyhow "Action could not be committed.")))
  | write l transition sessionEnd =>
    match cell.session with
    | none => some (.skip, release l (.error (.anyhow "Session not found.")))
    | some _ =>
      let completed := transition.completion.isSome
      some (.memory (.transition transition.after sessionEnd input.now
          (voiceDeadline config completed input.humanPair input.now)),
        if completed then release l (.ok transition) else touch l transition)
  | touch l transition =>
    some (.memory (.touch input.now (idleDeadline config input.now)),
      if cell.session.isSome then touchStore l transition input.now
      else release l (.ok transition))
  | touchStore l transition activityAt =>
    some (if input.storeOk then .transaction (.touch activityAt (idleDeadline config activityAt))
        else .skip,
      release l (.ok transition))
  | release l result => some (.release l, returned result)
  | returned _ => none

end SubmitPc

end Parlando
