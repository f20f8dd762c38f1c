import Parlando.Session

namespace Parlando

variable {G : Game}

def sessionPresence (session : LiveSession G) : Value :=
  let presence := RoleMap.collect (session.participants.values.map fun participant =>
    (participant.role, Value.object [("audioReady", .bool participant.audioReady),
      ("connected", .bool participant.connected)]))
  .object (presence.a.toList.map (fun value => ("A", value)) ++
    presence.b.toList.map fun value => ("B", value))

/-- Role-specific game view used to assemble snapshots and transition deltas. -/
structure ParticipantView where
  presence : Value
  observation : Option Value
  availableActions : Option (List Value)

/-- Serializes a game value for a client; a failure is an internal error. -/
def protocolJson (json : Except String Value) : Except AppError Value :=
  json.mapError fun _ => internalError

def participantView (session : LiveSession G) (role : PlayerRole) :
    Except AppError ParticipantView := do
  let presence := sessionPresence session
  if session.lifecycle.isForming then
    return ⟨presence, none, none⟩
  let observation ← protocolJson (G.observationJson (G.observation session.state role))
  match G.availableActions session.state role with
  | none => return ⟨presence, some observation, none⟩
  | some actions =>
    let actions ← actions.mapM fun action => protocolJson (G.actionJson action)
    return ⟨presence, some observation, some actions⟩

/-- Builds the participant lifecycle snapshot from authoritative live-session facts. -/
def participantStateResponse (session : Option (LiveSession G)) (role : PlayerRole) :
    Except AppError ParticipantState :=
  match session with
  | none => .error ⟨.notFound, "Session not found."⟩
  | some session =>
    match participantView session role with
    | .error error => .error error
    | .ok view =>
      match session.lifecycle with
      | .forming => .ok (.waiting role session.waitingStartedAt session.waitingDeadlineAt
          view.presence)
      | .running =>
        match view.observation, session.idleDeadlineAt, session.pause with
        | none, _, _ => .error ⟨.internalServerError, "Running session has no observation"⟩
        | some _, none, _ => .error ⟨.internalServerError, "Running session has no idle deadline"⟩
        | some observation, some idleDeadlineAt, some reason =>
          .ok (.paused role reason observation view.availableActions view.presence idleDeadlineAt)
        | some observation, some idleDeadlineAt, none =>
          .ok (.active role observation view.availableActions view.presence idleDeadlineAt)
      | .ended sessionEnd =>
        match sessionEnd.participantResults.get role with
        | none => .error ⟨.internalServerError, "Terminal participant result is missing"⟩
        | some result => .ok (.ended role result session.voiceEndsAt)

end Parlando
