import Parlando.GameChannel

namespace Parlando

/-- What the server sends on a session's bus. -/
inductive ServerPayload where
  | participantState (state : ParticipantState)
  | transition (actor : PlayerRole) (action observation : Value)
      (availableActions : Option (List Value))
  /-- Presence, voice, conversation and errors: nothing that shows the session's state. -/
  | notice (payload : Value)

inductive ParticipantPhase where
  | registered
  | waiting
  | active
  | paused
  | ended
  deriving DecidableEq, Repr

def ParticipantPhase.asStr : ParticipantPhase → String
  | registered => "registered"
  | waiting => "waiting"
  | active => "active"
  | paused => "paused"
  | ended => "ended"

namespace ParticipantState

def phase : ParticipantState → ParticipantPhase
  | registered => .registered
  | waiting _ _ _ _ => .waiting
  | active _ _ _ _ _ => .active
  | paused _ _ _ _ _ _ => .paused
  | ended _ _ _ => .ended

def view : ParticipantState → Option (Value × Option (List Value))
  | active _ observation availableActions _ _ => some (observation, availableActions)
  | paused _ _ observation availableActions _ _ => some (observation, availableActions)
  | _ => none

def shown (state : ParticipantState) : ParticipantPhase × Option (Value × Option (List Value)) :=
  (state.phase, state.view)

end ParticipantState

def allowedTransitions : List (ParticipantPhase × ParticipantPhase) :=
  [(.registered, .waiting), (.waiting, .active), (.waiting, .ended), (.active, .paused),
    (.active, .ended), (.paused, .active), (.paused, .ended)]

/-- Applies a complete snapshot while rejecting impossible lifecycle jumps. -/
def reduceParticipantState (current : Option ParticipantState) (next : ParticipantState) :
    Except String ParticipantState :=
  match current with
  | none => .ok next
  | some current =>
    if current.phase = next.phase then .ok next
    else if allowedTransitions.contains (current.phase, next.phase) then .ok next
    else .error ("invalid participant transition " ++ current.phase.asStr ++ "->" ++
      next.phase.asStr)

/-- The state a client shows after the snapshots of one connection; with an end it closes it. -/
def applySnapshots (current : ParticipantState) :
    List ParticipantState → Except String ParticipantState
  | [] => .ok current
  | next :: rest =>
    if current.phase = .ended then .ok current
    else match reduceParticipantState (some current) next with
      | .error message => .error message
      | .ok state => applySnapshots state rest

/-- The snapshots among the messages of a connection. -/
def snapshots (messages : List (ServerMessage ServerPayload)) : List ParticipantState :=
  messages.filterMap fun message =>
    match message.payload with
    | .participantState state => some state
    | _ => none

end Parlando
