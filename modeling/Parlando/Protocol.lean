import Parlando.Data.Double

namespace Parlando

def asI64 (n : Int) : Option Int := if -2 ^ 63 ≤ n ∧ n < 2 ^ 63 then some n else none

def asU64 (n : Int) : Option Int := if 0 ≤ n ∧ n < 2 ^ 64 then some n else none

/-- A JSON value as the server exchanges and stores it; objects list their members in key order. -/
inductive Value where
  | null
  | bool (value : Bool)
  | int (value : Int)
  | float (value : Rat)
  | string (value : String)
  | array (items : List Value)
  | object (members : List (String × Value))
  deriving Inhabited

namespace Value

/-- The member of an object under a key; `none` for a missing key and for any other value. -/
def get? (value : Value) (key : String) : Option Value :=
  match value with
  | object members => (members.find? fun member => member.1 == key).map Prod.snd
  | _ => none

def asStr? : Value → Option String
  | string value => some value
  | _ => none

def asI64? : Value → Option Int
  | int value => some value
  | _ => none

def asF64? : Value → Option Rat
  | int value => some (Double.ofInt value : Int)
  | float value => some value
  | _ => none

def asArray? : Value → Option (List Value)
  | array items => some items
  | _ => none

/-- Serializes an optional member as the server does: `null` where there is none. -/
def ofOption : Option Value → Value
  | some value => value
  | none => null

end Value

/-- An instant of the wall clock in nanoseconds since the Unix epoch. -/
abbrev Timestamp := Int

namespace Timestamp

/-- A duration of whole seconds. -/
def seconds (n : Int) : Int := n * 1000000000

def millis (t : Timestamp) : Int := t / 1000000

/-- Unix seconds, rounded towards the past. -/
def wholeSeconds (t : Timestamp) : Int := t / 1000000000

end Timestamp

inductive PlayerRole where
  | A
  | B
  deriving DecidableEq, Repr

namespace PlayerRole

def asStr : PlayerRole → String
  | A => "A"
  | B => "B"

end PlayerRole

structure RoleMap (α : Type) where
  a : Option α := none
  b : Option α := none

namespace RoleMap

variable {α : Type}

def get (m : RoleMap α) : PlayerRole → Option α
  | .A => m.a
  | .B => m.b

def insert (m : RoleMap α) (role : PlayerRole) (value : α) : RoleMap α :=
  match role with
  | .A => { m with a := some value }
  | .B => { m with b := some value }

def erase (m : RoleMap α) : PlayerRole → RoleMap α
  | .A => { m with a := none }
  | .B => { m with b := none }

/-- Collects pairs into a map; a later pair replaces an earlier one of the same role. -/
def collect (pairs : List (PlayerRole × α)) : RoleMap α :=
  pairs.foldl (fun m pair => m.insert pair.1 pair.2) {}

@[simp] theorem get_insert (m : RoleMap α) (role role' : PlayerRole) (value : α) :
    (m.insert role value).get role' = if role' = role then some value else m.get role' := by
  cases role <;> cases role' <;> rfl

theorem get_foldl_isSome (pairs : List (PlayerRole × α)) (m : RoleMap α) (role : PlayerRole) :
    ((pairs.foldl (fun m pair => m.insert pair.1 pair.2) m).get role).isSome ↔
      (m.get role).isSome ∨ ∃ pair ∈ pairs, pair.1 = role := by
  induction pairs generalizing m with
  | nil => simp
  | cons pair pairs ih =>
    rw [List.foldl_cons, ih, get_insert]
    by_cases same : role = pair.1
    · simp [same]
    · simp [same, Ne.symm same]

/-- A collected map answers for exactly the roles of its pairs. -/
theorem get_collect_isSome (pairs : List (PlayerRole × α)) (role : PlayerRole) :
    ((collect pairs).get role).isSome ↔ ∃ pair ∈ pairs, pair.1 = role := by
  rw [collect, get_foldl_isSome]
  cases role <;> simp [get]

theorem get_foldl_some {pairs : List (PlayerRole × α)} {m : RoleMap α} {role : PlayerRole}
    {value : α} (h : (pairs.foldl (fun m pair => m.insert pair.1 pair.2) m).get role = some value) :
    m.get role = some value ∨ (role, value) ∈ pairs := by
  induction pairs generalizing m with
  | nil => exact .inl h
  | cons pair pairs ih =>
    rw [List.foldl_cons] at h
    rcases ih h with before | mem
    · rw [get_insert] at before
      split at before
      · rename_i same
        cases before
        exact .inr (by simp [same])
      · exact .inl before
    · exact .inr (.tail _ mem)

/-- What a collected map answers is in one of its pairs. -/
theorem mem_of_get_collect {pairs : List (PlayerRole × α)} {role : PlayerRole} {value : α}
    (h : (collect pairs).get role = some value) : (role, value) ∈ pairs := by
  rcases get_foldl_some h with before | mem
  · cases role <;> cases before
  · exact mem

end RoleMap

inductive ParticipantSource where
  | direct
  | prolific
  | worker
  | agent
  deriving DecidableEq, Repr

inductive Purpose where
  | testing
  | research
  deriving DecidableEq, Repr

/-- Participant sessions are minted with fresh identifiers, apart for people and for agents. -/
inductive ParticipantSessionId where
  | human (serial : Nat)
  | agent (serial : Nat)
  deriving DecidableEq, Repr

inductive ParticipantOutcomeKind where
  | completed
  | leftWaitingRoom
  | leftGame
  | connectionLost
  | partnerLeft
  | partnerUnavailable
  | idleLimitReached
  | technicalFailure
  | lifetimeLimitReached
  deriving DecidableEq, Repr

namespace ParticipantOutcomeKind

def asStr : ParticipantOutcomeKind → String
  | completed => "completed"
  | leftWaitingRoom => "left_waiting_room"
  | leftGame => "left_game"
  | connectionLost => "connection_lost"
  | partnerLeft => "partner_left"
  | partnerUnavailable => "partner_unavailable"
  | idleLimitReached => "idle_limit_reached"
  | technicalFailure => "technical_failure"
  | lifetimeLimitReached => "lifetime_limit_reached"

end ParticipantOutcomeKind

/-- Why one shared session reached its single terminal lifecycle state. -/
inductive SessionEndCause where
  | gameCompleted
  | participantLeft (actor : String)
  | partnerUnavailable
  | reconnectTimedOut (disconnectedRole : String)
  | idleTimedOut
  | lifetimeTimedOut
  | technicalFailure
  deriving DecidableEq, Repr

namespace SessionEndCause

def toValue : SessionEndCause → Value
  | gameCompleted => .object [("type", .string "game_completed")]
  | participantLeft actor =>
    .object [("actor", .string actor), ("type", .string "participant_left")]
  | partnerUnavailable => .object [("type", .string "partner_unavailable")]
  | reconnectTimedOut role =>
    .object [("disconnected_role", .string role), ("type", .string "reconnect_timed_out")]
  | idleTimedOut => .object [("type", .string "idle_timed_out")]
  | lifetimeTimedOut => .object [("type", .string "lifetime_timed_out")]
  | technicalFailure => .object [("type", .string "technical_failure")]

end SessionEndCause

structure RecruitmentHandoff where
  provider : String
  code : String
  url : String
  deriving DecidableEq, Repr

def RecruitmentHandoff.toValue (handoff : RecruitmentHandoff) : Value :=
  .object [("code", .string handoff.code), ("provider", .string handoff.provider),
    ("url", .string handoff.url)]

/-- Immutable recipient-specific result derived from one shared session ending. -/
structure ParticipantResult where
  outcome : ParticipantOutcomeKind
  reason : String
  completion : Option Value
  finalObservation : Option Value
  handoff : Option RecruitmentHandoff

def ParticipantResult.toValue (result : ParticipantResult) : Value :=
  .object [("completion", .ofOption result.completion),
    ("final_observation", .ofOption result.finalObservation),
    ("handoff", .ofOption (result.handoff.map RecruitmentHandoff.toValue)),
    ("outcome", .string result.outcome.asStr), ("reason", .string result.reason)]

/-- Complete terminal session value committed atomically with all human results. -/
structure SessionEnd where
  cause : SessionEndCause
  completion : Option Value
  participantResults : RoleMap ParticipantResult

def SessionEnd.toValue (sessionEnd : SessionEnd) : Value :=
  let results := sessionEnd.participantResults
  .object [("cause", sessionEnd.cause.toValue), ("completion", .ofOption sessionEnd.completion),
    ("participant_results", .object (
      (results.a.toList.map fun result => ("A", result.toValue)) ++
      results.b.toList.map fun result => ("B", result.toValue)))]

inductive ParticipantPauseReason where
  | partnerReconnecting (deadlineAt : Timestamp)
  deriving DecidableEq, Repr

/-- The participant lifecycle inventory shared by the runtime and its clients. -/
inductive ParticipantState where
  | registered
  | waiting (role : PlayerRole) (waitingStartedAt waitingDeadlineAt : Timestamp)
      (presence : Value)
  | active (role : PlayerRole) (observation : Value) (availableActions : Option (List Value))
      (presence : Value) (idleDeadlineAt : Timestamp)
  | paused (role : PlayerRole) (reason : ParticipantPauseReason) (observation : Value)
      (availableActions : Option (List Value)) (presence : Value) (idleDeadlineAt : Timestamp)
  | ended (role : PlayerRole) (result : ParticipantResult) (voiceEndsAt : Option Timestamp)

/-- The HTTP statuses the modelled handlers answer errors with. -/
inductive StatusCode where
  | badRequest
  | unauthorized
  | forbidden
  | notFound
  | conflict
  | payloadTooLarge
  | internalServerError
  | serviceUnavailable
  deriving DecidableEq, Repr

structure AppError where
  status : StatusCode
  message : String
  deriving DecidableEq, Repr

/-- How the server answers a request that failed inside. -/
def internalError : AppError := ⟨.internalServerError, "Internal server error"⟩

end Parlando
