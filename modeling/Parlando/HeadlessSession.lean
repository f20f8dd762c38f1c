import Parlando.AgentExperiment
import Parlando.Game

namespace Parlando

namespace Headless

open AgentExperiment
open Value (json)

/-- Returns the other role in Parlando's fixed two-player model. -/
def otherRole : PlayerRole → PlayerRole
  | .A => .B
  | .B => .A

/-- One reply from an agent; `none` in place of a response is a yield. -/
inductive AgentResponse (Action : Type) where
  | action (action : Action)
  | message (message : String)
  | actionAndMessage (action : Action) (message : String)

/-- Stable terminal classification stored with every headless session result. -/
inductive SessionStatus where
  | completed
  | quiescent
  | decisionLimit
  | actionLimit
  | messageLimit
  | rejectionLimit
  | deadline
  | failed
  deriving DecidableEq

/-- One role-safe learner action transition; rewards are passed on as they are. -/
structure TrajectoryStep (Rewards : Type) where
  runId : String
  planId : String
  decision : Nat
  scenario : String
  role : PlayerRole
  agent : String
  checkpoint : CheckpointId
  reward : String
  rewardVersion : String
  observation : Value
  availableActions : Value
  action : Value
  accepted : Bool
  rejection : Option ActionRejection
  rewards : Option Rewards
  nextObservation : Value
  terminal : Bool

/-- Secret-free provenance for one resolved agent seat. -/
structure ResultAgent where
  key : String
  factory : String
  name : String
  version : String
  checkpoint : Option CheckpointId
  settingsFingerprint : String
  role : PlayerRole
  seed : Nat

/-- Compact output from one planned headless session, without its wall-clock time. -/
structure SessionResult (G : Game) (Rewards : Type) where
  runId : String
  planId : String
  phase : String
  phaseIndex : Nat
  scenario : String
  gameId : String
  gameVersion : String
  configurationFingerprint : String
  gameSeed : Nat
  agents : List ResultAgent
  schedule : String
  status : SessionStatus := .failed
  completion : Option G.Completion := none
  failurePhase : Option String := none
  failureRole : Option PlayerRole := none
  diagnostic : Option String := none
  decisions : Nat := 0
  acceptedActions : Nat := 0
  rejectedActions : Nat := 0
  messages : Nat := 0
  trace : Option (List Value)
  trajectory : List (TrajectoryStep Rewards) := []
  cleanupDiagnostics : List String := []

/-- Chooses which software agent receives each headless decision opportunity. -/
structure AgentSchedule (G : Game) where
  State : Type
  /-- The schedule factory, on the configured first role and parameters. -/
  create : PlayerRole → JsonValue → Except String State
  first : State → PlayerRole × State
  next : State → PlayerRole → Option (AgentResponse G.Action) → Option ActionRejection →
    Option PlayerRole × State

structure Alternation where
  first : PlayerRole
  previousYield : Option PlayerRole := none

namespace Alternation

def create (first : PlayerRole) (parameters : JsonValue) : Except String Alternation :=
  (requireEmptyParameters parameters).map fun _ => { first }

/-- The handoff after a yield; both schedules end once both agents have yielded in a row. -/
def yield (schedule : Alternation) (previous : PlayerRole) : Option PlayerRole × Alternation :=
  if schedule.previousYield = some (otherRole previous) then (none, schedule)
  else (some (otherRole previous), { schedule with previousYield := some previous })

end Alternation

def alternateEveryResponse (G : Game) : AgentSchedule G where
  State := Alternation
  create := Alternation.create
  first schedule := (schedule.first, schedule)
  next schedule previous response _ :=
    match response with
    | none => schedule.yield previous
    | some _ => (some (otherRole previous), { schedule with previousYield := none })

/-- `AlternateAfterAction`: keeps control after messages and rejections. -/
def alternateAfterAction (G : Game) : AgentSchedule G where
  State := Alternation
  create := Alternation.create
  first schedule := (schedule.first, schedule)
  next schedule previous response rejection :=
    match response with
    | none => schedule.yield previous
    | some (.message _) => (some previous, { schedule with previousYield := none })
    | some (.action _) | some (.actionAndMessage ..) =>
      (some (if rejection.isSome then previous else otherRole previous),
        { schedule with previousYield := none })

/-- What a plan's session takes from compiled code, apart from the rules of its game. -/
structure SessionCode (G : Game) (Config Rewards : Type) where
  /-- `GameFactory::create`. -/
  createGame : Except String Unit
  initialState : Config → Nat → Map String String → Except String G.State
  schedule : AgentSchedule G
  rewards : G.State → G.State → PlayerRole → G.Action → Option G.Completion → JsonValue → Rewards

inductive Call (G : Game) where
  | start (observation : G.Observation)
  | respond (availableActions : Option (List G.Action))
  | observeTransition (actor : PlayerRole) (action : G.Action) (observation : G.Observation)
  | observeMessage (sender : PlayerRole) (message : String)
  | finish (completion : G.Completion)
  | shutdown

/-- The lifecycle phase to which a callback's failure is attributed. -/
def Call.phase {G : Game} : Call G → String
  | start _ => "start"
  | respond _ => "respond"
  | observeTransition .. => "observe_transition"
  | observeMessage .. => "observe_message"
  | finish _ => "finish"
  | shutdown => "shutdown"

inductive Event (G : Game) where
  | created (role : PlayerRole)
  | initialized (state : G.State)
  /-- A callback, and whether it has returned in time and without an error. -/
  | called (role : PlayerRole) (call : Call G) (ok : Bool)
  | responded (role : PlayerRole) (response : Option (AgentResponse G.Action))
  | accepted (actor : PlayerRole) (action : G.Action) (next : G.State)
  /-- `record_trace` serializes a response. -/
  | traced (response : Option (AgentResponse G.Action))
  /-- The session timeout is added to the clock, which can represent the sum or cannot. -/
  | timed (representable : Bool)

inductive CallbackResult (α : Type) where
  | returned (value : α)
  | failed (error : String)
  | timedOut

def CallbackResult.isReturned {α : Type} : CallbackResult α → Bool
  | returned _ => true
  | _ => false

/-- Agents and clock: what they do may depend on everything that has happened before. -/
structure Environment (G : Game) where
  create : List (Event G) → PlayerRole → CallbackResult Unit
  call : List (Event G) → PlayerRole → Call G → CallbackResult Unit
  respond : List (Event G) → PlayerRole → Option (List G.Action) →
    CallbackResult (Option (AgentResponse G.Action))
  /-- The clock can represent the instant these seconds from now. -/
  representable : List (Event G) → Nat → Bool
  /-- The session deadline has passed. -/
  late : List (Event G) → Bool

/-- Structured internal failure preserving lifecycle attribution. -/
structure SessionFailure where
  phase : String
  role : Option PlayerRole
  error : String

inductive Stop where
  | failure (failure : SessionFailure)
  | panic

structure Session (G : Game) (Rewards : Type) where
  result : SessionResult G Rewards
  log : List (Event G) := []

namespace Session

variable {G : Game} {Rewards : Type} (s : Session G Rewards)

def push (event : Event G) : Session G Rewards := { s with log := s.log ++ [event] }

def edit (change : SessionResult G Rewards → SessionResult G Rewards) : Session G Rewards :=
  { s with result := change s.result }

end Session

abbrev Driver (G : Game) (Rewards α : Type) := ExceptT Stop (StateM (Session G Rewards)) α

structure SessionOutcome (Completion : Type) where
  status : SessionStatus
  completion : Option Completion

/-- Builds a successful non-completion loop exit. -/
def limitOutcome {Completion : Type} (status : SessionStatus) : SessionOutcome Completion :=
  ⟨status, none⟩

structure DecisionInput where
  observation : Value
  availableActions : Value

/-- Result of applying one syntactically valid agent action. -/
inductive ActionAttempt (Completion : Type) where
  | accepted (completion : Option Completion)
  | rejected (rejection : ActionRejection)

/-- Accepted or rejected transition data needed by trajectory capture. -/
inductive TrajectoryOutcome (G : Game) where
  | accepted (before : G.State) (completion : Option G.Completion)
  | rejected (rejection : ActionRejection)

section Serialization

variable {G : Game}

/-- `serde_json::to_value` on the available actions. -/
def affordancesJson : Option (List G.Action) → Except String Value
  | none => .ok .null
  | some actions => (actions.mapM G.actionJson).map .array

/-- The response as a trace shows it; `json!` panics where this fails. -/
def responseJson : Option (AgentResponse G.Action) → Except String Value
  | none => .ok (json [("type", .string "yield")])
  | some (.action action) => do
    return json [("type", .string "action"), ("action", ← G.actionJson action)]
  | some (.message message) =>
    .ok (json [("type", .string "message"), ("message", .string message)])
  | some (.actionAndMessage action message) => do
    return json [("type", .string "action_and_message"), ("action", ← G.actionJson action),
      ("message", .string message)]

end Serialization

section

variable {G : Game} {Config Rewards : Type}

def emit (event : Event G) : Driver G Rewards Unit := modify fun s => s.push event

def editResult (change : SessionResult G Rewards → SessionResult G Rewards) :
    Driver G Rewards Unit := modify fun s => s.edit change

def fail {α : Type} (phase : String) (role : Option PlayerRole) (error : String) :
    Driver G Rewards α := throw (.failure ⟨phase, role, error⟩)

/-- Attributes a callback's error or timeout to its phase and role. -/
def awaited {α : Type} (phase : String) (role : PlayerRole) : CallbackResult α → Driver G Rewards α
  | .returned value => pure value
  | .failed error => fail phase (some role) error
  | .timedOut => fail phase (some role) "agent callback timed out"

def serialized {α : Type} (phase : String) (role : PlayerRole) : Except String α →
    Driver G Rewards α
  | .ok value => pure value
  | .error error => fail phase (some role) error

variable (code : SessionCode G Config Rewards) (plan : SessionPlan Config) (env : Environment G)

def callAgent (role : PlayerRole) (call : Call G) : Driver G Rewards Unit := do
  let answer := env.call (← get).log role call
  emit (.called role call answer.isReturned)
  awaited call.phase role answer

def respond (role : PlayerRole) (affordances : Option (List G.Action)) :
    Driver G Rewards (Option (AgentResponse G.Action)) := do
  let answer := env.respond (← get).log role affordances
  emit (.called role (.respond affordances) answer.isReturned)
  let response ← awaited "respond" role answer
  emit (.responded role response)
  return response

/-- Delivers normal completion to both agents in stable role order. -/
def finishAgents (completion : G.Completion) : Driver G Rewards Unit := do
  callAgent env .A (.finish completion)
  callAgent env .B (.finish completion)

/-- Delivers one player message only to the opposite role. -/
def deliverMessage (sender : PlayerRole) (message : String) : Driver G Rewards Unit := do
  callAgent env (otherRole sender) (.observeMessage sender message)
  editResult fun result => { result with messages := result.messages + 1 }

/-- Records one learner transition using only role-safe observations and numeric rewards. -/
def recordTrajectory (nextState : G.State) (actor : PlayerRole) (action : G.Action)
    (learnerInput : Option DecisionInput) (outcome : TrajectoryOutcome G) :
    Driver G Rewards Unit :=
  match learnerInput, plan.trainingCapture with
  | some input, some capture => do
    let (accepted, rejection, completion, rewards) := match outcome with
      | .accepted before completion => (true, none, completion,
        some (code.rewards before nextState actor action completion capture.parameters))
      | .rejected rejection => (false, some rejection, none, none)
    let nextObservation ←
      serialized "trajectory" actor (G.observationJson (G.observation nextState actor))
    let action ← serialized "trajectory" actor (G.actionJson action)
    editResult fun result => { result with trajectory := result.trajectory ++ [{
      runId := plan.runId
      planId := plan.planId
      decision := result.decisions
      scenario := plan.scenario
      role := actor
      agent := capture.learner
      checkpoint := capture.checkpoint
      reward := capture.rewardKind
      rewardVersion := capture.rewardVersion
      observation := input.observation
      availableActions := input.availableActions
      action, accepted, rejection, rewards, nextObservation
      terminal := completion.isSome }] }
  | _, _ => pure ()

/-- Applies one action and delivers its accepted transition and optional message. -/
def applyAction (state : G.State) (actor : PlayerRole) (action : G.Action)
    (message : Option String) (learnerInput : Option DecisionInput) :
    Driver G Rewards (ActionAttempt G.Completion × G.State) :=
  match G.applyAction state action actor with
  | .error rejection => do
    editResult fun result => { result with rejectedActions := result.rejectedActions + 1 }
    recordTrajectory code plan state actor action learnerInput (.rejected rejection)
    return (.rejected rejection, state)
  | .ok next => do
    editResult fun result => { result with acceptedActions := result.acceptedActions + 1 }
    emit (.accepted actor action next)
    callAgent env .A (.observeTransition actor action (G.observation next .A))
    callAgent env .B (.observeTransition actor action (G.observation next .B))
    let completion := G.completion next
    recordTrajectory code plan next actor action learnerInput (.accepted state completion)
    match completion, message with
    | none, some message => deliverMessage env actor message
    | _, _ => pure ()
    return (.accepted completion, next)

/-- Adds one structured response entry when tracing is enabled. -/
def recordTrace (role : PlayerRole) (response : Option (AgentResponse G.Action))
    (rejection : Option ActionRejection) (context : Option Value) : Driver G Rewards Unit := do
  match (← get).result.trace with
  | none => pure ()
  | some trace =>
    emit (.traced response)
    match responseJson response with
    | .error _ => throw .panic
    | .ok response =>
      editResult fun result => { result with trace := some (trace ++ [json
        ([("decision", .int result.decisions), ("role", .string role.asStr),
          ("response", response),
          ("rejection", optionJson (fun rejection => json [("code", .string rejection.code)])
            rejection)] ++ (context.map fun context => ("input", context)).toList)]) }

def seat (role : PlayerRole) : ResolvedSeat :=
  match role with
  | .A => plan.seatA
  | .B => plan.seatB

def capturesTraining (role : PlayerRole) : Bool :=
  plan.trainingCapture.any fun capture => capture.learner == (seat plan role).name

/-- What the acting role sees before a decision, where it is captured or traced. -/
def decisionInput (state : G.State) (role : PlayerRole) (affordances : Option (List G.Action)) :
    Driver G Rewards (Option DecisionInput) :=
  if capturesTraining plan role || plan.trace == .full then do
    let phase := if capturesTraining plan role then "trajectory" else "trace"
    let observation ← serialized phase role (G.observationJson (G.observation state role))
    let availableActions ← serialized phase role (affordancesJson affordances)
    return some { observation, availableActions }
  else return none

def AgentResponse.isActionOnly {Action : Type} : Option (AgentResponse Action) → Bool
  | some (.action _) => true
  | _ => false

/-- What a response changes: the rejection or completion of its action, and the state. -/
def applyResponse (state : G.State) (role : PlayerRole)
    (response : Option (AgentResponse G.Action)) (learnerInput : Option DecisionInput) :
    Driver G Rewards (Option ActionRejection × Option G.Completion × G.State) := do
  let attempt (action : G.Action) (message : Option String) := do
    match ← applyAction code plan env state role action message learnerInput with
    | (.accepted completion, state) => return (none, completion, state)
    | (.rejected rejection, state) => return (some rejection, none, state)
  match response with
  | none => return (none, none, state)
  | some (.action action) => attempt action none
  | some (.actionAndMessage action message) => attempt action (some message)
  | some (.message message) =>
    deliverMessage env role message
    return (none, none, state)

/-- One decision, from the count of it to its trace entry. -/
def decide (state : G.State) (role : PlayerRole) : Driver G Rewards
    (Option (AgentResponse G.Action) × Option ActionRejection × Option G.Completion × G.State) := do
  editResult fun result => { result with decisions := result.decisions + 1 }
  let affordances := G.availableActions state role
  let input ← decisionInput plan state role affordances
  let learnerInput := if capturesTraining plan role then input else none
  let context := if plan.trace = .full then input.map fun input =>
    json [("observation", input.observation), ("available_actions", input.availableActions)]
    else none
  let response ← respond env role affordances
  if learnerInput.isSome && !AgentResponse.isActionOnly response then
    fail "training_response" (some role)
      "the v1 RL trajectory contract requires action-only learner responses"
  let (rejection, completed, state) ← applyResponse code plan env state role response learnerInput
  recordTrace role response rejection context
  return (response, rejection, completed, state)

/-- The loop, by the number of decisions left until `limits.decisions` is reached. -/
def decisionLoop : Nat → G.State → PlayerRole → code.schedule.State →
    Driver G Rewards (SessionOutcome G.Completion)
  | remaining, state, role, schedule => do
    if env.late (← get).log then return limitOutcome .deadline
    match remaining with
    | 0 => return limitOutcome .decisionLimit
    | remaining + 1 =>
      let (response, rejection, completed, state) ← decide code plan env state role
      match completed with
      | some completion =>
        finishAgents env completion
        return ⟨.completed, some completion⟩
      | none =>
        let result := (← get).result
        if result.acceptedActions ≥ plan.limits.acceptedActions then
          return limitOutcome .actionLimit
        if result.messages ≥ plan.limits.messages then return limitOutcome .messageLimit
        if result.rejectedActions ≥ plan.limits.rejectedActions then
          return limitOutcome .rejectionLimit
        match code.schedule.next schedule role response rejection with
        | (none, _) => return limitOutcome .quiescent
        | (some role, schedule) => decisionLoop remaining state role schedule

/-- Runs initialization callbacks and the ordered decision loop. -/
def driveSession (state : G.State) : Driver G Rewards (SessionOutcome G.Completion) := do
  callAgent env .A (.start (G.observation state .A))
  callAgent env .B (.start (G.observation state .B))
  match G.completion state with
  | some completion =>
    finishAgents env completion
    return ⟨.completed, some completion⟩
  | none =>
    match code.schedule.create plan.schedule.first plan.schedule.parameters with
    | .error error => fail "schedule" none error
    | .ok schedule =>
      let (role, schedule) := code.schedule.first schedule
      let representable := env.representable (← get).log plan.limits.sessionTimeoutSeconds
      emit (.timed representable)
      -- The sum of an instant and a duration panics where it cannot be represented.
      if representable then decisionLoop code plan env plan.limits.decisions state role schedule
      else throw .panic

def resultIdentity (seat : ResolvedSeat) : ResultAgent where
  key := seat.name
  factory := seat.factoryId
  name := seat.identity.name
  version := seat.identity.version
  checkpoint := seat.checkpoint
  settingsFingerprint := seat.settingsFingerprint
  role := seat.role
  seed := seat.seed

def initialResult : SessionResult G Rewards where
  runId := plan.runId
  planId := plan.planId
  phase := plan.phase
  phaseIndex := plan.phaseIndex
  scenario := plan.scenario
  gameId := plan.gameId
  gameVersion := plan.gameVersion
  configurationFingerprint := plan.configurationFingerprint
  gameSeed := plan.gameSeed
  agents := [resultIdentity plan.seatA, resultIdentity plan.seatB]
  schedule := plan.schedule.kind
  trace := if plan.trace = .results then none else some []

/-- Converts one lifecycle error into the compact public result fields. -/
def recordFailure (phase : String) (role : Option PlayerRole) (error : String)
    (result : SessionResult G Rewards) : SessionResult G Rewards :=
  { result with
    status := .failed
    failurePhase := some phase
    failureRole := role
    diagnostic := some (String.ofList (error.toList.take 4096)) }

def createAgent (role : PlayerRole) (s : Session G Rewards) :
    Except String Unit × Session G Rewards :=
  match env.create s.log role with
  | .returned () => (.ok (), s.push (.created role))
  | .failed error => (.error error, s)
  | .timedOut => (.error "agent factory timed out: deadline has elapsed", s)

def shutdownAgent (role : PlayerRole) (s : Session G Rewards) :
    Option String × Session G Rewards :=
  let answer := env.call s.log role .shutdown
  let diagnostic := match answer with
    | .returned () => none
    | .failed error => some ("shutdown failed: " ++ error)
    | .timedOut => some "shutdown timed out"
  (diagnostic, s.push (.called role .shutdown answer.isReturned))

/-- Shuts down both agents without replacing the primary result. -/
def shutdownAgents (s : Session G Rewards) : Session G Rewards :=
  let (first, s) := shutdownAgent env .A s
  let (second, s) := shutdownAgent env .B s
  let diagnostics := (first.map ("role A: " ++ ·)).toList ++ (second.map ("role B: " ++ ·)).toList
  s.edit fun result => { result with cleanupDiagnostics := diagnostics }

inductive Ending where
  | returned
  | unwound
  deriving DecidableEq

/-- Constructs, drives, cleans up, and summarizes one session. -/
def run : Ending × Session G Rewards :=
  let s : Session G Rewards := { result := initialResult plan }
  match code.createGame with
  | .error error => (.returned, s.edit (recordFailure "game_factory" none error))
  | .ok () =>
    match createAgent env .A s with
    | (.error error, s) =>
      (.returned, s.edit (recordFailure "agent_factory" (some .A) error))
    | (.ok (), s) =>
      match createAgent env .B s with
      | (.error error, s) =>
        let (diagnostic, s) :=
          shutdownAgent env .A (s.edit (recordFailure "agent_factory" (some .B) error))
        (.returned, s.edit fun result =>
          { result with cleanupDiagnostics := result.cleanupDiagnostics ++ diagnostic.toList })
      | (.ok (), s) =>
        match code.initialState plan.gameConfig plan.gameSeed plan.gameSecrets with
        | .error error =>
          (.returned, shutdownAgents env (s.edit (recordFailure "initial_state" none error)))
        | .ok state =>
          match (driveSession code plan env state).run.run (s.push (.initialized state)) with
          | (.ok outcome, s) => (.returned, shutdownAgents env (s.edit fun result =>
              { result with status := outcome.status, completion := outcome.completion }))
          | (.error (.failure failure), s) => (.returned, shutdownAgents env
              (s.edit (recordFailure failure.phase failure.role failure.error)))
          | (.error .panic, s) => (.unwound, s)

end

end Headless

end Parlando
