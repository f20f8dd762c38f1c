import Parlando.AgentConfig
import Parlando.Data.Canonical

namespace Parlando

namespace AgentExperiment

def experimentSchema : String := "parlando-agent-experiment/v1"

def planHashVersion : Int := 1

/-- Opaque learner-owned identity of one immutable policy checkpoint. -/
structure CheckpointId where
  value : String
  deriving DecidableEq

structure SecretReference where
  environment : String

structure ConfiguredAgent where
  factory : String
  checkpoint : Option JsonValue
  settings : JsonValue

structure ScenarioSpec where
  name : String
  config : JsonValue
  seeds : List Nat
  repetitions : Nat

/-- Named agents assigned independently to the two game roles. -/
structure SeatAssignments where
  playerA : String
  playerB : String

structure SessionsSpec where
  scenarios : List ScenarioSpec
  seats : SeatAssignments
  mirrorRoles : Bool

/-- Registered reward function and its small game-specific parameter object. -/
structure RewardSpec where
  kind : String
  parameters : JsonValue

/-- Repeated training data and checkpoint cadence for one named learner. -/
structure TrainingSpec where
  learner : String
  scenarios : List ScenarioSpec
  seats : SeatAssignments
  mirrorRoles : Bool
  epochs : Nat
  checkpointEveryEpochs : Nat
  reward : RewardSpec

/-- Held-out session data evaluated at a checkpoint cadence. -/
structure ValidationSpec where
  scenarios : List ScenarioSpec
  seats : SeatAssignments
  mirrorRoles : Bool
  everyCheckpoints : Nat

/-- A compiled activation schedule selected by stable name and first role. -/
structure ScheduleSpec where
  kind : String
  first : PlayerRole
  parameters : JsonValue
  deriving DecidableEq

/-- Hard per-session bounds which remain independent of activation policy. -/
structure SessionLimits where
  callbackTimeoutSeconds : Nat := 60
  shutdownTimeoutSeconds : Nat := 10
  sessionTimeoutSeconds : Nat := 900
  decisions : Nat := 200
  acceptedActions : Nat := 100
  messages : Nat := 200
  rejectedActions : Nat := 10
  deriving DecidableEq

structure ExecutionSpec where
  concurrency : Nat := 1
  failFast : Bool := false

/-- Amount of structured per-decision data retained with each compact result. -/
inductive TraceLevel where
  | results
  | decisions
  | full
  deriving DecidableEq

structure OutputSpec where
  directory : String
  trace : TraceLevel := .results

structure ExperimentFile where
  schema : String
  gameId : String
  secrets : Map String SecretReference := ∅
  agents : Map String ConfiguredAgent
  sessions : Option SessionsSpec := none
  training : Option TrainingSpec := none
  validation : Option ValidationSpec := none
  schedule : ScheduleSpec
  limits : SessionLimits := {}
  execution : ExecutionSpec := {}
  output : OutputSpec

open Value (json)

def optionJson {α : Type} (toJson : α → Value) : Option α → Value
  | none => .null
  | some value => toJson value

def mapJson {α : Type} (toJson : α → Value) (map : Map String α) : Value :=
  json (map.entries.map fun entry => (entry.1, toJson entry.2))

def ConfiguredAgent.toJson (agent : ConfiguredAgent) : Value :=
  json [("factory", .string agent.factory),
    ("checkpoint", optionJson JsonValue.value agent.checkpoint),
    ("settings", agent.settings.value)]

def ScenarioSpec.toJson (scenario : ScenarioSpec) : Value :=
  json [("name", .string scenario.name), ("config", scenario.config.value),
    ("seeds", .array (scenario.seeds.map fun seed => .int seed)),
    ("repetitions", .int scenario.repetitions)]

def SeatAssignments.toJson (seats : SeatAssignments) : Value :=
  json [("player_a", .string seats.playerA), ("player_b", .string seats.playerB)]

def SessionsSpec.toJson (sessions : SessionsSpec) : Value :=
  json [("scenarios", .array (sessions.scenarios.map ScenarioSpec.toJson)),
    ("seats", sessions.seats.toJson), ("mirror_roles", .bool sessions.mirrorRoles)]

def RewardSpec.toJson (reward : RewardSpec) : Value :=
  json [("kind", .string reward.kind), ("parameters", reward.parameters.value)]

def TrainingSpec.toJson (training : TrainingSpec) : Value :=
  json [("learner", .string training.learner),
    ("scenarios", .array (training.scenarios.map ScenarioSpec.toJson)),
    ("seats", training.seats.toJson), ("mirror_roles", .bool training.mirrorRoles),
    ("epochs", .int training.epochs),
    ("checkpoint_every_epochs", .int training.checkpointEveryEpochs),
    ("reward", training.reward.toJson)]

def ValidationSpec.toJson (validation : ValidationSpec) : Value :=
  json [("scenarios", .array (validation.scenarios.map ScenarioSpec.toJson)),
    ("seats", validation.seats.toJson), ("mirror_roles", .bool validation.mirrorRoles),
    ("every_checkpoints", .int validation.everyCheckpoints)]

def configuredRole : PlayerRole → String
  | .A => "player_a"
  | .B => "player_b"

def ScheduleSpec.toJson (schedule : ScheduleSpec) : Value :=
  json [("kind", .string schedule.kind), ("first", .string (configuredRole schedule.first)),
    ("parameters", schedule.parameters.value)]

def SessionLimits.toJson (limits : SessionLimits) : Value :=
  json [("callback_timeout_seconds", .int limits.callbackTimeoutSeconds),
    ("shutdown_timeout_seconds", .int limits.shutdownTimeoutSeconds),
    ("session_timeout_seconds", .int limits.sessionTimeoutSeconds),
    ("decisions", .int limits.decisions), ("accepted_actions", .int limits.acceptedActions),
    ("messages", .int limits.messages), ("rejected_actions", .int limits.rejectedActions)]

def ExecutionSpec.toJson (execution : ExecutionSpec) : Value :=
  json [("concurrency", .int execution.concurrency), ("fail_fast", .bool execution.failFast)]

def TraceLevel.asStr : TraceLevel → String
  | results => "results"
  | decisions => "decisions"
  | full => "full"

def OutputSpec.toJson (output : OutputSpec) : Value :=
  json [("directory", .string output.directory), ("trace", .string output.trace.asStr)]

def ExperimentFile.toJson (spec : ExperimentFile) : Value :=
  json [("schema", .string spec.schema), ("game", json [("id", .string spec.gameId)]),
    ("secrets", mapJson (fun reference => json [("environment", .string reference.environment)])
      spec.secrets),
    ("agents", mapJson ConfiguredAgent.toJson spec.agents),
    ("sessions", optionJson SessionsSpec.toJson spec.sessions),
    ("training", optionJson TrainingSpec.toJson spec.training),
    ("validation", optionJson ValidationSpec.toJson spec.validation),
    ("schedule", spec.schedule.toJson), ("limits", spec.limits.toJson),
    ("execution", spec.execution.toJson), ("output", spec.output.toJson)]

structure AgentIdentity where
  name : String
  version : String
  deriving DecidableEq

/-- Rejects identities that cannot provide stable participant provenance. -/
def AgentIdentity.validate (identity : AgentIdentity) : Except String Unit :=
  if isBlank identity.name then .error "agent name must not be empty"
  else if isBlank identity.version then .error "agent version must not be empty"
  else .ok ()

structure AgentFactory where
  definition : AgentDefinition
  identity : Value → Except String AgentIdentity

/-- Trainable agent capability layered over ordinary checkpoint-specific factories. -/
structure RLAgent where
  resolveCheckpoint : JsonValue → Except String CheckpointId
  factory : CheckpointId → Except String AgentFactory

/-- Game-specific reward calculation kept outside the base interactive game contract. -/
structure RewardFunction where
  version : String
  validateParameters : JsonValue → Except String Unit

/-- Constructor for one fresh activation schedule from validated parameters. -/
abbrev ScheduleFactory := PlayerRole → JsonValue → Except String Unit

/-- Rejects parameters for built-in schedules which deliberately have none. -/
def requireEmptyParameters (parameters : JsonValue) : Except String Unit :=
  match parameters.value with
  | .object [] => .ok ()
  | _ => .error "this agent schedule accepts no parameters"

def builtInSchedules : Map String ScheduleFactory :=
  AList.insert "alternate_every_response" (fun _ => requireEmptyParameters)
    (AList.singleton "alternate_after_action" fun _ => requireEmptyParameters)

/-- What a binary compiles in: one release of a game and the functions of its libraries. -/
structure CompiledGame (Config : Type) where
  id : String
  version : String
  decodeConfig : JsonValue → Except String Config
  validateConfig : Config → Except String Unit
  formats : TextFormats
  sha256 : Value → String
  seedDigest : List String → Nat

/-- Runs versioned agent-agent experiments for one compiled game. -/
structure ExperimentRunner where
  agentFactories : Map String AgentFactory := ∅
  rlAgents : Map String RLAgent := ∅
  rewardFunctions : Map String RewardFunction := ∅
  scheduleFactories : Map String ScheduleFactory := builtInSchedules
  secrets : Map String String := ∅

section Plans

variable {Config : Type} (game : CompiledGame Config)

def hashValue (value : Value) : String := "sha256-" ++ game.sha256 value.canonicalValue

/-- Computes the versioned canonical fingerprint of validated non-secret settings. -/
def configurationFingerprint (factoryId : String) (settings : Value) : String :=
  "sha256:" ++ game.sha256 (json [("version", .int 1), ("factory", .string factoryId),
    ("settings", settings)]).canonicalValue

/-- What a session reads of a seat, apart from secret values and registered code. -/
structure SeatInputs where
  name : String
  factoryId : String
  settings : JsonValue
  settingsFingerprint : String
  identity : AgentIdentity
  checkpoint : Option CheckpointId
  role : PlayerRole
  seed : Nat
  deriving DecidableEq

structure ResolvedSeat extends SeatInputs where
  factory : AgentFactory
  secrets : SecretSets

/-- Returns the secret-free canonical fields which affect plan identity. -/
def SeatInputs.identityDocument (seat : SeatInputs) : Value :=
  json [("name", .string seat.name), ("factory", .string seat.factoryId),
    ("settings_fingerprint", .string seat.settingsFingerprint),
    ("identity", json [("name", .string seat.identity.name),
      ("version", .string seat.identity.version)]),
    ("checkpoint", optionJson (fun checkpoint => .string checkpoint.value) seat.checkpoint),
    ("role", .string seat.role.asStr), ("seed", .int seat.seed)]

namespace ExperimentRunner

variable (runner : ExperimentRunner)

def configuredFactory (configured : ConfiguredAgent) (override : Option CheckpointId) :
    Except String (AgentFactory × Option CheckpointId) :=
  match runner.agentFactories.lookup configured.factory with
  | some factory =>
    if configured.checkpoint.isSome || override.isSome then
      .error ("static factory " ++ configured.factory.quote ++ " does not accept a checkpoint")
    else .ok (factory, none)
  | none => do
    let learner ← orError (runner.rlAgents.lookup configured.factory)
      ("unregistered agent factory " ++ configured.factory.quote)
    let checkpoint ← match override with
      | some checkpoint => .ok checkpoint
      | none => do
        let reference ← orError configured.checkpoint
          ("RL factory " ++ configured.factory.quote ++ " requires checkpoint")
        learner.resolveCheckpoint reference
    return (← learner.factory checkpoint, some checkpoint)

/-- Resolves one named agent definition for a concrete role and derived seed. -/
def resolveSeat (spec : ExperimentFile) (name : String) (role : PlayerRole)
    (gameSeed repetition : Nat) (mirrorLeg : String) (override : Option CheckpointId) :
    Except String ResolvedSeat := do
  let configured ← orError (spec.agents.lookup name) ("unknown agent " ++ name.quote)
  let (factory, checkpoint) ← runner.configuredFactory configured override
  let settings ← factory.definition.normalizeSettings game.formats configured.settings.value
  let secrets ← factory.definition.resolveSecrets settings runner.secrets
  let identity ← factory.identity settings
  identity.validate
  return {
    name, factory, secrets, identity, checkpoint, role
    factoryId := configured.factory
    settings := .of settings
    settingsFingerprint := configurationFingerprint game configured.factory settings
    seed := game.seedDigest [spec.schema, game.id, name, role.asStr, toString gameSeed,
      toString repetition, mirrorLeg] }

end ExperimentRunner

/-- Session-local instructions for capturing one named learner's action transitions. -/
structure CaptureInputs where
  learner : String
  checkpoint : CheckpointId
  rewardKind : String
  rewardVersion : String
  parameters : JsonValue
  deriving DecidableEq

structure TrainingCapture extends CaptureInputs where
  reward : RewardFunction

/-- What a session reads of its plan, apart from secret values and registered code. -/
structure SessionInputs (Config : Type) where
  phase : String
  phaseIndex : Nat
  scenario : String
  gameId : String
  gameVersion : String
  configurationFingerprint : String
  gameConfig : Config
  gameSeed : Nat
  seatA : SeatInputs
  seatB : SeatInputs
  schedule : ScheduleSpec
  limits : SessionLimits
  trace : TraceLevel
  capture : Option CaptureInputs

/-- One resolved headless session, including orchestration identity and runtime handles. -/
structure SessionPlan (Config : Type) where
  runId : String
  planId : String
  phase : String
  phaseIndex : Nat
  scenario : String
  gameId : String
  gameVersion : String
  configurationFingerprint : String
  gameConfig : Config
  gameSeed : Nat
  gameSecrets : Map String String
  seatA : ResolvedSeat
  seatB : ResolvedSeat
  schedule : ScheduleSpec
  scheduleFactory : ScheduleFactory
  limits : SessionLimits
  trace : TraceLevel
  trainingCapture : Option TrainingCapture

def SessionPlan.inputs (plan : SessionPlan Config) : SessionInputs Config where
  phase := plan.phase
  phaseIndex := plan.phaseIndex
  scenario := plan.scenario
  gameId := plan.gameId
  gameVersion := plan.gameVersion
  configurationFingerprint := plan.configurationFingerprint
  gameConfig := plan.gameConfig
  gameSeed := plan.gameSeed
  seatA := plan.seatA.toSeatInputs
  seatB := plan.seatB.toSeatInputs
  schedule := plan.schedule
  limits := plan.limits
  trace := plan.trace
  capture := plan.trainingCapture.map TrainingCapture.toCaptureInputs

/-- Which agent takes which role, and the leg of a mirrored pair. -/
def assignments (seats : SeatAssignments) (mirrorRoles : Bool) :
    List (String × String × String) :=
  if mirrorRoles && seats.playerA != seats.playerB then
    [(seats.playerA, seats.playerB, "original"), (seats.playerB, seats.playerA, "mirrored")]
  else [(seats.playerA, seats.playerB, "original")]

structure Coordinates where
  scenario : ScenarioSpec
  gameSeed : Nat
  repetition : Nat
  playerA : String
  playerB : String
  mirrorLeg : String

structure SessionSet where
  phase : String
  phaseIndex : Nat
  scenarios : List ScenarioSpec
  seats : SeatAssignments
  mirrorRoles : Bool
  overrides : Map String CheckpointId
  capture : Option TrainingCapture

def SessionSet.coordinates (set : SessionSet) : List Coordinates :=
  set.scenarios.flatMap fun scenario => scenario.seeds.flatMap fun gameSeed =>
    (List.range scenario.repetitions).flatMap fun repetition =>
      (assignments set.seats set.mirrorRoles).map fun (playerA, playerB, mirrorLeg) =>
        { scenario, gameSeed, repetition, playerA, playerB, mirrorLeg }

def planDocument (spec : ExperimentFile) (phase : String) (phaseIndex : Nat)
    (coordinates : Coordinates) (seatA seatB : SeatInputs) : Value :=
  json [("version", .int planHashVersion), ("phase", .string phase),
    ("phase_index", .int phaseIndex), ("schema", .string spec.schema),
    ("game", json [("id", .string spec.gameId), ("version", .string game.version)]),
    ("scenario", .string coordinates.scenario.name),
    ("config", coordinates.scenario.config.value), ("game_seed", .int coordinates.gameSeed),
    ("repetition", .int coordinates.repetition), ("mirror_leg", .string coordinates.mirrorLeg),
    ("player_a", seatA.identityDocument), ("player_b", seatB.identityDocument),
    ("schedule", spec.schedule.toJson), ("limits", spec.limits.toJson),
    ("trace", .string spec.output.trace.asStr)]

namespace ExperimentRunner

variable (runner : ExperimentRunner)

def sessionPlan (spec : ExperimentFile) (runId : String) (set : SessionSet)
    (coordinates : Coordinates) : Except String (SessionPlan Config) := do
  let gameConfig ← game.decodeConfig coordinates.scenario.config
  let seatA ← runner.resolveSeat game spec coordinates.playerA .A coordinates.gameSeed
    coordinates.repetition coordinates.mirrorLeg (set.overrides.lookup coordinates.playerA)
  let seatB ← runner.resolveSeat game spec coordinates.playerB .B coordinates.gameSeed
    coordinates.repetition coordinates.mirrorLeg (set.overrides.lookup coordinates.playerB)
  let scheduleFactory ← orError (runner.scheduleFactories.lookup spec.schedule.kind)
    ("unknown agent schedule " ++ spec.schedule.kind.quote)
  return {
    runId, gameConfig, seatA, seatB, scheduleFactory
    planId := hashValue game (planDocument game spec set.phase set.phaseIndex coordinates
      seatA.toSeatInputs seatB.toSeatInputs)
    phase := set.phase
    phaseIndex := set.phaseIndex
    scenario := coordinates.scenario.name
    gameId := game.id
    gameVersion := game.version
    configurationFingerprint := hashValue game coordinates.scenario.config.value
    gameSeed := coordinates.gameSeed
    gameSecrets := runner.secrets
    schedule := spec.schedule
    limits := spec.limits
    trace := spec.output.trace
    trainingCapture := set.capture }

end ExperimentRunner

def rejectDuplicates : List String → List String → Except String Unit
  | _, [] => .ok ()
  | seen, id :: ids =>
    if seen.contains id then .error ("experiment expands to duplicate plan ID " ++ id)
    else rejectDuplicates (id :: seen) ids

namespace ExperimentRunner

variable (runner : ExperimentRunner)

def planSet (spec : ExperimentFile) (runId : String) (set : SessionSet) :
    Except String (List (SessionPlan Config)) := do
  let plans ← set.coordinates.mapM (runner.sessionPlan game spec runId set)
  rejectDuplicates [] (plans.map SessionPlan.planId)
  return plans

/-- Constructs one schedule to validate its kind and parameters before planning. -/
def resolveSchedule (schedule : ScheduleSpec) : Except String Unit := do
  let factory ← orError (runner.scheduleFactories.lookup schedule.kind)
    ("unknown agent schedule " ++ schedule.kind.quote)
  factory schedule.first schedule.parameters

def validateSecret (key : String) (reference : SecretReference) : Except String Unit :=
  if isBlank key || Text.startsWith "game." key then
    .error "secret keys must be non-empty and omit the game. prefix"
  else if isBlank reference.environment then
    .error ("secret " ++ key.quote ++ " must name a non-empty environment variable")
  else .ok ()

def validateAgent (configured : ConfiguredAgent) : Except String Unit := do
  let (factory, _) ← runner.configuredFactory configured none
  let settings ← factory.definition.normalizeSettings game.formats configured.settings.value
  let _ ← factory.definition.resolveSecrets settings runner.secrets
  let identity ← factory.identity settings
  identity.validate

end ExperimentRunner

/-- Rejects zero bounds and a callback timeout longer than the session deadline. -/
def SessionLimits.validate (limits : SessionLimits) : Except String Unit :=
  if limits.callbackTimeoutSeconds = 0 || limits.shutdownTimeoutSeconds = 0 ||
      limits.sessionTimeoutSeconds = 0 || limits.decisions = 0 || limits.acceptedActions = 0 ||
      limits.messages = 0 || limits.rejectedActions = 0 then
    .error "all session limits must be positive"
  else if limits.callbackTimeoutSeconds > limits.sessionTimeoutSeconds then
    .error "callback timeout must not exceed the session timeout"
  else .ok ()

def validateScenario (label : String) (scenario : ScenarioSpec) : Except String Unit := do
  if isBlank scenario.name || scenario.seeds.isEmpty || scenario.repetitions = 0 then
    throw (label ++ " scenario names, seeds, and repetitions must be non-empty")
  let config ← game.decodeConfig scenario.config
  game.validateConfig config

def validateSessionSet (label : String) (scenarios : List ScenarioSpec) (seats : SeatAssignments)
    (agents : Map String ConfiguredAgent) : Except String Unit := do
  if scenarios.isEmpty then
    throw (label ++ ".scenarios must contain at least one scenario")
  [seats.playerA, seats.playerB].forM fun key =>
    if (agents.lookup key).isNone then
      .error (label ++ " seat references unknown agent " ++ key.quote)
    else .ok ()
  scenarios.forM (validateScenario game label)

def ifPresent {α : Type} (part : Option α) (check : α → Except String Unit) :
    Except String Unit :=
  match part with
  | some value => check value
  | none => .ok ()

namespace ExperimentRunner

variable (runner : ExperimentRunner)

def validateTraining (spec : ExperimentFile) (training : TrainingSpec) : Except String Unit := do
  if training.epochs = 0 || training.checkpointEveryEpochs = 0 then
    throw "training epochs and checkpoint cadence must be positive"
  if training.epochs % training.checkpointEveryEpochs ≠ 0 then
    throw "training.epochs must be divisible by checkpoint_every_epochs"
  let configured ← orError (spec.agents.lookup training.learner)
    ("training selects unknown learner " ++ training.learner.quote)
  if (runner.rlAgents.lookup configured.factory).isNone then
    throw ("training learner " ++ training.learner.quote ++ " is not registered as an RL agent")
  if training.seats.playerA != training.learner && training.seats.playerB != training.learner then
    throw "training learner must occupy at least one training seat"
  validateSessionSet game "training" training.scenarios training.seats spec.agents
  let reward ← orError (runner.rewardFunctions.lookup training.reward.kind)
    ("unknown reward function " ++ training.reward.kind.quote)
  reward.validateParameters training.reward.parameters

def validateValidation (spec : ExperimentFile) (learner : String) (validation : ValidationSpec) :
    Except String Unit := do
  if validation.everyCheckpoints = 0 then
    throw "validation.every_checkpoints must be positive"
  validateSessionSet game "validation" validation.scenarios validation.seats spec.agents
  if validation.seats.playerA != learner && validation.seats.playerB != learner then
    throw "validation must seat the training learner"

/-- Checks cross-field constraints which the file's syntax cannot express. -/
def validateSpec (spec : ExperimentFile) : Except String Unit := do
  if spec.schema ≠ experimentSchema then
    throw ("unsupported agent experiment schema " ++ spec.schema.quote ++ "; expected " ++
      experimentSchema.quote)
  if spec.gameId ≠ game.id then
    throw ("experiment selects game " ++ spec.gameId.quote ++
      ", but this runner was compiled for " ++ game.id.quote)
  if spec.sessions.isNone && spec.training.isNone then
    throw "an experiment must define sessions, training, or both"
  if spec.validation.isSome && spec.training.isNone then
    throw "validation requires a training section"
  if spec.execution.concurrency = 0 then
    throw "execution.concurrency must be positive"
  spec.secrets.entries.forM fun entry => validateSecret entry.1 entry.2
  spec.limits.validate
  spec.agents.entries.forM fun entry => runner.validateAgent game entry.2
  ifPresent spec.sessions fun sessions =>
    validateSessionSet game "sessions" sessions.scenarios sessions.seats spec.agents
  ifPresent spec.training (runner.validateTraining game spec)
  ifPresent spec.validation fun validation =>
    ifPresent spec.training fun training =>
      validateValidation game spec training.learner validation
  runner.resolveSchedule spec.schedule

end ExperimentRunner

/-- A session set by what makes the run expand it. -/
inductive PlanCall where
  | evaluation
  | training (epoch : Nat) (checkpoint : CheckpointId)
  | validation (checkpoints : Nat) (checkpoint : CheckpointId)
  deriving DecidableEq

def PlanCall.trains : PlanCall → Bool
  | .training _ _ => true
  | _ => false

namespace ExperimentRunner

variable (runner : ExperimentRunner) (spec : ExperimentFile)

/-- The version of the reward function that the training section names. -/
def rewardVersion : Option String :=
  spec.training.bind fun training =>
    (runner.rewardFunctions.lookup training.reward.kind).map RewardFunction.version

def sessionSet : PlanCall → Option SessionSet
  | .evaluation => spec.sessions.map fun sessions => {
      phase := "evaluation", phaseIndex := 0, overrides := ∅, capture := none
      scenarios := sessions.scenarios, seats := sessions.seats
      mirrorRoles := sessions.mirrorRoles }
  | .training epoch checkpoint => do
    let training ← spec.training
    let reward ← runner.rewardFunctions.lookup training.reward.kind
    return {
      phase := "training", phaseIndex := epoch
      scenarios := training.scenarios, seats := training.seats
      mirrorRoles := training.mirrorRoles
      overrides := AList.singleton training.learner checkpoint
      capture := some {
        learner := training.learner, checkpoint, reward
        rewardKind := training.reward.kind
        rewardVersion := reward.version
        parameters := training.reward.parameters } }
  | .validation checkpoints checkpoint => do
    let training ← spec.training
    let validation ← spec.validation
    return {
      phase := "validation", phaseIndex := checkpoints, capture := none
      scenarios := validation.scenarios, seats := validation.seats
      mirrorRoles := validation.mirrorRoles
      overrides := AList.singleton training.learner checkpoint }

/-- The plans of a call; there are none where the file has no section for it. -/
def callPlans (runId : String) (call : PlanCall) : Except String (List (SessionPlan Config)) :=
  match runner.sessionSet spec call with
  | some set => runner.planSet game spec runId set
  | none => .ok []

end ExperimentRunner

/-- Durable identity of one invocation and the normalized input it belongs to. -/
structure RunManifest where
  schema : String
  runId : String
  gameId : String
  gameVersion : String
  specHash : String
  deriving DecidableEq

def loadOrCreateManifest (file : Option RunManifest) (fresh specHash : String) :
    Except String RunManifest :=
  match file with
  | some manifest =>
    if manifest.schema ≠ experimentSchema || manifest.gameId ≠ game.id ||
        manifest.gameVersion ≠ game.version || manifest.specHash ≠ specHash then
      .error "output directory belongs to a different experiment specification"
    else .ok manifest
  | none => .ok ⟨experimentSchema, fresh, game.id, game.version, specHash⟩

/-- One start of a binary on an experiment file, with the manifest that its directory holds. -/
structure Invocation where
  runner : ExperimentRunner
  spec : ExperimentFile
  file : Option RunManifest
  fresh : String

namespace Invocation

variable (invocation : Invocation)

/-- Validation and the manifest, as they come before the first plan. -/
def start : Except String RunManifest := do
  invocation.runner.validateSpec game invocation.spec
  loadOrCreateManifest game invocation.file invocation.fresh
    (hashValue game invocation.spec.toJson)

def rewardVersion : Option String := invocation.runner.rewardVersion invocation.spec

/-- A plan that the invocation makes for a call. -/
def Plans (runId : String) (call : PlanCall) (plan : SessionPlan Config) : Prop :=
  ∃ plans, invocation.runner.callPlans game invocation.spec runId call = .ok plans ∧ plan ∈ plans

end Invocation

end Plans

end AgentExperiment

end Parlando
