import Parlando.AgentExperiment
import Parlando.Concurrency.Machine

namespace Parlando

namespace AgentExperiment

open Concurrency

/-- Durable output of one planned session: what a resumed run reads of it. -/
structure SessionResult where
  runId : String
  planId : String
  succeeded : Bool
  trajectory : List Value
  deriving DecidableEq

/-- Durable learner-update boundary used to resume without repeating training. -/
structure CheckpointRecord where
  runId : String
  checkpointNumber : Nat
  updateId : String
  base : CheckpointId
  checkpoint : CheckpointId
  deriving DecidableEq

structure OutputDirectory where
  manifest : Option RunManifest := none
  results : Map String SessionResult := ∅
  checkpoints : Map Nat CheckpointRecord := ∅

/-- Immutable set of transitions supplied to one learner update. -/
structure TrainingBatch where
  updateId : String
  completedEpochs : Nat
  steps : List Value
  deriving DecidableEq

structure TrainingLoop where
  training : TrainingSpec
  epoch : Nat
  checkpoint : CheckpointId
  checkpoints : Nat
  pending : List Value

inductive Position where
  | evaluation
  | training (loop : TrainingLoop)
  | boundary (loop : TrainingLoop)
  | validation (loop : TrainingLoop)
  | returned (outcome : Except String Unit)

namespace Position

def call : Position → Option PlanCall
  | evaluation => some .evaluation
  | training loop => some (.training loop.epoch loop.checkpoint)
  | boundary _ => none
  | validation loop => some (.validation loop.checkpoints loop.checkpoint)
  | returned _ => none

def hasReturned : Position → Bool
  | returned _ => true
  | _ => false

end Position

structure ExecutionBatch where
  steps : List Value := []
  hasFailure : Bool := false

def ExecutionBatch.extend (batch : ExecutionBatch) (result : SessionResult) : ExecutionBatch :=
  ⟨batch.steps ++ result.trajectory, batch.hasFailure || !result.succeeded⟩

/-- How sessions end, what the learner answers, and what a stored trajectory is read back as. -/
structure Answers (Config : Type) where
  session : SessionPlan Config → Bool × List Value
  train : CheckpointId → TrainingBatch → Except String CheckpointId
  /-- A double may come back as another one; a reward stored as `null` is refused. -/
  reload : List Value → Except String (List Value)

structure ExperimentProgram (Config : Type) extends Answers Config where
  game : CompiledGame Config
  runner : ExperimentRunner
  spec : ExperimentFile

inductive Stage (Config : Type) where
  | entered
  | executing (waiting : List (SessionPlan Config)) (batch : ExecutionBatch)
  | trained (next : CheckpointId)

structure Process (Config : Type) where
  runId : String
  position : Position
  stage : Stage Config

structure ExperimentState (Config : Type) where
  directory : OutputDirectory := {}
  process : Option (Process Config) := none
  trains : List (CheckpointId × TrainingBatch) := []

namespace ExperimentProgram

variable {Config : Type} (program : ExperimentProgram Config)

def initialCheckpoint (training : TrainingSpec) : Except String CheckpointId := do
  let configured ← orError (program.spec.agents.lookup training.learner) "validated learner"
  let reference ← orError configured.checkpoint "validated checkpoint"
  let learner ← orError (program.runner.rlAgents.lookup configured.factory) "validated RL factory"
  let checkpoint ← learner.resolveCheckpoint reference
  let (factory, _) ← program.runner.configuredFactory configured (some checkpoint)
  let settings ← factory.definition.normalizeSettings program.game.formats configured.settings.value
  let _ ← factory.definition.resolveSecrets settings program.runner.secrets
  return checkpoint

def nextEpoch (loop : TrainingLoop) : Position :=
  if loop.epoch < loop.training.epochs then .training { loop with epoch := loop.epoch + 1 }
  else .returned (.ok ⟨⟩)

def enterTraining : Position :=
  match program.spec.training with
  | none => .returned (.ok ⟨⟩)
  | some training =>
    match program.initialCheckpoint training with
    | .error error => .returned (.error error)
    | .ok checkpoint =>
      nextEpoch { training, epoch := 0, checkpoint, checkpoints := 0, pending := [] }

def firstPosition : Position :=
  if program.spec.sessions.isSome then .evaluation else program.enterTraining

def afterSet (batch : ExecutionBatch) : Position → Position
  | .evaluation => program.enterTraining
  | .training loop =>
    let loop := { loop with pending := loop.pending ++ batch.steps }
    if batch.hasFailure then
      .returned (.error "training stopped because an epoch contains a failed session")
    else if loop.epoch % loop.training.checkpointEveryEpochs ≠ 0 then nextEpoch loop
    else .boundary { loop with checkpoints := loop.checkpoints + 1 }
  | .validation loop => nextEpoch loop
  | position => position

def afterUpdate (loop : TrainingLoop) (next : CheckpointId) : Position :=
  let loop := { loop with checkpoint := next, pending := [] }
  match program.spec.validation with
  | some validation =>
    if loop.checkpoints % validation.everyCheckpoints = 0 then .validation loop
    else nextEpoch loop
  | none => nextEpoch loop

def sessionResult (plan : SessionPlan Config) : SessionResult :=
  ⟨plan.runId, plan.planId, (program.session plan).1, (program.session plan).2⟩

/-- Verifies whether one existing result belongs to the requested run and plan, and reads it. -/
def finalizedResult (directory : OutputDirectory) (runId planId : String) :
    Except String (Option SessionResult) :=
  match directory.results.lookup planId with
  | none => .ok none
  | some result =>
    if result.runId ≠ runId || result.planId ≠ planId then
      .error ("result " ++ planId ++ " has inconsistent run or plan identity")
    else do
      let trajectory ← program.reload result.trajectory
      return some { result with trajectory }

def skipFinalized (directory : OutputDirectory) (runId : String) :
    List (SessionPlan Config) → ExecutionBatch →
      Except String (List (SessionPlan Config) × ExecutionBatch)
  | [], batch => .ok ([], batch)
  | plan :: plans, batch => do
    match ← program.finalizedResult directory runId plan.planId with
    | some result => skipFinalized directory runId plans (batch.extend result)
    | none =>
      let (waiting, batch) ← skipFinalized directory runId plans batch
      return (plan :: waiting, batch)

def concurrency : Nat :=
  if program.spec.execution.failFast then 1 else program.spec.execution.concurrency

def updateId (runId : String) (checkpoints : Nat) : String :=
  runId ++ ":checkpoint:" ++ toString checkpoints

def trainingBatch (runId : String) (loop : TrainingLoop) : TrainingBatch :=
  ⟨updateId runId loop.checkpoints, loop.epoch, loop.pending⟩

def checkpointRecord (runId : String) (loop : TrainingLoop) (next : CheckpointId) :
    CheckpointRecord :=
  ⟨runId, loop.checkpoints, updateId runId loop.checkpoints, loop.checkpoint, next⟩

def loadCheckpointRecord (directory : OutputDirectory) (runId : String) (checkpoints : Nat) :
    Except String (Option CheckpointRecord) :=
  match directory.checkpoints.lookup checkpoints with
  | none => .ok none
  | some record =>
    if record.runId ≠ runId || record.checkpointNumber ≠ checkpoints then
      .error ("checkpoint record " ++ toString checkpoints ++ " has inconsistent identity")
    else .ok (some record)

end ExperimentProgram

/-- What a process does between two awaits, and the end of a process. -/
inductive ExperimentAction where
  | start (fresh : String)
  | plan
  | write (index : Nat)
  | gather (index : Nat)
  | leave
  | load
  | train
  | record
  | kill

namespace ExperimentProgram

variable {Config : Type} (program : ExperimentProgram Config)

def ExperimentState.moveTo (s : ExperimentState Config) (runId : String) (position : Position) :
    ExperimentState Config :=
  { s with process := some ⟨runId, position, .entered⟩ }

def step (s : ExperimentState Config) : ExperimentAction → Option (ExperimentState Config)
  | .start fresh =>
    match s.process with
    | some _ => none
    | none =>
      match (Invocation.mk program.runner program.spec s.directory.manifest fresh).start
          program.game with
      | .error error => some (ExperimentState.moveTo s "" (.returned (.error error)))
      | .ok manifest =>
        some (ExperimentState.moveTo
          { s with directory := { s.directory with manifest := some manifest } }
          manifest.runId program.firstPosition)
  | .plan =>
    match s.process with
    | some ⟨runId, position, .entered⟩ => do
      let call ← position.call
      match program.runner.callPlans program.game program.spec runId call with
      | .error error => return ExperimentState.moveTo s runId (.returned (.error error))
      | .ok plans =>
        match program.skipFinalized s.directory runId plans {} with
        | .error error => return ExperimentState.moveTo s runId (.returned (.error error))
        | .ok (waiting, batch) =>
          return { s with process := some ⟨runId, position, .executing waiting batch⟩ }
    | _ => none
  | .write index =>
    match s.process with
    | some ⟨_, _, .executing waiting _⟩ => do
      let plan ← waiting[index]?
      if index < program.concurrency ∧ s.directory.results.lookup plan.planId = none then
        some { s with directory := { s.directory with
          results := AList.insert plan.planId (program.sessionResult plan) s.directory.results } }
      else none
    | _ => none
  | .gather index =>
    match s.process with
    | some ⟨runId, position, .executing waiting batch⟩ => do
      let plan ← waiting[index]?
      let result ← s.directory.results.lookup plan.planId
      if index < program.concurrency then
        if !result.succeeded && program.spec.execution.failFast then
          some (ExperimentState.moveTo s runId
            (.returned (.error "agent experiment stopped after a failed session")))
        else
          some { s with process := some ⟨runId, position,
            .executing (waiting.eraseIdx index) (batch.extend result)⟩ }
      else none
    | _ => none
  | .leave =>
    match s.process with
    | some ⟨runId, position, .executing [] batch⟩ =>
      some (ExperimentState.moveTo s runId (program.afterSet batch position))
    | _ => none
  | .load =>
    match s.process with
    | some ⟨runId, .boundary loop, .entered⟩ =>
      match loadCheckpointRecord s.directory runId loop.checkpoints with
      | .error error => some (ExperimentState.moveTo s runId (.returned (.error error)))
      | .ok (some record) =>
        some (ExperimentState.moveTo s runId (program.afterUpdate loop record.checkpoint))
      | .ok none => none
    | _ => none
  | .train =>
    match s.process with
    | some ⟨runId, .boundary loop, .entered⟩ =>
      match loadCheckpointRecord s.directory runId loop.checkpoints with
      | .ok none =>
        let batch := trainingBatch runId loop
        let s := { s with trains := s.trains ++ [(loop.checkpoint, batch)] }
        match program.train loop.checkpoint batch with
        | .error error => some (ExperimentState.moveTo s runId (.returned (.error error)))
        | .ok next => some { s with process := some ⟨runId, .boundary loop, .trained next⟩ }
      | _ => none
    | _ => none
  | .record =>
    match s.process with
    | some ⟨runId, .boundary loop, .trained next⟩ =>
      some (ExperimentState.moveTo { s with directory := { s.directory with
          checkpoints := AList.insert loop.checkpoints (checkpointRecord runId loop next)
            s.directory.checkpoints } }
        runId (program.afterUpdate loop next))
    | _ => none
  | .kill =>
    match s.process with
    | some process => if process.position.hasReturned then none else some { s with process := none }
    | none => none

/-- Starts, kills and restarts of a binary on one output directory. -/
def machine : Machine (ExperimentState Config) ExperimentAction where
  step := program.step

/-- The same where sessions, learner and reader may answer otherwise at every step. -/
def anyMachine (game : CompiledGame Config) (runner : ExperimentRunner) (spec : ExperimentFile) :
    Machine (ExperimentState Config) (Answers Config × ExperimentAction) where
  step s action := step ⟨action.1, game, runner, spec⟩ s action.2

/--
Sessions are finalized in the order of the plans, and no failed session that stops the run is left
behind by a kill.
-/
def inOrder (s : ExperimentState Config) (action : ExperimentAction) : Bool :=
  match s.process, action with
  | some ⟨_, _, .executing waiting _⟩, .write index =>
    (waiting.take index).all fun plan => (s.directory.results.lookup plan.planId).isSome
  | _, .gather index => index == 0
  | some ⟨_, _, .executing waiting _⟩, .kill =>
    !program.spec.execution.failFast || waiting.all fun plan =>
      (s.directory.results.lookup plan.planId).all SessionResult.succeeded
  | _, _ => true

end ExperimentProgram

end AgentExperiment

end Parlando
