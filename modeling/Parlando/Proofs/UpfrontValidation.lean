import Parlando.Proofs.PlannedSets
import Parlando.Proofs.Resumption

namespace Parlando

namespace AgentExperiment

open Concurrency
open Value (json)

def ExperimentRunner.checkAgent {Config : Type} (runner : ExperimentRunner)
    (game : CompiledGame Config) (configured : ConfiguredAgent) (override : Option CheckpointId) :
    Except String Unit := do
  let (factory, _) ← runner.configuredFactory configured override
  let settings ← factory.definition.normalizeSettings game.formats configured.settings.value
  let _ ← factory.definition.resolveSecrets settings runner.secrets
  let identity ← factory.identity settings
  identity.validate

def ExperimentRunner.LaterCheckpointsResolve {Config : Type} (runner : ExperimentRunner)
    (game : CompiledGame Config) (spec : ExperimentFile) : Prop :=
  ∀ training configured, spec.training = some training →
    spec.agents.lookup training.learner = some configured →
    runner.checkAgent game configured none = .ok ⟨⟩ →
    ∀ checkpoint, runner.checkAgent game configured (some checkpoint) = .ok ⟨⟩

/--
No section repeats a seed of a scenario, the validation section only where the training comes to
its first validation.
-/
structure ExperimentFile.SeedsApart (spec : ExperimentFile) : Prop where
  sessions : ∀ sessions, spec.sessions = some sessions → (seededScenarios sessions.scenarios).Nodup
  training : ∀ training, spec.training = some training → (seededScenarios training.scenarios).Nodup
  validation : ∀ training validation, spec.training = some training →
    spec.validation = some validation →
    validation.everyCheckpoints * training.checkpointEveryEpochs ≤ training.epochs →
    (seededScenarios validation.scenarios).Nodup

/-- No section repeats a seed of a scenario, whether a run comes to the section or not. -/
structure ExperimentFile.SeedsApartThroughout (spec : ExperimentFile) : Prop where
  sessions : ∀ sessions, spec.sessions = some sessions → (seededScenarios sessions.scenarios).Nodup
  training : ∀ training, spec.training = some training → (seededScenarios training.scenarios).Nodup
  validation : ∀ training validation, spec.training = some training →
    spec.validation = some validation → (seededScenarios validation.scenarios).Nodup

/-- The scenarios of the set that a run plans first. -/
def ExperimentFile.firstScenarios (spec : ExperimentFile) : List ScenarioSpec :=
  match spec.sessions with
  | some sessions => sessions.scenarios
  | none => (spec.training.map TrainingSpec.scenarios).getD []

section

variable {Config : Type} {game : CompiledGame Config} {runner : ExperimentRunner}
  {spec : ExperimentFile}

structure SetChecked (game : CompiledGame Config) (spec : ExperimentFile)
    (scenarios : List ScenarioSpec) (seats : SeatAssignments) : Prop where
  playerA : ∃ configured, spec.agents.lookup seats.playerA = some configured
  playerB : ∃ configured, spec.agents.lookup seats.playerB = some configured
  repeats : ∀ scenario ∈ scenarios, 0 < scenario.repetitions
  decodes : ∀ scenario ∈ scenarios, ∃ config, game.decodeConfig scenario.config = .ok config

theorem validateSessionSet_ok {label : String} {scenarios : List ScenarioSpec}
    {seats : SeatAssignments}
    (valid : validateSessionSet game label scenarios seats spec.agents = .ok ⟨⟩) :
    SetChecked game spec scenarios seats := by
  obtain ⟨-, valid⟩ := Except.of_check_ok valid
  obtain ⟨⟨⟩, seated, valid⟩ := Except.of_bind_ok valid
  have known {key : String} (mem : key ∈ [seats.playerA, seats.playerB]) :
      ∃ configured, spec.agents.lookup key = some configured := by
    have found := Except.of_forM_ok seated key mem
    split at found
    · cases found
    · rename_i isKnown
      exact Option.ne_none_iff_exists'.mp fun missing => isKnown (by rw [missing]; rfl)
  have each {scenario : ScenarioSpec} (mem : scenario ∈ scenarios) :
      0 < scenario.repetitions ∧ ∃ config, game.decodeConfig scenario.config = .ok config := by
    obtain ⟨filled, checked⟩ := Except.of_check_ok (Except.of_forM_ok valid scenario mem)
    obtain ⟨config, decoded, -⟩ := Except.of_bind_ok checked
    simp only [Bool.or_eq_true, decide_eq_true_eq, not_or] at filled
    exact ⟨Nat.pos_of_ne_zero filled.2, config, decoded⟩
  exact ⟨known List.mem_cons_self, known (List.mem_cons_of_mem _ List.mem_cons_self),
    fun _ mem => (each mem).1, fun _ mem => (each mem).2⟩

structure SpecChecked (runner : ExperimentRunner) (game : CompiledGame Config)
    (spec : ExperimentFile) : Prop where
  agents : ∀ name configured, spec.agents.lookup name = some configured →
    runner.checkAgent game configured none = .ok ⟨⟩
  schedule : ∃ factory, runner.scheduleFactories.lookup spec.schedule.kind = some factory
  present : spec.sessions.isSome = true ∨ spec.training.isSome = true
  concurrent : 0 < spec.execution.concurrency
  sessions : ∀ sessions, spec.sessions = some sessions →
    SetChecked game spec sessions.scenarios sessions.seats
  training : ∀ training, spec.training = some training →
    SetChecked game spec training.scenarios training.seats ∧ 0 < training.epochs ∧
      0 < training.checkpointEveryEpochs ∧
      (∃ reward, runner.rewardFunctions.lookup training.reward.kind = some reward) ∧
      ∃ configured, spec.agents.lookup training.learner = some configured
  validation : ∀ training validation, spec.training = some training →
    spec.validation = some validation →
    SetChecked game spec validation.scenarios validation.seats ∧ 0 < validation.everyCheckpoints

theorem validateTraining_ok {training : TrainingSpec}
    (valid : runner.validateTraining game spec training = .ok ⟨⟩) :
    SetChecked game spec training.scenarios training.seats ∧ 0 < training.epochs ∧
      0 < training.checkpointEveryEpochs ∧
      (∃ reward, runner.rewardFunctions.lookup training.reward.kind = some reward) ∧
      ∃ configured, spec.agents.lookup training.learner = some configured := by
  obtain ⟨positive, valid⟩ := Except.of_check_ok valid
  obtain ⟨-, valid⟩ := Except.of_check_ok valid
  obtain ⟨configured, known, valid⟩ := Except.of_bind_ok valid
  obtain ⟨-, valid⟩ := Except.of_check_ok valid
  obtain ⟨-, valid⟩ := Except.of_check_ok valid
  obtain ⟨⟨⟩, checked, valid⟩ := Except.of_bind_ok valid
  obtain ⟨reward, registered, -⟩ := Except.of_bind_ok valid
  simp only [Bool.or_eq_true, decide_eq_true_eq, not_or] at positive
  exact ⟨validateSessionSet_ok checked, Nat.pos_of_ne_zero positive.1,
    Nat.pos_of_ne_zero positive.2, ⟨reward, orError_ok registered⟩, configured, orError_ok known⟩

theorem validateSpec_ok (valid : runner.validateSpec game spec = .ok ⟨⟩) :
    SpecChecked runner game spec := by
  obtain ⟨-, valid⟩ := Except.of_check_ok valid
  obtain ⟨-, valid⟩ := Except.of_check_ok valid
  obtain ⟨present, valid⟩ := Except.of_check_ok valid
  obtain ⟨-, valid⟩ := Except.of_check_ok valid
  obtain ⟨concurrent, valid⟩ := Except.of_check_ok valid
  obtain ⟨⟨⟩, -, valid⟩ := Except.of_bind_ok valid
  obtain ⟨⟨⟩, -, valid⟩ := Except.of_bind_ok valid
  obtain ⟨⟨⟩, agents, valid⟩ := Except.of_bind_ok valid
  obtain ⟨⟨⟩, evaluated, valid⟩ := Except.of_bind_ok valid
  obtain ⟨⟨⟩, trained, valid⟩ := Except.of_bind_ok valid
  obtain ⟨⟨⟩, validated, valid⟩ := Except.of_bind_ok valid
  obtain ⟨factory, scheduled, -⟩ := Except.of_bind_ok valid
  have present : spec.sessions.isSome = true ∨ spec.training.isSome = true := by
    cases sessions : spec.sessions with
    | some _ => exact .inl rfl
    | none => cases training : spec.training with
      | some _ => exact .inr rfl
      | none => exact absurd (by rw [sessions, training]; rfl) present
  refine ⟨fun name configured known => ?_, ⟨factory, orError_ok scheduled⟩, present,
    Nat.pos_of_ne_zero concurrent, fun sessions here => ?_, fun training here => ?_,
    fun training validation here there => ?_⟩
  · exact Except.of_forM_ok agents ⟨name, configured⟩ (AList.mem_lookup_iff.mp known)
  · rw [here] at evaluated
    exact validateSessionSet_ok evaluated
  · rw [here] at trained
    exact validateTraining_ok trained
  · rw [here, there] at validated
    obtain ⟨positive, validated⟩ := Except.of_check_ok validated
    obtain ⟨⟨⟩, checked, -⟩ := Except.of_bind_ok validated
    exact ⟨validateSessionSet_ok checked, Nat.pos_of_ne_zero positive⟩

namespace ExperimentRunner

theorem evaluation_scenarios {sessions : SessionsSpec} (present : spec.sessions = some sessions) :
    ∃ set, runner.sessionSet spec .evaluation = some set ∧
      set.scenarios = sessions.scenarios := by
  simp only [sessionSet, present, Option.map_some]
  exact ⟨_, rfl, rfl⟩

theorem training_scenarios (checked : SpecChecked runner game spec) {training : TrainingSpec}
    (trains : spec.training = some training) (epoch : Nat) (checkpoint : CheckpointId) :
    ∃ set, runner.sessionSet spec (.training epoch checkpoint) = some set ∧
      set.scenarios = training.scenarios := by
  obtain ⟨-, -, -, ⟨reward, registered⟩, -⟩ := checked.training training trains
  simp only [sessionSet, trains, registered, Option.bind_eq_bind, Option.bind_some]
  exact ⟨_, rfl, rfl⟩

theorem validation_scenarios {training : TrainingSpec} {validation : ValidationSpec}
    (trains : spec.training = some training) (validates : spec.validation = some validation)
    (checkpoints : Nat) (checkpoint : CheckpointId) :
    ∃ set, runner.sessionSet spec (.validation checkpoints checkpoint) = some set ∧
      set.scenarios = validation.scenarios := by
  simp only [sessionSet, trains, validates, Option.bind_eq_bind, Option.bind_some]
  exact ⟨_, rfl, rfl⟩

theorem nodup_of_throughout {call : PlanCall} {set : SessionSet}
    (apart : spec.SeedsApartThroughout) (here : runner.sessionSet spec call = some set) :
    (seededScenarios set.scenarios).Nodup := by
  cases call with
  | evaluation =>
    obtain ⟨sessions, present, rfl⟩ := Option.map_eq_some_iff.mp here
    exact apart.sessions sessions present
  | training epoch checkpoint =>
    obtain ⟨training, trains, here⟩ := Option.bind_eq_some_iff.mp here
    obtain ⟨reward, -, here⟩ := Option.bind_eq_some_iff.mp here
    cases here
    exact apart.training training trains
  | validation checkpoints checkpoint =>
    obtain ⟨training, trains, here⟩ := Option.bind_eq_some_iff.mp here
    obtain ⟨validation, validates, here⟩ := Option.bind_eq_some_iff.mp here
    cases here
    exact apart.validation training validation trains validates

theorem resolveSeat_total {name : String} {configured : ConfiguredAgent} {role : PlayerRole}
    {gameSeed repetition : Nat} {mirrorLeg : String} {override : Option CheckpointId}
    (known : spec.agents.lookup name = some configured)
    (resolves : runner.checkAgent game configured override = .ok ⟨⟩) :
    ∃ seat, runner.resolveSeat game spec name role gameSeed repetition mirrorLeg override =
      .ok seat := by
  obtain ⟨⟨factory, checkpoint⟩, found, resolves⟩ := Except.of_bind_ok resolves
  obtain ⟨settings, normalized, resolves⟩ := Except.of_bind_ok resolves
  obtain ⟨secrets, delivered, resolves⟩ := Except.of_bind_ok resolves
  obtain ⟨identity, identified, valid⟩ := Except.of_bind_ok resolves
  simp only [resolveSeat, known, orError, found, normalized, delivered, identified, valid, bind,
    Except.bind]
  exact ⟨_, rfl⟩

/-- Every plan of a checked set resolves when its seats do with the checkpoints of the set. -/
theorem sessionPlan_total {runId : String} {set : SessionSet} {coordinates : Coordinates}
    (checked : SetChecked game spec set.scenarios set.seats)
    (scheduled : ∃ factory, runner.scheduleFactories.lookup spec.schedule.kind = some factory)
    (resolves : ∀ name configured, spec.agents.lookup name = some configured →
      runner.checkAgent game configured (set.overrides.lookup name) = .ok ⟨⟩)
    (mem : coordinates ∈ set.coordinates) :
    ∃ plan, runner.sessionPlan game spec runId set coordinates = .ok plan := by
  obtain ⟨config, decoded⟩ := checked.decodes _ (SessionSet.mem_scenarios mem)
  obtain ⟨factory, scheduled⟩ := scheduled
  have seated (name : String) (here : name = set.seats.playerA ∨ name = set.seats.playerB)
      (role : PlayerRole) : ∃ seat, runner.resolveSeat game spec name role coordinates.gameSeed
        coordinates.repetition coordinates.mirrorLeg (set.overrides.lookup name) = .ok seat := by
    have known : ∃ configured, spec.agents.lookup name = some configured := by
      rcases here with rfl | rfl
      · exact checked.playerA
      · exact checked.playerB
    obtain ⟨configured, known⟩ := known
    exact resolveSeat_total known (resolves name configured known)
  obtain ⟨here, there⟩ := SessionSet.players_seated mem
  obtain ⟨seatA, first⟩ := seated coordinates.playerA here .A
  obtain ⟨seatB, second⟩ := seated coordinates.playerB there .B
  simp only [sessionPlan, decoded, first, second, scheduled, orError, bind, Except.bind]
  exact ⟨_, rfl⟩

/-- What makes a call's set plannable, in terms of the file's own lists. -/
theorem callPlans_ok_iff {runId : String} {call : PlanCall} {set : SessionSet}
    (injective : Injective game.sha256) (checked : SpecChecked runner game spec)
    (later : runner.LaterCheckpointsResolve game spec)
    (here : runner.sessionSet spec call = some set) :
    (∃ plans, runner.callPlans game spec runId call = .ok plans) ↔
      (seededScenarios set.scenarios).Nodup := by
  have sound : SetChecked game spec set.scenarios set.seats ∧
      ∀ name configured, spec.agents.lookup name = some configured →
        runner.checkAgent game configured (set.overrides.lookup name) = .ok ⟨⟩ := by
    have overridden {training : TrainingSpec} (trains : spec.training = some training)
        (checkpoint : CheckpointId) (name : String) (configured : ConfiguredAgent)
        (known : spec.agents.lookup name = some configured) : runner.checkAgent game configured
          ((AList.singleton training.learner checkpoint : Map String CheckpointId).lookup name) =
            .ok ⟨⟩ := by
      rw [Map.lookup_singleton]
      split
      · rename_i same
        exact later training configured trains (same ▸ known) (checked.agents _ _ known) checkpoint
      · exact checked.agents _ _ known
    cases call with
    | evaluation =>
      obtain ⟨sessions, present, rfl⟩ := Option.map_eq_some_iff.mp here
      exact ⟨checked.sessions sessions present, checked.agents⟩
    | training epoch checkpoint =>
      obtain ⟨training, trains, here⟩ := Option.bind_eq_some_iff.mp here
      obtain ⟨reward, -, here⟩ := Option.bind_eq_some_iff.mp here
      cases here
      exact ⟨(checked.training training trains).1, overridden trains checkpoint⟩
    | validation checkpoints checkpoint =>
      obtain ⟨training, trains, here⟩ := Option.bind_eq_some_iff.mp here
      obtain ⟨validation, present, here⟩ := Option.bind_eq_some_iff.mp here
      cases here
      exact ⟨(checked.validation training validation trains present).1,
        overridden trains checkpoint⟩
  simp only [callPlans, here]
  exact planSet_ok_iff injective sound.1.repeats fun coordinates mem =>
    sessionPlan_total sound.1 checked.schedule sound.2 mem

end ExperimentRunner

end

namespace ExperimentProgram

variable {Config : Type} {program : ExperimentProgram Config}

def Placed (spec : ExperimentFile) : Position → Prop
  | .training loop => spec.training = some loop.training ∧ loop.epoch ≤ loop.training.epochs ∧
      ∃ epochs < loop.training.checkpointEveryEpochs,
        loop.epoch = loop.checkpoints * loop.training.checkpointEveryEpochs + epochs + 1
  | .boundary loop => spec.training = some loop.training ∧ loop.epoch ≤ loop.training.epochs ∧
      0 < loop.checkpoints ∧ loop.epoch = loop.checkpoints * loop.training.checkpointEveryEpochs
  | .validation loop => spec.training = some loop.training ∧ loop.epoch ≤ loop.training.epochs ∧
      0 < loop.checkpoints ∧ loop.epoch = loop.checkpoints * loop.training.checkpointEveryEpochs ∧
      ∃ validation, spec.validation = some validation ∧
        loop.checkpoints % validation.everyCheckpoints = 0
  | .evaluation | .returned _ => True

theorem nextEpoch_placed {loop : TrainingLoop} (epochs : Nat)
    (trains : program.spec.training = some loop.training)
    (within : epochs < loop.training.checkpointEveryEpochs)
    (epoch : loop.epoch = loop.checkpoints * loop.training.checkpointEveryEpochs + epochs) :
    Placed program.spec (nextEpoch loop) := by
  rw [nextEpoch]
  split
  · rename_i goesOn
    exact ⟨trains, goesOn, epochs, within, congrArg (· + 1) epoch⟩
  · trivial

theorem enterTraining_placed (positive : program.Positive) :
    Placed program.spec program.enterTraining := by
  unfold enterTraining
  split
  · trivial
  · rename_i training trains
    split
    · trivial
    · exact nextEpoch_placed 0 trains (positive training trains) (by simp)

theorem firstPosition_placed (positive : program.Positive) :
    Placed program.spec program.firstPosition := by
  rw [firstPosition]
  split
  · trivial
  · exact enterTraining_placed positive

theorem afterSet_placed (positive : program.Positive) {position : Position}
    (placed : Placed program.spec position) (batch : ExecutionBatch) :
    Placed program.spec (program.afterSet batch position) := by
  cases position with
  | evaluation => exact enterTraining_placed positive
  | training loop =>
    obtain ⟨trains, upTo, epochs, within, epoch⟩ := placed
    simp only [afterSet]
    split
    · trivial
    · split
      · rename_i inside
        rw [ne_eq, epoch, epoch_mod within] at inside
        exact nextEpoch_placed (epochs + 1) trains
          (Nat.lt_of_le_of_ne within inside) epoch
      · rename_i last
        rw [not_ne_iff, epoch, epoch_mod within] at last
        refine ⟨trains, upTo, Nat.succ_pos _, ?_⟩
        simp only [epoch, Nat.succ_mul]
        omega
  | boundary loop => exact placed
  | validation loop =>
    obtain ⟨trains, -, -, epoch, -⟩ := placed
    exact nextEpoch_placed 0 trains (positive _ trains) epoch
  | returned outcome => trivial

theorem afterUpdate_placed (positive : program.Positive) {loop : TrainingLoop}
    (placed : Placed program.spec (.boundary loop)) (next : CheckpointId) :
    Placed program.spec (program.afterUpdate loop next) := by
  obtain ⟨trains, upTo, some, epoch⟩ := placed
  unfold afterUpdate
  split
  · rename_i validation validates
    simp only
    split
    · rename_i due
      exact ⟨trains, upTo, some, epoch, validation, validates, due⟩
    · exact nextEpoch_placed 0 trains (positive _ trains) epoch
  · exact nextEpoch_placed 0 trains (positive _ trains) epoch

def AllPlaced (program : ExperimentProgram Config) (s : ExperimentState Config) : Prop :=
  ∀ process, s.process = some process → Placed program.spec process.position

section

variable {s s' : ExperimentState Config} {action : ExperimentAction}

theorem AllPlaced.moveTo {runId : String} {position : Position}
    (placed : Placed program.spec position) :
    program.AllPlaced (ExperimentState.moveTo s runId position) := by
  intro process here
  cases here
  exact placed

theorem AllPlaced.stay {runId : String} {position : Position} {stage stage' : Stage Config}
    (placed : program.AllPlaced s) (process : s.process = some ⟨runId, position, stage⟩)
    (process' : s'.process = some ⟨runId, position, stage'⟩) : program.AllPlaced s' := by
  have here := placed _ process
  intro now after
  cases process'.symm.trans after
  exact here

theorem AllPlaced.step (positive : program.Positive) (placed : program.AllPlaced s)
    (h : program.step s action = some s') : program.AllPlaced s' := by
  cases action with
  | start fresh =>
    obtain ⟨-, ⟨error, rfl, -⟩ | ⟨manifest, -, rfl⟩⟩ := start_cases h
    · exact AllPlaced.moveTo trivial
    · exact AllPlaced.moveTo (firstPosition_placed positive)
  | plan =>
    obtain ⟨id, position, call, process, called⟩ := plan_enabled h
    simp only [ExperimentProgram.step, process, called, Option.bind_eq_bind, Option.bind_some] at h
    split at h
    · cases h
      exact AllPlaced.moveTo trivial
    · split at h
      · cases h
        exact AllPlaced.moveTo trivial
      · cases h
        exact placed.stay process rfl
  | write index =>
    obtain ⟨_, _, _, _, _, -, -, -, -, rfl⟩ := write_cases h
    exact placed
  | gather index =>
    obtain ⟨id, position, _, _, _, _, process, -, -, -, ⟨-, -, rfl⟩ | ⟨-, rfl⟩⟩ := gather_cases h
    · exact AllPlaced.moveTo trivial
    · exact placed.stay process rfl
  | leave =>
    simp only [ExperimentProgram.step] at h
    split at h
    · rename_i runId position batch process
      cases h
      exact AllPlaced.moveTo (afterSet_placed positive (placed _ process) batch)
    · cases h
  | load =>
    simp only [ExperimentProgram.step] at h
    split at h
    · rename_i runId loop process
      split at h
      · cases h
        exact AllPlaced.moveTo trivial
      · cases h
        exact AllPlaced.moveTo (afterUpdate_placed positive (placed _ process) _)
      · cases h
    · cases h
  | train =>
    simp only [ExperimentProgram.step] at h
    split at h
    · rename_i runId loop process
      split at h
      · split at h
        · cases h
          exact AllPlaced.moveTo trivial
        · cases h
          exact placed.stay process rfl
      · cases h
    · cases h
  | record =>
    simp only [ExperimentProgram.step] at h
    split at h
    · rename_i runId loop next process
      cases h
      exact AllPlaced.moveTo (afterUpdate_placed positive (placed _ process) next)
    · cases h
  | kill =>
    simp only [ExperimentProgram.step] at h
    split at h
    · split at h
      · cases h
      · cases h
        intro now here
        cases here
    · cases h

/-- However it is interrupted, a run plans the sets of its places only. -/
theorem allPlaced_of_run (positive : program.Positive)
    (run : program.machine.Run Machine.unguarded {} s) : program.AllPlaced s := by
  refine run.invariant (fun process here => by cases here) ?_
  intro s s' action placed _ h
  exact placed.step positive h

/-- The set of a place repeats no seed when the sections do not. -/
theorem seedsApart_of_placed {runner : ExperimentRunner} {spec : ExperimentFile}
    {position : Position} {call : PlanCall} {set : SessionSet} (apart : spec.SeedsApart)
    (placed : Placed spec position) (called : position.call = some call)
    (here : runner.sessionSet spec call = some set) : (seededScenarios set.scenarios).Nodup := by
  cases position with
  | evaluation =>
    cases called
    obtain ⟨sessions, present, rfl⟩ := Option.map_eq_some_iff.mp here
    exact apart.sessions sessions present
  | training loop =>
    cases called
    obtain ⟨training, trains, here⟩ := Option.bind_eq_some_iff.mp here
    obtain ⟨reward, -, here⟩ := Option.bind_eq_some_iff.mp here
    cases here
    exact apart.training training trains
  | validation loop =>
    cases called
    obtain ⟨training, trains, here⟩ := Option.bind_eq_some_iff.mp here
    obtain ⟨validation, validates, here⟩ := Option.bind_eq_some_iff.mp here
    cases here
    obtain ⟨trains', upTo, positive, epoch, validation', validates', due⟩ := placed
    obtain rfl : training = loop.training := Option.some.inj (trains.symm.trans trains')
    obtain rfl : validation = validation' := Option.some.inj (validates.symm.trans validates')
    refine apart.validation loop.training validation trains validates ?_
    have first : validation.everyCheckpoints ≤ loop.checkpoints :=
      Nat.le_of_dvd positive (Nat.dvd_of_mod_eq_zero due)
    exact (Nat.mul_le_mul_right _ first).trans (epoch ▸ upTo)
  | boundary _ | returned _ => cases called

end

/-- Every session succeeds without a step, and every update returns its base. -/
def unhindered (game : CompiledGame Config) (runner : ExperimentRunner) (spec : ExperimentFile) :
    ExperimentProgram Config where
  game
  runner
  spec
  session := fun _ => (true, [])
  train := fun base _ => .ok base
  reload := .ok

/-- The directory of a run that nothing has hindered. -/
structure Smooth (runId : String) (directory : OutputDirectory) : Prop where
  results : ∀ id result, directory.results.lookup id = some result →
    result.runId = runId ∧ result.planId = id ∧ result.succeeded = true
  checkpoints : ∀ n record, directory.checkpoints.lookup n = some record →
    record.runId = runId ∧ record.checkpointNumber = n

section

variable {game : CompiledGame Config} {runner : ExperimentRunner} {spec : ExperimentFile}
  {runId : String} {position : Position}

def Reaches (program : ExperimentProgram Config) (runId : String) (position : Position)
    (stage : Stage Config) : Prop :=
  ∃ s, program.machine.Run Machine.unguarded {} s ∧ s.process = some ⟨runId, position, stage⟩ ∧
    Smooth runId s.directory

variable (game runner spec) in
theorem skipFinalized_smooth {directory : OutputDirectory} (smooth : Smooth runId directory)
    (plans : List (SessionPlan Config)) (batch : ExecutionBatch)
    (succeeds : batch.hasFailure = false) : ∃ waiting batch',
      (unhindered game runner spec).skipFinalized directory runId plans batch =
        .ok (waiting, batch') ∧
        batch'.hasFailure = false ∧ ∀ plan ∈ waiting, plan ∈ plans := by
  induction plans generalizing batch with
  | nil => exact ⟨[], batch, rfl, succeeds, fun _ mem => mem⟩
  | cons plan plans ih =>
    cases found : directory.results.lookup plan.planId with
    | some result =>
      obtain ⟨sameRun, samePlan, succeeded⟩ := smooth.results _ _ found
      obtain ⟨waiting, batch', skipped, clean, within⟩ :=
        ih (batch.extend result) (by simp [ExecutionBatch.extend, succeeds, succeeded])
      refine ⟨waiting, batch', ?_, clean, fun _ mem => List.mem_cons_of_mem _ (within _ mem)⟩
      have accepted : (unhindered game runner spec).finalizedResult directory runId plan.planId =
          .ok (some result) := by
        obtain ⟨_, _, _, _⟩ := result
        cases sameRun
        cases samePlan
        rw [finalizedResult, found]
        simp only [ne_eq, not_true_eq_false, decide_false, Bool.or_false, Bool.false_eq_true,
          if_false]
        rfl
      rw [← skipped, skipFinalized, accepted]
      rfl
    | none =>
      obtain ⟨waiting, batch', skipped, clean, within⟩ := ih batch succeeds
      refine ⟨plan :: waiting, batch', ?_, clean, fun other mem => ?_⟩
      · rw [skipFinalized]
        simp [finalizedResult, found, skipped, bind, Except.bind, pure, Except.pure]
      · rcases List.mem_cons.mp mem with rfl | mem
        · exact List.mem_cons_self
        · exact List.mem_cons_of_mem _ (within _ mem)

/-- The waiting sessions end one after the other. -/
theorem reaches_gathered (concurrent : 0 < spec.execution.concurrency)
    {waiting : List (SessionPlan Config)} {batch : ExecutionBatch}
    (sameRun : ∀ plan ∈ waiting, plan.runId = runId) (succeeds : batch.hasFailure = false)
    (reaches : (unhindered game runner spec).Reaches runId position (.executing waiting batch)) :
    ∃ batch', batch'.hasFailure = false ∧
      (unhindered game runner spec).Reaches runId position (.executing [] batch') := by
  induction waiting generalizing batch with
  | nil => exact ⟨batch, succeeds, reaches⟩
  | cons plan waiting ih =>
    have allowed : 0 < (unhindered game runner spec).concurrency := by
      rw [concurrency]
      split
      · exact Nat.one_pos
      · exact concurrent
    obtain ⟨runHere, runLater⟩ := List.forall_mem_cons.mp sameRun
    obtain ⟨s, run, process, smooth, result, found⟩ : ∃ s,
        (unhindered game runner spec).machine.Run Machine.unguarded {} s ∧
        s.process = some ⟨runId, position, .executing (plan :: waiting) batch⟩ ∧
        Smooth runId s.directory ∧ ∃ result, s.directory.results.lookup plan.planId = some result := by
      obtain ⟨s, run, process, smooth⟩ := reaches
      cases found : s.directory.results.lookup plan.planId with
      | some result => exact ⟨s, run, process, smooth, result, found⟩
      | none =>
        have step : (unhindered game runner spec).step s (.write 0) =
            some { s with directory := { s.directory with
              results := AList.insert plan.planId ((unhindered game runner spec).sessionResult plan)
                s.directory.results } } := by
          simp [ExperimentProgram.step, process, allowed, found]
        refine ⟨_, run.tail (a := .write 0) trivial step, process,
          ⟨fun id result here => ?_, smooth.checkpoints⟩, _, AList.lookup_insert _⟩
        rw [Map.lookup_insert_eq] at here
        split at here
        · rename_i same
          cases here
          exact ⟨runHere, same.symm, rfl⟩
        · exact smooth.results id result here
    obtain ⟨-, -, succeeded⟩ := smooth.results _ _ found
    have step : (unhindered game runner spec).step s (.gather 0) =
        some { s with process := some ⟨runId, position, .executing waiting
          (batch.extend result)⟩ } := by
      simp [ExperimentProgram.step, process, allowed, found, succeeded]
    exact ih runLater (by simp [ExecutionBatch.extend, succeeds, succeeded])
      ⟨_, run.tail (a := .gather 0) trivial step, rfl, smooth⟩

/-- The expansion of a set that can be planned. -/
theorem reaches_executing {call : PlanCall} {plans : List (SessionPlan Config)}
    (called : position.call = some call)
    (planned : runner.callPlans game spec runId call = .ok plans)
    (reaches : (unhindered game runner spec).Reaches runId position .entered) :
    ∃ waiting batch, batch.hasFailure = false ∧ (∀ plan ∈ waiting, plan ∈ plans) ∧
      (unhindered game runner spec).Reaches runId position (.executing waiting batch) := by
  obtain ⟨s, run, process, smooth⟩ := reaches
  obtain ⟨waiting, batch, skipped, clean, within⟩ := skipFinalized_smooth game runner spec smooth plans {} rfl
  have step : (unhindered game runner spec).step s .plan =
      some { s with process := some ⟨runId, position, .executing waiting batch⟩ } := by
    have planned : (unhindered game runner spec).runner.callPlans (unhindered game runner spec).game
      (unhindered game runner spec).spec runId call = .ok plans := planned
    simp only [ExperimentProgram.step, process, called, planned, skipped, Option.bind_eq_bind,
      Option.bind_some]
    rfl
  exact ⟨waiting, batch, clean, within, _, run.tail (a := .plan) trivial step, rfl, smooth⟩

/-- A set that can be planned is executed, and the run goes on behind it. -/
theorem reaches_afterSet (concurrent : 0 < spec.execution.concurrency) {call : PlanCall}
    {plans : List (SessionPlan Config)} (called : position.call = some call)
    (planned : runner.callPlans game spec runId call = .ok plans)
    (reaches : (unhindered game runner spec).Reaches runId position .entered) :
    ∃ batch, batch.hasFailure = false ∧ (unhindered game runner spec).Reaches runId
      ((unhindered game runner spec).afterSet batch position) .entered := by
  obtain ⟨waiting, batch, clean, within, executing⟩ := reaches_executing called planned reaches
  obtain ⟨batch', clean', s', run', process', smooth'⟩ := reaches_gathered concurrent
    (fun plan mem => (callPlans_distinct planned).2 plan (within plan mem)) clean executing
  have leave : (unhindered game runner spec).step s' .leave = some (ExperimentState.moveTo s' runId
      ((unhindered game runner spec).afterSet batch' position)) := by
    simp [ExperimentProgram.step, process']
  exact ⟨batch', clean', _, run'.tail (a := .leave) trivial leave, rfl, smooth'⟩

/-- A boundary is passed with an update or with its record. -/
theorem reaches_afterUpdate {loop : TrainingLoop}
    (reaches : (unhindered game runner spec).Reaches runId (.boundary loop) .entered) :
    ∃ next, (unhindered game runner spec).Reaches runId
      ((unhindered game runner spec).afterUpdate loop next) .entered := by
  obtain ⟨s, run, process, smooth⟩ := reaches
  cases found : s.directory.checkpoints.lookup loop.checkpoints with
  | some record =>
    obtain ⟨sameRun, sameNumber⟩ := smooth.checkpoints _ _ found
    have step : (unhindered game runner spec).step s .load = some (ExperimentState.moveTo s runId
        ((unhindered game runner spec).afterUpdate loop record.checkpoint)) := by
      simp [ExperimentProgram.step, process, loadCheckpointRecord, found, sameRun, sameNumber]
    exact ⟨record.checkpoint, _, run.tail (a := .load) trivial step, rfl, smooth⟩
  | none =>
    have train : (unhindered game runner spec).step s .train =
        some { s with
          trains := s.trains ++ [(loop.checkpoint, trainingBatch runId loop)]
          process := some ⟨runId, .boundary loop, .trained loop.checkpoint⟩ } := by
      simp [ExperimentProgram.step, process, loadCheckpointRecord, found, unhindered]
    have trained := run.tail (a := ExperimentAction.train) trivial train
    refine ⟨loop.checkpoint, _, trained.tail (a := .record) trivial rfl, rfl, smooth.results,
      fun n record here => ?_⟩
    change (AList.insert loop.checkpoints _ s.directory.checkpoints).lookup n = some record at here
    rw [Map.lookup_insert_eq] at here
    split at here
    · rename_i same
      cases here
      exact ⟨rfl, same.symm⟩
    · exact smooth.checkpoints n record here

/-- The first checkpoint of a learner that resolves with later ones. -/
theorem initialCheckpoint_total (checked : SpecChecked runner game spec)
    (later : runner.LaterCheckpointsResolve game spec) {training : TrainingSpec}
    (trains : spec.training = some training) :
    ∃ checkpoint, (unhindered game runner spec).initialCheckpoint training = .ok checkpoint := by
  obtain ⟨-, -, -, -, configured, known⟩ := checked.training training trains
  have resolves := checked.agents _ _ known
  have overridden := later training configured trains known resolves
  obtain ⟨⟨factory, resolved⟩, found, -⟩ := Except.of_bind_ok resolves
  unfold ExperimentRunner.configuredFactory at found
  split at found
  · rename_i factory' static
    obtain ⟨⟨factory, resolved⟩, refused, -⟩ := Except.of_bind_ok (overridden ⟨""⟩)
    unfold ExperimentRunner.configuredFactory at refused
    rw [static] at refused
    simp at refused
  · obtain ⟨learner, registered, found⟩ := Except.of_bind_ok found
    obtain ⟨reference, referenced, found⟩ := Except.of_bind_ok found
    obtain ⟨checkpoint, given, -⟩ := Except.of_bind_ok found
    obtain ⟨⟨factory, resolved⟩, made, seated⟩ := Except.of_bind_ok (overridden checkpoint)
    obtain ⟨settings, normalized, seated⟩ := Except.of_bind_ok seated
    obtain ⟨secrets, delivered, -⟩ := Except.of_bind_ok seated
    refine ⟨checkpoint, ?_⟩
    simp only [initialCheckpoint, unhindered, known, orError_ok referenced, orError_ok registered,
      orError, given, made, normalized, delivered, bind, Except.bind, pure, Except.pure]

/-- The training section begins with its first epoch. -/
theorem enterTraining_valid (valid : runner.validateSpec game spec = .ok ⟨⟩)
    (later : runner.LaterCheckpointsResolve game spec) {training : TrainingSpec}
    (trains : spec.training = some training) :
    ∃ checkpoint, (unhindered game runner spec).enterTraining = .training
      { training, epoch := 1, checkpoint, checkpoints := 0, pending := [] } := by
  have checked := validateSpec_ok valid
  obtain ⟨checkpoint, initial⟩ := initialCheckpoint_total checked later trains
  have trains' : (unhindered game runner spec).spec.training = some training := trains
  refine ⟨checkpoint, ?_⟩
  simp only [enterTraining, trains', initial, nextEpoch]
  exact if_pos (checked.training training trains).2.1

theorem reaches_first (valid : runner.validateSpec game spec = .ok ⟨⟩) :
    (unhindered game runner spec).Reaches "run" (unhindered game runner spec).firstPosition
      .entered := by
  have started := (Invocation.start_valid valid "run" "run").1
  have step : (unhindered game runner spec).step {} (.start "run") = some (ExperimentState.moveTo
      { directory := { manifest := some ((unhindered game runner spec).manifestOf "run") } } "run"
      (unhindered game runner spec).firstPosition) := by
    have started : (Invocation.mk (unhindered game runner spec).runner
      (unhindered game runner spec).spec none "run").start (unhindered game runner spec).game =
        .ok ((unhindered game runner spec).manifestOf "run") := started
    simp only [ExperimentProgram.step, started]
    rfl
  refine ⟨_, Machine.Run.refl.tail (a := .start "run") trivial step, rfl, ?_, ?_⟩
  · intro id result here
    cases here
  · intro n record here
    cases here

/-- Every set that a run comes to can be planned, whatever sessions, learner and reader answer. -/
def PlansAll (game : CompiledGame Config) (runner : ExperimentRunner) (spec : ExperimentFile) :
    Prop :=
  ∀ s, (anyMachine game runner spec).Run Machine.unguarded {} s →
    ∀ process call, s.process = some process → process.position.call = some call →
      ∃ plans, runner.callPlans game spec process.runId call = .ok plans

/-- Some set of the file cannot be planned. -/
def SetUnplannable (game : CompiledGame Config) (runner : ExperimentRunner)
    (spec : ExperimentFile) : Prop :=
  ∃ runId call set error, runner.sessionSet spec call = some set ∧
    runner.callPlans game spec runId call = .error error

/-- Every run fails, or is about to, and has executed no session and trained no checkpoint. -/
def FailsFirst (game : CompiledGame Config) (runner : ExperimentRunner) (spec : ExperimentFile) :
    Prop :=
  ∀ s, (anyMachine game runner spec).Run Machine.unguarded {} s →
    s.directory.results = ∅ ∧ s.trains = [] ∧ ∀ process, s.process = some process →
      (∃ error, process.position = .returned (.error error)) ∨
      process.stage = .entered ∧ ∃ call error, process.position.call = some call ∧
        runner.callPlans game spec process.runId call = .error error

/-- A run with the same answers throughout is one of the runs with any answers. -/
theorem any_of_run {answers : Answers Config} {s : ExperimentState Config}
    (run : (machine ⟨answers, game, runner, spec⟩).Run Machine.unguarded {} s) :
    (anyMachine game runner spec).Run Machine.unguarded {} s := by
  induction run with
  | refl => exact .refl
  | tail _ _ step ih => exact ih.tail (a := (answers, _)) trivial step

section

variable (valid : runner.validateSpec game spec = .ok ⟨⟩)
  (later : runner.LaterCheckpointsResolve game spec) (all : PlansAll game runner spec)

include all in
theorem Reaches.planned {call : PlanCall}
    (reaches : (unhindered game runner spec).Reaches runId position .entered)
    (called : position.call = some call) :
    ∃ plans, runner.callPlans game spec runId call = .ok plans := by
  obtain ⟨s, run, process, -⟩ := reaches
  exact all s (any_of_run run) _ call process called

include valid later all

theorem reaches_training {training : TrainingSpec} (trains : spec.training = some training) :
    ∃ loop, (unhindered game runner spec).Reaches "run" (.training loop) .entered ∧
      loop.training = training ∧ loop.epoch = 1 := by
  have checked := validateSpec_ok valid
  obtain ⟨checkpoint, enter⟩ := enterTraining_valid valid later trains
  have first := reaches_first valid
  rw [firstPosition] at first
  split at first
  · obtain ⟨plans, planned⟩ := first.planned all rfl
    obtain ⟨batch, -, reaches⟩ := reaches_afterSet checked.concurrent rfl planned first
    rw [afterSet, enter] at reaches
    exact ⟨_, reaches, rfl, rfl⟩
  · rw [enter] at first
    exact ⟨_, first, rfl, rfl⟩

/-- From epoch to epoch, through the updates and validations between them. -/
theorem reaches_epoch {training : TrainingSpec} (trains : spec.training = some training)
    (epoch : Nat) (positive : 0 < epoch) (upTo : epoch ≤ training.epochs) :
    ∃ loop, (unhindered game runner spec).Reaches "run" (.training loop) .entered ∧
      loop.training = training ∧ loop.epoch = epoch := by
  have checked := validateSpec_ok valid
  induction epoch with
  | zero => exact absurd positive (Nat.lt_irrefl 0)
  | succ epoch ih =>
    cases epoch with
    | zero => exact reaches_training valid later all trains
    | succ epoch =>
      obtain ⟨loop, reaches, rfl, here⟩ := ih (Nat.succ_pos _) (Nat.le_of_succ_le upTo)
      have next {loop' : TrainingLoop}
          (reaches : (unhindered game runner spec).Reaches "run" (nextEpoch loop') .entered)
          (sameSpec : loop'.training = loop.training) (sameEpoch : loop'.epoch = loop.epoch) :
          ∃ loop', (unhindered game runner spec).Reaches "run" (.training loop') .entered ∧
            loop'.training = loop.training ∧ loop'.epoch = epoch + 1 + 1 := by
        rw [nextEpoch, if_pos (by rw [sameSpec, sameEpoch, here]; exact upTo)] at reaches
        exact ⟨_, reaches, sameSpec, by rw [sameEpoch, here]⟩
      obtain ⟨plans, planned⟩ := reaches.planned all rfl
      obtain ⟨batch, clean, reaches⟩ := reaches_afterSet checked.concurrent rfl planned reaches
      simp only [afterSet, clean, Bool.false_eq_true, if_false] at reaches
      split at reaches
      · exact next reaches rfl rfl
      · obtain ⟨checkpoint, reaches⟩ := reaches_afterUpdate reaches
        unfold afterUpdate at reaches
        split at reaches
        · simp only at reaches
          split at reaches
          · obtain ⟨plans, planned⟩ := reaches.planned all rfl
            obtain ⟨batch, -, reaches⟩ := reaches_afterSet checked.concurrent rfl planned reaches
            exact next reaches rfl rfl
          · exact next reaches rfl rfl
        · exact next reaches rfl rfl

/-- The first validation comes when its checkpoint is written. -/
theorem reaches_validation {training : TrainingSpec} {validation : ValidationSpec}
    (trains : spec.training = some training) (validates : spec.validation = some validation)
    (upTo : validation.everyCheckpoints * training.checkpointEveryEpochs ≤ training.epochs) :
    ∃ loop, (unhindered game runner spec).Reaches "run" (.validation loop) .entered := by
  have checked := validateSpec_ok valid
  obtain ⟨-, positive⟩ := checked.validation training validation trains validates
  obtain ⟨-, -, cadence, -⟩ := checked.training training trains
  obtain ⟨loop, reaches, rfl, here⟩ := reaches_epoch valid later all trains
    (validation.everyCheckpoints * training.checkpointEveryEpochs) (Nat.mul_pos positive cadence)
    upTo
  have placed : Placed spec (.training loop) := by
    obtain ⟨s, run, process, -⟩ := reaches
    exact allPlaced_of_run (positive_of_valid valid) run _ process
  obtain ⟨-, -, epochs, within, epoch⟩ := placed
  have due : loop.epoch % loop.training.checkpointEveryEpochs = 0 := by
    rw [here, Nat.mul_mod_left]
  have last : epochs + 1 = loop.training.checkpointEveryEpochs := by
    rwa [epoch, epoch_mod within] at due
  have number : loop.checkpoints + 1 = validation.everyCheckpoints := by
    refine Nat.eq_of_mul_eq_mul_right cadence ?_
    rw [← here, epoch, Nat.succ_mul]
    omega
  obtain ⟨plans, planned⟩ := reaches.planned all rfl
  obtain ⟨batch, clean, reaches⟩ := reaches_afterSet checked.concurrent rfl planned reaches
  simp only [afterSet, clean, Bool.false_eq_true, if_false, due, ne_eq, not_true_eq_false] at reaches
  obtain ⟨checkpoint, reaches⟩ := reaches_afterUpdate reaches
  have validates : (unhindered game runner spec).spec.validation = some validation := validates
  simp only [afterUpdate, validates, number, Nat.mod_self, if_true] at reaches
  exact ⟨_, reaches⟩

end

theorem seedsApart_of_plansAll (injective : Injective game.sha256)
    (valid : runner.validateSpec game spec = .ok ⟨⟩)
    (later : runner.LaterCheckpointsResolve game spec) (all : PlansAll game runner spec) :
    spec.SeedsApart := by
  have checked := validateSpec_ok valid
  refine ⟨fun sessions present => ?_, fun training trains => ?_,
    fun training validation trains validates upTo => ?_⟩
  · have first := reaches_first valid
    have isPresent : (unhindered game runner spec).spec.sessions.isSome = true := by
      change spec.sessions.isSome = true
      rw [present]
      rfl
    rw [firstPosition, if_pos isPresent] at first
    obtain ⟨set, here, scenarios⟩ := ExperimentRunner.evaluation_scenarios present
    exact scenarios ▸ (ExperimentRunner.callPlans_ok_iff injective checked later here).mp
      (first.planned all rfl)
  · obtain ⟨loop, reaches, -⟩ := reaches_training valid later all trains
    obtain ⟨set, here, scenarios⟩ :=
      ExperimentRunner.training_scenarios checked trains loop.epoch loop.checkpoint
    exact scenarios ▸ (ExperimentRunner.callPlans_ok_iff injective checked later here).mp
      (reaches.planned all rfl)
  · obtain ⟨loop, reaches⟩ := reaches_validation valid later all trains validates upTo
    obtain ⟨set, here, scenarios⟩ :=
      ExperimentRunner.validation_scenarios trains validates loop.checkpoints loop.checkpoint
    exact scenarios ▸ (ExperimentRunner.callPlans_ok_iff injective checked later here).mp
      (reaches.planned all rfl)

theorem plansAll_of_seedsApart (injective : Injective game.sha256)
    (valid : runner.validateSpec game spec = .ok ⟨⟩)
    (later : runner.LaterCheckpointsResolve game spec) (apart : spec.SeedsApart) :
    PlansAll game runner spec := by
  intro s run process call here called
  have placed : ∀ process, s.process = some process → Placed spec process.position := by
    refine run.invariant (fun _ here => by cases here) ?_
    intro s s' action placed _ step
    have positive : ExperimentProgram.Positive ⟨action.1, game, runner, spec⟩ :=
      positive_of_valid valid
    have step : ExperimentProgram.step ⟨action.1, game, runner, spec⟩ s action.2 = some s' := step
    exact AllPlaced.step positive placed step
  cases set : runner.sessionSet spec call with
  | none => exact ⟨[], by simp only [ExperimentRunner.callPlans, set]⟩
  | some set' =>
    exact (ExperimentRunner.callPlans_ok_iff injective (validateSpec_ok valid) later set).mpr
      (seedsApart_of_placed apart (placed process here) called set)

/-- Where no section repeats a seed, every set can be planned, and only there. -/
theorem setUnplannable_iff (injective : Injective game.sha256)
    (valid : runner.validateSpec game spec = .ok ⟨⟩)
    (later : runner.LaterCheckpointsResolve game spec) :
    SetUnplannable game runner spec ↔ ¬spec.SeedsApartThroughout := by
  have checked := validateSpec_ok valid
  constructor
  · rintro ⟨runId, call, set, error, here, failed⟩ apart
    obtain ⟨plans, planned⟩ := (ExperimentRunner.callPlans_ok_iff injective checked later here).mpr
      (ExperimentRunner.nodup_of_throughout apart here)
    rw [failed] at planned
    cases planned
  · intro repeats
    by_contra plannable
    have nodup {call : PlanCall} {set : SessionSet}
        (here : runner.sessionSet spec call = some set) : (seededScenarios set.scenarios).Nodup := by
      have planned : ∃ plans, runner.callPlans game spec "" call = .ok plans := by
        cases planned : runner.callPlans game spec "" call with
        | ok plans => exact ⟨plans, rfl⟩
        | error error => exact absurd ⟨"", call, set, error, here, planned⟩ plannable
      exact (ExperimentRunner.callPlans_ok_iff injective checked later here).mp planned
    refine repeats ⟨fun sessions present => ?_, fun training trains => ?_,
      fun training validation trains validates => ?_⟩
    · obtain ⟨set, here, scenarios⟩ := ExperimentRunner.evaluation_scenarios present
      exact scenarios ▸ nodup here
    · obtain ⟨set, here, scenarios⟩ :=
        ExperimentRunner.training_scenarios checked trains 1 ⟨""⟩
      exact scenarios ▸ nodup here
    · obtain ⟨set, here, scenarios⟩ :=
        ExperimentRunner.validation_scenarios trains validates 1 ⟨""⟩
      exact scenarios ▸ nodup here

/-- The set that a run plans first, and when it can be planned. -/
theorem first_planned_iff (injective : Injective game.sha256)
    (valid : runner.validateSpec game spec = .ok ⟨⟩)
    (later : runner.LaterCheckpointsResolve game spec) :
    ∃ call, (unhindered game runner spec).firstPosition.call = some call ∧ ∀ runId,
      (∃ plans, runner.callPlans game spec runId call = .ok plans) ↔
        (seededScenarios spec.firstScenarios).Nodup := by
  have checked := validateSpec_ok valid
  cases present : spec.sessions with
  | some sessions =>
    have isPresent : (unhindered game runner spec).spec.sessions.isSome = true := by
      change spec.sessions.isSome = true
      rw [present]
      rfl
    obtain ⟨set, here, scenarios⟩ := ExperimentRunner.evaluation_scenarios present
    refine ⟨.evaluation, by rw [firstPosition, if_pos isPresent]; rfl, fun runId => ?_⟩
    rw [ExperimentRunner.callPlans_ok_iff injective checked later here, scenarios,
      ExperimentFile.firstScenarios, present]
  | none =>
    obtain ⟨training, trains⟩ : ∃ training, spec.training = some training := by
      rcases checked.present with sessions | training
      · rw [present] at sessions
        cases sessions
      · exact Option.isSome_iff_exists.mp training
    have isAbsent : ¬(unhindered game runner spec).spec.sessions.isSome = true := by
      change ¬spec.sessions.isSome = true
      rw [present]
      exact Bool.false_ne_true
    obtain ⟨checkpoint, enter⟩ := enterTraining_valid valid later trains
    obtain ⟨set, here, scenarios⟩ :=
      ExperimentRunner.training_scenarios checked trains 1 checkpoint
    refine ⟨.training 1 checkpoint, by rw [firstPosition, if_neg isAbsent, enter]; rfl,
      fun runId => ?_⟩
    rw [ExperimentRunner.callPlans_ok_iff injective checked later here, scenarios,
      ExperimentFile.firstScenarios, present, trains]
    rfl

/-- A run that cannot plan its first set stands before that set or behind its error. -/
def StandsBefore (first : Position) (s : ExperimentState Config) : Prop :=
  s.directory.results = ∅ ∧ s.trains = [] ∧ ∀ process, s.process = some process →
    process.stage = .entered ∧
      ((∃ error, process.position = .returned (.error error)) ∨ process.position = first)

theorem StandsBefore.step {program : ExperimentProgram Config} {s s' : ExperimentState Config}
    {action : ExperimentAction} {call : PlanCall} (called : program.firstPosition.call = some call)
    (fails : ∀ runId, ∃ error, program.runner.callPlans program.game program.spec runId call =
      .error error)
    (before : StandsBefore program.firstPosition s) (h : program.step s action = some s') :
    StandsBefore program.firstPosition s' := by
  obtain ⟨results, trains, stands⟩ := before
  have moved (runId : String) {position : Position}
      (at' : (∃ error, position = .returned (.error error)) ∨ position = program.firstPosition) :
      StandsBefore program.firstPosition (ExperimentState.moveTo s runId position) := by
    refine ⟨results, trains, ?_⟩
    rintro process here
    cases here
    exact ⟨rfl, at'⟩
  by_cases starts : ∃ fresh, action = .start fresh
  · obtain ⟨fresh, rfl⟩ := starts
    obtain ⟨-, ⟨error, rfl, -⟩ | ⟨manifest, -, rfl⟩⟩ := start_cases h
    · exact moved "" (.inl ⟨error, rfl⟩)
    · refine ⟨results, trains, ?_⟩
      rintro process here
      cases here
      exact ⟨rfl, .inr rfl⟩
  · have other : ∀ fresh, action ≠ .start fresh := fun fresh same => starts ⟨fresh, same⟩
    cases process : s.process with
    | none =>
      rw [step_idle other (.inl process)] at h
      cases h
    | some now =>
      obtain ⟨id, position, stage⟩ := now
      obtain ⟨rfl, ⟨error, rfl⟩ | rfl⟩ := stands _ process
      · rw [step_idle other (.inr ⟨id, _, process⟩)] at h
        cases h
      · have elsewhere : ∀ loop, program.firstPosition ≠ .boundary loop := by
          intro loop same
          rw [same] at called
          cases called
        cases action with
        | start fresh => exact absurd rfl (other fresh)
        | plan =>
          obtain ⟨error, failed⟩ := fails id
          obtain rfl := plan_failed process called failed h
          exact moved id (.inl ⟨error, rfl⟩)
        | kill =>
          simp only [ExperimentProgram.step, process] at h
          split at h
          · cases h
          · cases h
            exact ⟨results, trains, fun _ here => by cases here⟩
        | write _ | gather _ | leave => simp [ExperimentProgram.step, process] at h
        | load | train | record =>
          simp only [ExperimentProgram.step, process] at h
          split at h
          · rename_i same
            exact absurd (congrArg Process.position (Option.some.inj same)) (elsewhere _)
          · cases h

theorem failsFirst_of_repeats (injective : Injective game.sha256)
    (valid : runner.validateSpec game spec = .ok ⟨⟩)
    (later : runner.LaterCheckpointsResolve game spec)
    (repeats : ¬(seededScenarios spec.firstScenarios).Nodup) : FailsFirst game runner spec := by
  obtain ⟨call, called, planned⟩ := first_planned_iff injective valid later
  have fails (runId : String) : ∃ error, runner.callPlans game spec runId call = .error error := by
    cases made : runner.callPlans game spec runId call with
    | ok plans => exact absurd ((planned runId).mp ⟨plans, made⟩) repeats
    | error error => exact ⟨error, rfl⟩
  intro s run
  have stands : StandsBefore (unhindered game runner spec).firstPosition s := by
    refine run.invariant ⟨rfl, rfl, fun _ here => by cases here⟩ ?_
    intro s s' action before _ step
    exact @StandsBefore.step _ ⟨action.1, game, runner, spec⟩ _ _ _ _ called fails before step
  obtain ⟨results, trains, stands⟩ := stands
  refine ⟨results, trains, fun process here => ?_⟩
  obtain ⟨entered, returned | first⟩ := stands process here
  · exact .inl returned
  · obtain ⟨error, failed⟩ := fails process.runId
    exact .inr ⟨entered, call, error, first ▸ called, failed⟩

/-- A run whose first set can be planned executes it. -/
theorem repeats_of_failsFirst (injective : Injective game.sha256)
    (valid : runner.validateSpec game spec = .ok ⟨⟩)
    (later : runner.LaterCheckpointsResolve game spec) (first : FailsFirst game runner spec) :
    ¬(seededScenarios spec.firstScenarios).Nodup := by
  intro apart
  obtain ⟨call, called, planned⟩ := first_planned_iff injective valid later
  obtain ⟨plans, made⟩ := (planned "run").mpr apart
  obtain ⟨waiting, batch, -, -, s, run, process, -⟩ :=
    reaches_executing called made (reaches_first valid)
  obtain ⟨-, -, stands⟩ := first s (any_of_run run)
  obtain ⟨error, returned⟩ | ⟨entered, -⟩ := stands _ process
  · have returned : (unhindered game runner spec).firstPosition = .returned (.error error) :=
      returned
    rw [returned] at called
    cases called
  · cases entered

/--
Every set that the runs of a valid file come to can be planned exactly when no section that they come
to repeats a seed of a scenario, which the checks before the first session do not look for. A file
with a set that cannot be planned fails before anything runs exactly when it is the set of its first
section.
-/
theorem valid_file_planned_iff (injective : Injective game.sha256)
    (valid : runner.validateSpec game spec = .ok ⟨⟩)
    (later : runner.LaterCheckpointsResolve game spec) :
    (PlansAll game runner spec ↔ spec.SeedsApart) ∧
    ((SetUnplannable game runner spec → FailsFirst game runner spec) ↔
      spec.SeedsApartThroughout ∨ ¬(seededScenarios spec.firstScenarios).Nodup) := by
  refine ⟨⟨seedsApart_of_plansAll injective valid later,
    plansAll_of_seedsApart injective valid later⟩, ?_⟩
  rw [setUnplannable_iff injective valid later]
  constructor
  · intro first
    by_cases apart : spec.SeedsApartThroughout
    · exact .inl apart
    · exact .inr (repeats_of_failsFirst injective valid later (first apart))
  · rintro (apart | repeats) some
    · exact absurd apart some
    · exact failsFirst_of_repeats injective valid later repeats

end

/-- One session, and a training section with the given seeds. -/
def seededFile (seeds : List Nat) : ExperimentFile :=
  { plainFile with
    sessions := some ⟨[⟨"held out", emptyJson, [1], 1⟩], ⟨"learner", "learner"⟩, false⟩
    training := some {
      learner := "learner", scenarios := [⟨"first", emptyJson, seeds, 1⟩]
      seats := ⟨"learner", "learner"⟩, mirrorRoles := false, epochs := 1
      checkpointEveryEpochs := 1, reward := ⟨"score", emptyJson⟩ } }

theorem seededFile_later (seeds : List Nat) :
    (plainRunner "1").LaterCheckpointsResolve plainGame (seededFile seeds) := by
  intro training configured trains known _ checkpoint
  cases trains
  have here : (seededFile seeds).agents.lookup "learner" =
      some ⟨"policy", some (.of (.string "base")), emptyJson⟩ := rfl
  cases here.symm.trans known
  rfl

/-- Different seeds are planned in every run. -/
theorem valid_file_planned_iff_seeds :
    PlansAll plainGame (plainRunner "1") (seededFile [7, 8]) := by
  have valid : (plainRunner "1").validateSpec plainGame (seededFile [7, 8]) = .ok ⟨⟩ := rfl
  refine (valid_file_planned_iff plainGame_injective valid (seededFile_later _)).1.mpr ⟨?_, ?_, ?_⟩
  · intro sessions present
    cases present
    decide
  · intro training trains
    cases trains
    decide
  · intro training validation _ validates
    cases validates

def untilTraining : List ExperimentAction :=
  [.start "run", .plan, .write 0, .gather 0, .leave, .plan]

theorem exec_untilTraining {program : ExperimentProgram Config} {a : SessionPlan Config}
    {loop : TrainingLoop} {error : String}
    (valid : program.runner.validateSpec program.game program.spec = .ok ⟨⟩)
    (present : program.spec.sessions.isSome = true) (concurrent : 0 < program.concurrency)
    (planned : program.runner.callPlans program.game program.spec "run" .evaluation = .ok [a])
    (succeeds : (program.session a).1 = true) (enter : program.enterTraining = .training loop)
    (failed : program.runner.callPlans program.game program.spec "run"
      (.training loop.epoch loop.checkpoint) = .error error) :
    ∃ s, program.machine.exec {} untilTraining = some s ∧
      s.process = some ⟨"run", .returned (.error error), .entered⟩ ∧
      ∃ result, s.directory.results.lookup a.planId = some result := by
  have started := (Invocation.start_valid valid "run" "run").1
  simp only [untilTraining, Machine.exec, machine]
  simp [step, started, firstPosition, present, ExperimentState.moveTo, Position.call, planned,
    skipFinalized, finalizedResult, bind, Except.bind, pure, Except.pure, concurrent, succeeds,
    sessionResult, afterSet, enter, failed, Map.lookup_insert_eq, -AList.insert_empty]

/-- A valid file with a repeated seed fails only after its first session has been executed. -/
theorem repeated_seed_found_late :
    (plainRunner "1").validateSpec plainGame (seededFile [7, 7]) = .ok ⟨⟩ ∧
      (plainRunner "1").LaterCheckpointsResolve plainGame (seededFile [7, 7]) ∧
      ¬PlansAll plainGame (plainRunner "1") (seededFile [7, 7]) ∧
      ¬(SetUnplannable plainGame (plainRunner "1") (seededFile [7, 7]) →
        FailsFirst plainGame (plainRunner "1") (seededFile [7, 7])) ∧
      ∃ s planId result error,
        (unhindered plainGame (plainRunner "1") (seededFile [7, 7])).machine.Run
          Machine.unguarded {} s ∧
        s.directory.results.lookup planId = some result ∧
        s.process = some ⟨"run", .returned (.error error), .entered⟩ := by
  have valid : (plainRunner "1").validateSpec plainGame (seededFile [7, 7]) = .ok ⟨⟩ := rfl
  have later := seededFile_later [7, 7]
  have repeated : ¬(seededScenarios [⟨"first", emptyJson, [7, 7], 1⟩]).Nodup := by decide
  refine ⟨valid, later, fun all => ?_, fun first => ?_, ?_⟩
  · exact repeated ((seedsApart_of_plansAll plainGame_injective valid later all).training _ rfl)
  · have some : SetUnplannable plainGame (plainRunner "1") (seededFile [7, 7]) := by
      rw [setUnplannable_iff plainGame_injective valid later]
      exact fun apart => repeated (apart.training _ rfl)
    have distinct : (seededScenarios (seededFile [7, 7]).firstScenarios).Nodup := by decide
    exact repeats_of_failsFirst plainGame_injective valid later (first some) distinct
  · obtain ⟨error, failed⟩ : ∃ error, (plainRunner "1").callPlans plainGame (seededFile [7, 7])
        "run" (.training 1 ⟨"base"⟩) = .error error := by
      cases planned : (plainRunner "1").callPlans plainGame (seededFile [7, 7]) "run"
          (.training 1 ⟨"base"⟩) with
      | error error => exact ⟨error, rfl⟩
      | ok plans =>
        obtain ⟨set, here, scenarios⟩ : ∃ set, (plainRunner "1").sessionSet (seededFile [7, 7])
            (.training 1 ⟨"base"⟩) = some set ∧
              set.scenarios = [⟨"first", emptyJson, [7, 7], 1⟩] := ⟨_, rfl, rfl⟩
        have nodup := (ExperimentRunner.callPlans_ok_iff plainGame_injective
          (validateSpec_ok valid) later here).mp ⟨plans, planned⟩
        exact absurd (scenarios ▸ nodup) repeated
    obtain ⟨a, planned⟩ : ∃ a, (plainRunner "1").callPlans plainGame (seededFile [7, 7])
        "run" .evaluation = .ok [a] := ⟨_, rfl⟩
    obtain ⟨s, ran, process, result, found⟩ := @exec_untilTraining Unit
      (unhindered plainGame (plainRunner "1") (seededFile [7, 7])) a ⟨_, 1, ⟨"base"⟩, 0, []⟩ error
      valid rfl Nat.one_pos planned rfl rfl failed
    exact ⟨s, a.planId, result, error, Machine.Run.of_exec_unguarded ran, found, process⟩

end ExperimentProgram

end AgentExperiment

end Parlando
