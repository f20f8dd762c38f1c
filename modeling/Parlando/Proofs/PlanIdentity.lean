import Parlando.AgentExperiment
import Parlando.Data.Wire

namespace Parlando

namespace AgentExperiment

open Value (canonicalValue canonicalValue_member json)

theorem string_eq {a b : String}
    (same : canonicalValue (.string a) = canonicalValue (.string b)) : a = b := by
  simpa [canonicalValue] using same

theorem nat_eq {a b : Nat}
    (same : canonicalValue (.int a) = canonicalValue (.int b)) : a = b := by
  simp only [canonicalValue, Value.int.injEq] at same
  omega

theorem configuredRole_eq {role role' : PlayerRole}
    (same : configuredRole role = configuredRole role') : role = role' := by
  cases role <;> cases role' <;> simp [configuredRole] at same ⊢

theorem asStr_eq {role role' : PlayerRole} (same : role.asStr = role'.asStr) : role = role' := by
  cases role <;> cases role' <;> simp [PlayerRole.asStr] at same ⊢

theorem TraceLevel.asStr_eq {trace trace' : TraceLevel} (same : trace.asStr = trace'.asStr) :
    trace = trace' := by
  cases trace <;> cases trace' <;> simp [TraceLevel.asStr] at same ⊢

theorem ScheduleSpec.toJson_eq {schedule other : ScheduleSpec}
    (same : canonicalValue schedule.toJson = canonicalValue other.toJson) : schedule = other := by
  have kind := string_eq (canonicalValue_member same "kind" rfl rfl)
  have first := configuredRole_eq (string_eq (canonicalValue_member same "first" rfl rfl))
  have parameters := JsonValue.eq_of_canonical (canonicalValue_member same "parameters" rfl rfl)
  cases schedule
  cases other
  simp_all

theorem SessionLimits.toJson_eq {limits other : SessionLimits}
    (same : canonicalValue limits.toJson = canonicalValue other.toJson) : limits = other := by
  have callback := nat_eq (canonicalValue_member same "callback_timeout_seconds" rfl rfl)
  have shutdown := nat_eq (canonicalValue_member same "shutdown_timeout_seconds" rfl rfl)
  have session := nat_eq (canonicalValue_member same "session_timeout_seconds" rfl rfl)
  have decisions := nat_eq (canonicalValue_member same "decisions" rfl rfl)
  have accepted := nat_eq (canonicalValue_member same "accepted_actions" rfl rfl)
  have messages := nat_eq (canonicalValue_member same "messages" rfl rfl)
  have rejected := nat_eq (canonicalValue_member same "rejected_actions" rfl rfl)
  cases limits
  cases other
  simp_all

theorem checkpoint_eq {checkpoint other : Option CheckpointId}
    (same : canonicalValue (optionJson (fun id : CheckpointId => .string id.value) checkpoint) =
      canonicalValue (optionJson (fun id => .string id.value) other)) : checkpoint = other := by
  cases checkpoint with
  | none =>
    cases other with
    | none => rfl
    | some id => simp [optionJson, canonicalValue] at same
  | some id =>
    cases other with
    | none => simp [optionJson, canonicalValue] at same
    | some id' =>
      cases id
      cases id'
      have text := string_eq same
      simpa using text

variable {Config : Type} {game : CompiledGame Config}

/-- Different canonical values have different digests. -/
def Injective (sha256 : Value → String) : Prop :=
  ∀ value other, sha256 (canonicalValue value) = sha256 (canonicalValue other) →
    canonicalValue value = canonicalValue other

theorem hashValue_eq (injective : Injective game.sha256) {value other : Value}
    (same : hashValue game value = hashValue game other) :
    canonicalValue value = canonicalValue other :=
  injective _ _ (String.append_right_inj _ |>.mp same)

/-- A fingerprint determines the settings. -/
theorem configurationFingerprint_eq (injective : Injective game.sha256) {factory factory' : String}
    {settings settings' : Value}
    (same : configurationFingerprint game factory settings =
      configurationFingerprint game factory' settings') :
    JsonValue.of settings = JsonValue.of settings' := by
  have document := injective _ _ (String.append_right_inj _ |>.mp same)
  apply JsonValue.eq_of_canonical
  have settings := canonicalValue_member document "settings" rfl rfl
  simpa [JsonValue.of, Value.canonicalValue_idem] using settings

namespace SeatInputs

def Fingerprinted (game : CompiledGame Config) (seat : SeatInputs) : Prop :=
  ∃ settings, seat.settings = .of settings ∧
    seat.settingsFingerprint = configurationFingerprint game seat.factoryId settings

theorem identityDocument_eq (injective : Injective game.sha256) {seat other : SeatInputs}
    (fingerprinted : seat.Fingerprinted game) (fingerprinted' : other.Fingerprinted game)
    (same : canonicalValue seat.identityDocument = canonicalValue other.identityDocument) :
    seat = other := by
  have name := string_eq (canonicalValue_member same "name" rfl rfl)
  have factory := string_eq (canonicalValue_member same "factory" rfl rfl)
  have fingerprint := string_eq (canonicalValue_member same "settings_fingerprint" rfl rfl)
  have identity := canonicalValue_member same "identity" rfl rfl
  have identityName := string_eq (canonicalValue_member identity "name" rfl rfl)
  have identityVersion := string_eq (canonicalValue_member identity "version" rfl rfl)
  have checkpoint := checkpoint_eq (canonicalValue_member same "checkpoint" rfl rfl)
  have role := asStr_eq (string_eq (canonicalValue_member same "role" rfl rfl))
  have seed := nat_eq (canonicalValue_member same "seed" rfl rfl)
  obtain ⟨settings, given, printed⟩ := fingerprinted
  obtain ⟨settings', given', printed'⟩ := fingerprinted'
  have settled : seat.settings = other.settings := by
    rw [given, given']
    exact configurationFingerprint_eq injective (printed.symm.trans (fingerprint.trans printed'))
  obtain ⟨_, _, _, _, ⟨_, _⟩, _, _, _⟩ := seat
  obtain ⟨_, _, _, _, ⟨_, _⟩, _, _, _⟩ := other
  simp_all

end SeatInputs

namespace ExperimentRunner

variable {runner : ExperimentRunner} {spec : ExperimentFile} {name mirrorLeg : String}
  {role : PlayerRole} {gameSeed repetition : Nat} {override : Option CheckpointId}
  {seat : ResolvedSeat}

/-- A checkpoint given for a seat is the seat's own. -/
theorem configuredFactory_override {configured : ConfiguredAgent} {checkpoint : CheckpointId}
    {factory : AgentFactory} {resolved : Option CheckpointId}
    (resolves : runner.configuredFactory configured (some checkpoint) = .ok (factory, resolved)) :
    resolved = some checkpoint := by
  unfold configuredFactory at resolves
  split at resolves
  · simp at resolves
  · obtain ⟨learner, -, resolves⟩ := Except.of_bind_ok resolves
    obtain ⟨given, chosen, resolves⟩ := Except.of_bind_ok resolves
    obtain ⟨made, -, resolves⟩ := Except.of_bind_ok resolves
    cases chosen
    cases resolves
    rfl

theorem resolveSeat_ok
    (resolved : runner.resolveSeat game spec name role gameSeed repetition mirrorLeg override =
      .ok seat) :
    seat.name = name ∧ seat.Fingerprinted game ∧
      ∀ checkpoint, override = some checkpoint → seat.checkpoint = some checkpoint := by
  obtain ⟨configured, -, resolved⟩ := Except.of_bind_ok resolved
  obtain ⟨⟨factory, checkpoint⟩, found, resolved⟩ := Except.of_bind_ok resolved
  obtain ⟨settings, -, resolved⟩ := Except.of_bind_ok resolved
  obtain ⟨secrets, -, resolved⟩ := Except.of_bind_ok resolved
  obtain ⟨identity, -, resolved⟩ := Except.of_bind_ok resolved
  obtain ⟨-, -, resolved⟩ := Except.of_bind_ok resolved
  cases resolved
  refine ⟨rfl, ⟨settings, rfl, rfl⟩, fun given overridden => ?_⟩
  subst overridden
  exact configuredFactory_override found

end ExperimentRunner

/-- The checkpoint of a capture is the one that the set seats its learner with. -/
def SessionSet.Captures (set : SessionSet) (learner : String) (checkpoint : CheckpointId) : Prop :=
  set.overrides = AList.singleton learner checkpoint ∧
    (set.seats.playerA = learner ∨ set.seats.playerB = learner)

theorem SessionSet.players {set : SessionSet} {coordinates : Coordinates} {learner : String}
    (mem : coordinates ∈ set.coordinates)
    (seated : set.seats.playerA = learner ∨ set.seats.playerB = learner) :
    coordinates.playerA = learner ∨ coordinates.playerB = learner := by
  obtain ⟨scenario, -, mem⟩ := List.mem_flatMap.mp mem
  obtain ⟨gameSeed, -, mem⟩ := List.mem_flatMap.mp mem
  obtain ⟨repetition, -, mem⟩ := List.mem_flatMap.mp mem
  obtain ⟨⟨playerA, playerB, leg⟩, mem, rfl⟩ := List.mem_map.mp mem
  simp only [assignments] at mem
  split at mem
  · rcases List.mem_cons.mp mem with same | mem
    · cases same
      exact seated
    · cases List.mem_singleton.mp mem
      exact seated.symm
  · cases List.mem_singleton.mp mem
    exact seated

namespace ExperimentRunner

variable {runner : ExperimentRunner} {spec : ExperimentFile} {runId : String} {set : SessionSet}
  {plan : SessionPlan Config}

structure PlanOf (game : CompiledGame Config) (spec : ExperimentFile) (set : SessionSet)
    (coordinates : Coordinates) (plan : SessionPlan Config) : Prop where
  identified : plan.planId = hashValue game (planDocument game spec set.phase set.phaseIndex
    coordinates plan.seatA.toSeatInputs plan.seatB.toSeatInputs)
  configured : game.decodeConfig coordinates.scenario.config = .ok plan.gameConfig
  inputs : plan.inputs = {
    phase := set.phase, phaseIndex := set.phaseIndex, scenario := coordinates.scenario.name
    gameId := game.id, gameVersion := game.version
    configurationFingerprint := hashValue game coordinates.scenario.config.value
    gameConfig := plan.gameConfig, gameSeed := coordinates.gameSeed
    seatA := plan.seatA.toSeatInputs, seatB := plan.seatB.toSeatInputs
    schedule := spec.schedule, limits := spec.limits, trace := spec.output.trace
    capture := set.capture.map TrainingCapture.toCaptureInputs }
  seatA : plan.seatA.Fingerprinted game
  seatB : plan.seatB.Fingerprinted game
  seated : ∀ {learner checkpoint}, set.Captures learner checkpoint →
    plan.seatA.name = learner ∧ plan.seatA.checkpoint = some checkpoint ∨
      plan.seatB.name = learner ∧ plan.seatB.checkpoint = some checkpoint
  drawn : ∀ {learner checkpoint}, set.Captures learner checkpoint →
    (plan.seatA.name = learner → plan.seatA.checkpoint = some checkpoint) ∧
      (plan.seatB.name = learner → plan.seatB.checkpoint = some checkpoint)

theorem planSet_ok {plans : List (SessionPlan Config)}
    (expanded : runner.planSet game spec runId set = .ok plans) (mem : plan ∈ plans) :
    ∃ coordinates, PlanOf game spec set coordinates plan := by
  obtain ⟨plans', mapped, expanded⟩ := Except.of_bind_ok expanded
  obtain ⟨-, -, expanded⟩ := Except.of_bind_ok expanded
  cases expanded
  obtain ⟨coordinates, within, planned⟩ := Except.mapM_preimage mapped mem
  obtain ⟨config, configured, planned⟩ := Except.of_bind_ok planned
  obtain ⟨seatA, first, planned⟩ := Except.of_bind_ok planned
  obtain ⟨seatB, second, planned⟩ := Except.of_bind_ok planned
  obtain ⟨factory, -, planned⟩ := Except.of_bind_ok planned
  cases planned
  obtain ⟨nameA, printedA, givenA⟩ := resolveSeat_ok first
  obtain ⟨nameB, printedB, givenB⟩ := resolveSeat_ok second
  have drawn {learner checkpoint} (captures : set.Captures learner checkpoint) :
      (seatA.name = learner → seatA.checkpoint = some checkpoint) ∧
        (seatB.name = learner → seatB.checkpoint = some checkpoint) := by
    refine ⟨fun named => givenA _ ?_, fun named => givenB _ ?_⟩
    · rw [captures.1, Map.lookup_singleton, if_pos (nameA.symm.trans named)]
    · rw [captures.1, Map.lookup_singleton, if_pos (nameB.symm.trans named)]
  refine ⟨coordinates, rfl, configured, rfl, printedA, printedB, fun captures => ?_, drawn⟩
  rcases SessionSet.players within captures.2 with here | here
  · exact .inl ⟨nameA.trans here, (drawn captures).1 (nameA.trans here)⟩
  · exact .inr ⟨nameB.trans here, (drawn captures).2 (nameB.trans here)⟩

theorem callPlans_ok {call : PlanCall} {plans : List (SessionPlan Config)}
    (expanded : runner.callPlans game spec runId call = .ok plans) (mem : plan ∈ plans) :
    ∃ set coordinates, runner.sessionSet spec call = some set ∧
      PlanOf game spec set coordinates plan := by
  unfold callPlans at expanded
  split at expanded
  · rename_i set here
    obtain ⟨coordinates, planned⟩ := planSet_ok expanded mem
    exact ⟨set, coordinates, here, planned⟩
  · cases expanded
    cases mem

end ExperimentRunner

/-- The identity of a plan tells the set that it is of. -/
theorem ExperimentRunner.phase_eq (injective : Injective game.sha256) {spec spec' : ExperimentFile}
    {set set' : SessionSet} {coordinates coordinates' : Coordinates}
    {plan plan' : SessionPlan Config} (planned : PlanOf game spec set coordinates plan)
    (planned' : PlanOf game spec' set' coordinates' plan') (same : plan.planId = plan'.planId) :
    (set.phase, set.phaseIndex) = (set'.phase, set'.phaseIndex) := by
  rw [planned.identified, planned'.identified] at same
  have document := hashValue_eq injective same
  have phase := string_eq (canonicalValue_member document "phase" rfl rfl)
  have phaseIndex := nat_eq (canonicalValue_member document "phase_index" rfl rfl)
  rw [phase, phaseIndex]

/-- Plans with one identity agree on everything but what their sets capture. -/
theorem inputs_eq_iff (injective : Injective game.sha256) {spec spec' : ExperimentFile}
    {set set' : SessionSet} {coordinates coordinates' : Coordinates}
    {plan plan' : SessionPlan Config}
    (planned : ExperimentRunner.PlanOf game spec set coordinates plan)
    (planned' : ExperimentRunner.PlanOf game spec' set' coordinates' plan')
    (same : plan.planId = plan'.planId) :
    set.phase = set'.phase ∧ plan.seatA.toSeatInputs = plan'.seatA.toSeatInputs ∧
      plan.seatB.toSeatInputs = plan'.seatB.toSeatInputs ∧
      (plan.inputs = plan'.inputs ↔ set.capture.map TrainingCapture.toCaptureInputs =
        set'.capture.map TrainingCapture.toCaptureInputs) := by
  obtain ⟨phase, phaseIndex⟩ :=
    Prod.mk.inj (ExperimentRunner.phase_eq injective planned planned' same)
  rw [planned.identified, planned'.identified] at same
  have document := hashValue_eq injective same
  have scenario := string_eq (canonicalValue_member document "scenario" rfl rfl)
  have config := JsonValue.eq_of_canonical (canonicalValue_member document "config" rfl rfl)
  have gameSeed := nat_eq (canonicalValue_member document "game_seed" rfl rfl)
  have seatA := SeatInputs.identityDocument_eq injective planned.seatA planned'.seatA
    (canonicalValue_member document "player_a" rfl rfl)
  have seatB := SeatInputs.identityDocument_eq injective planned.seatB planned'.seatB
    (canonicalValue_member document "player_b" rfl rfl)
  have schedule := ScheduleSpec.toJson_eq (canonicalValue_member document "schedule" rfl rfl)
  have limits := SessionLimits.toJson_eq (canonicalValue_member document "limits" rfl rfl)
  have trace := TraceLevel.asStr_eq (string_eq (canonicalValue_member document "trace" rfl rfl))
  have decoded : plan.gameConfig = plan'.gameConfig := by
    have configured := planned.configured
    rw [config, planned'.configured] at configured
    exact (Except.ok.inj configured).symm
  refine ⟨phase, seatA, seatB, ?_⟩
  rw [planned.inputs, planned'.inputs, phase, phaseIndex, scenario, config, gameSeed, seatA, seatB,
    schedule, limits, trace, decoded]
  simp only [SessionInputs.mk.injEq, true_and]

theorem hashValue_training (injective : Injective game.sha256) {spec spec' : ExperimentFile}
    {training training' : TrainingSpec} (here : spec.training = some training)
    (there : spec'.training = some training')
    (same : hashValue game spec.toJson = hashValue game spec'.toJson) :
    training.learner = training'.learner ∧ training.reward.kind = training'.reward.kind ∧
      training.reward.parameters = training'.reward.parameters := by
  have document := canonicalValue_member (hashValue_eq injective same) "training" rfl rfl
  rw [here, there] at document
  have learner := string_eq (canonicalValue_member document "learner" rfl rfl)
  have reward := canonicalValue_member document "reward" rfl rfl
  have kind := string_eq (canonicalValue_member reward "kind" rfl rfl)
  exact ⟨learner, kind,
    JsonValue.eq_of_canonical (canonicalValue_member reward "parameters" rfl rfl)⟩

theorem ExperimentRunner.validateTraining_seats {runner : ExperimentRunner}
    {spec : ExperimentFile} {training : TrainingSpec}
    (valid : runner.validateTraining game spec training = .ok ⟨⟩) :
    training.seats.playerA = training.learner ∨ training.seats.playerB = training.learner := by
  obtain ⟨-, valid⟩ := Except.of_check_ok valid
  obtain ⟨-, valid⟩ := Except.of_check_ok valid
  obtain ⟨configured, -, valid⟩ := Except.of_bind_ok valid
  obtain ⟨-, valid⟩ := Except.of_check_ok valid
  obtain ⟨seated, -⟩ := Except.of_check_ok valid
  simp only [Bool.and_eq_true, bne_iff_ne, ne_eq, not_and_or, not_not] at seated
  exact seated

namespace ExperimentRunner

variable {runner : ExperimentRunner} {spec : ExperimentFile} {call : PlanCall}

theorem sessionSet_training {epoch : Nat} {checkpoint : CheckpointId} {set : SessionSet}
    (here : runner.sessionSet spec (.training epoch checkpoint) = some set) :
    ∃ training version, spec.training = some training ∧
      runner.rewardVersion spec = some version ∧ set.phase = "training" ∧
      set.overrides = AList.singleton training.learner checkpoint ∧ set.seats = training.seats ∧
      set.capture.map TrainingCapture.toCaptureInputs = some {
        learner := training.learner, checkpoint, rewardKind := training.reward.kind
        rewardVersion := version, parameters := training.reward.parameters } := by
  obtain ⟨training, trained, here⟩ := Option.bind_eq_some_iff.mp here
  obtain ⟨reward, registered, here⟩ := Option.bind_eq_some_iff.mp here
  cases here
  refine ⟨training, reward.version, trained, ?_, rfl, rfl, rfl, rfl⟩
  simp [rewardVersion, trained, registered]

/-- Only training sets capture, and they are told by their phase. -/
theorem sessionSet_other {set : SessionSet} (other : call.trains = false)
    (here : runner.sessionSet spec call = some set) :
    set.phase ≠ "training" ∧ set.capture = none := by
  cases call with
  | evaluation =>
    obtain ⟨sessions, -, rfl⟩ := Option.map_eq_some_iff.mp here
    exact ⟨by simp, rfl⟩
  | training _ _ => cases other
  | validation _ _ =>
    obtain ⟨training, -, here⟩ := Option.bind_eq_some_iff.mp here
    obtain ⟨validation, -, here⟩ := Option.bind_eq_some_iff.mp here
    cases here
    exact ⟨by simp, rfl⟩

end ExperimentRunner

theorem ExperimentRunner.validateSpec_training {runner : ExperimentRunner} {spec : ExperimentFile}
    {training : TrainingSpec} (valid : runner.validateSpec game spec = .ok ⟨⟩)
    (here : spec.training = some training) :
    runner.validateTraining game spec training = .ok ⟨⟩ := by
  obtain ⟨-, valid⟩ := Except.of_check_ok valid
  obtain ⟨-, valid⟩ := Except.of_check_ok valid
  obtain ⟨-, valid⟩ := Except.of_check_ok valid
  obtain ⟨-, valid⟩ := Except.of_check_ok valid
  obtain ⟨-, valid⟩ := Except.of_check_ok valid
  obtain ⟨-, -, valid⟩ := Except.of_bind_ok valid
  obtain ⟨-, -, valid⟩ := Except.of_bind_ok valid
  obtain ⟨-, -, valid⟩ := Except.of_bind_ok valid
  obtain ⟨-, -, valid⟩ := Except.of_bind_ok valid
  obtain ⟨⟨⟩, trained, -⟩ := Except.of_bind_ok valid
  rw [here] at trained
  exact trained

namespace Invocation

variable {invocation : Invocation} {manifest : RunManifest}

theorem start_training {training : TrainingSpec} (started : invocation.start game = .ok manifest)
    (here : invocation.spec.training = some training) :
    training.seats.playerA = training.learner ∨ training.seats.playerB = training.learner := by
  obtain ⟨⟨⟩, valid, -⟩ := Except.of_bind_ok started
  exact ExperimentRunner.validateTraining_seats (ExperimentRunner.validateSpec_training valid here)

/-- The manifest pins the hash of the experiment file. -/
theorem start_specHash (started : invocation.start game = .ok manifest) :
    manifest.specHash = hashValue game invocation.spec.toJson := by
  obtain ⟨-, -, loaded⟩ := Except.of_bind_ok started
  unfold loadOrCreateManifest at loaded
  split at loaded
  · split at loaded
    · cases loaded
    · rename_i accepted
      cases loaded
      simp only [Bool.or_eq_true, decide_eq_true_eq, not_or, ne_eq, not_not] at accepted
      exact accepted.2
  · cases loaded
    rfl

end Invocation

/-- The captures of training plans with one identity differ in the reward version at most. -/
theorem capture_eq_iff {one two : Invocation} {manifest : RunManifest} {epoch epoch' : Nat}
    {checkpoint checkpoint' : CheckpointId} {set set' : SessionSet}
    {coordinates coordinates' : Coordinates} {plan plan' : SessionPlan Config}
    (injective : Injective game.sha256)
    (started : one.start game = .ok manifest) (started' : two.start game = .ok manifest)
    (here : one.runner.sessionSet one.spec (.training epoch checkpoint) = some set)
    (there : two.runner.sessionSet two.spec (.training epoch' checkpoint') = some set')
    (planned : ExperimentRunner.PlanOf game one.spec set coordinates plan)
    (planned' : ExperimentRunner.PlanOf game two.spec set' coordinates' plan')
    (seatA : plan.seatA.toSeatInputs = plan'.seatA.toSeatInputs)
    (seatB : plan.seatB.toSeatInputs = plan'.seatB.toSeatInputs) :
    set.capture.map TrainingCapture.toCaptureInputs =
        set'.capture.map TrainingCapture.toCaptureInputs ↔
      one.rewardVersion = two.rewardVersion := by
  obtain ⟨training, version, trained, versioned, -, overrides, seats, captured⟩ :=
    ExperimentRunner.sessionSet_training here
  obtain ⟨training', version', trained', versioned', -, overrides', seats', captured'⟩ :=
    ExperimentRunner.sessionSet_training there
  have specHash :=
    (Invocation.start_specHash started).symm.trans (Invocation.start_specHash started')
  obtain ⟨learner, kind, parameters⟩ := hashValue_training injective trained trained' specHash
  have captures : set.Captures training.learner checkpoint :=
    ⟨overrides, seats ▸ Invocation.start_training started trained⟩
  have captures' : set'.Captures training.learner checkpoint' :=
    ⟨learner ▸ overrides', learner ▸ seats' ▸ Invocation.start_training started' trained'⟩
  -- The learner takes one of the seats, and that seat has both checkpoints.
  have checkpoints : checkpoint = checkpoint' := by
    obtain ⟨drawnA, drawnB⟩ := planned'.drawn captures'
    rcases planned.seated captures with ⟨named, drawn⟩ | ⟨named, drawn⟩
    · rw [seatA] at named drawn
      exact Option.some.inj (drawn.symm.trans (drawnA named))
    · rw [seatB] at named drawn
      exact Option.some.inj (drawn.symm.trans (drawnB named))
  rw [captured, captured', Invocation.rewardVersion, Invocation.rewardVersion, versioned,
    versioned', learner, kind, parameters, checkpoints]
  simp only [Option.some.injEq, CaptureInputs.mk.injEq, true_and, and_true]

/--
Two plans of one run with the same identity are the same session, but for the version of the reward
function: it is in neither the plan's document nor the hash of the experiment file.
-/
theorem plan_identity_iff (injective : Injective game.sha256) {one two : Invocation}
    {manifest : RunManifest} {call call' : PlanCall} {plan plan' : SessionPlan Config}
    (started : one.start game = .ok manifest) (started' : two.start game = .ok manifest)
    (planned : one.Plans game manifest.runId call plan)
    (planned' : two.Plans game manifest.runId call' plan')
    (same : plan.planId = plan'.planId) :
    plan.inputs = plan'.inputs ↔ (call.trains = true → one.rewardVersion = two.rewardVersion) := by
  obtain ⟨plans, expanded, mem⟩ := planned
  obtain ⟨plans', expanded', mem'⟩ := planned'
  obtain ⟨set, coordinates, here, planned⟩ := ExperimentRunner.callPlans_ok expanded mem
  obtain ⟨set', coordinates', there, planned'⟩ := ExperimentRunner.callPlans_ok expanded' mem'
  obtain ⟨phase, seatA, seatB, agree⟩ := inputs_eq_iff injective planned planned' same
  rw [agree]
  cases trains : call.trains with
  | false =>
    obtain ⟨other, none⟩ := ExperimentRunner.sessionSet_other trains here
    cases trains' : call'.trains with
    | false => simp [none, (ExperimentRunner.sessionSet_other trains' there).2]
    | true =>
      cases call' with
      | training epoch' checkpoint' =>
        obtain ⟨_, _, _, _, named, _⟩ := ExperimentRunner.sessionSet_training there
        exact absurd (phase.trans named) other
      | evaluation | validation _ _ => cases trains'
  | true =>
    cases call with
    | training epoch checkpoint =>
      obtain ⟨_, _, _, _, named, _⟩ := ExperimentRunner.sessionSet_training here
      cases trains' : call'.trains with
      | false =>
        have other := (ExperimentRunner.sessionSet_other trains' there).1
        exact absurd (phase.symm.trans named) other
      | true =>
        cases call' with
        | training epoch' checkpoint' =>
          rw [capture_eq_iff injective started started' here there planned planned' seatA seatB]
          simp only [forall_const]
        | evaluation | validation _ _ => cases trains'
    | evaluation | validation _ _ => cases trains

/-- A game without configuration; its digests are the documents themselves. -/
def plainGame : CompiledGame Unit where
  id := "plain"
  version := "1.0.0"
  decodeConfig := fun _ => .ok ()
  validateConfig := fun _ => .ok ()
  formats := ⟨fun _ => none, fun _ => none⟩
  sha256 := fun value => .ofList value.wire
  seedDigest := List.length

theorem plainGame_injective : Injective plainGame.sha256 := by
  intro value other same
  have wired : (canonicalValue value).wire = (canonicalValue other).wire :=
    String.ofList_injective same
  exact SelfDelimiting.injective Value.wire_delimited wired

/-- One learner in both seats, with a reward of a given version. -/
def plainRunner (version : String) : ExperimentRunner where
  rlAgents := AList.singleton "policy" {
    resolveCheckpoint := fun _ => .ok ⟨"base"⟩
    factory := fun _ => .ok ⟨⟨"policy", []⟩, fun _ => .ok ⟨"Policy", "1"⟩⟩ }
  rewardFunctions := AList.singleton "score" ⟨version, fun _ => .ok ()⟩

def emptyJson : JsonValue := .of (.object [])

def plainFile : ExperimentFile where
  schema := experimentSchema
  gameId := "plain"
  agents := AList.singleton "learner" ⟨"policy", some (.of (.string "base")), emptyJson⟩
  training := some {
    learner := "learner", scenarios := [⟨"first", emptyJson, [7], 1⟩]
    seats := ⟨"learner", "learner"⟩, mirrorRoles := false, epochs := 1
    checkpointEveryEpochs := 1, reward := ⟨"score", emptyJson⟩ }
  schedule := ⟨"alternate_after_action", .A, emptyJson⟩
  output := { directory := "runs" }

def plainManifest : RunManifest :=
  ⟨experimentSchema, "run", plainGame.id, plainGame.version,
    hashValue plainGame plainFile.toJson⟩

def plainInvocation (version : String) (file : Option RunManifest) : Invocation :=
  ⟨plainRunner version, plainFile, file, "run"⟩

/-- A valid file is accepted by an empty directory, and by the one that belongs to it. -/
theorem Invocation.start_valid {runner : ExperimentRunner} {spec : ExperimentFile}
    (valid : runner.validateSpec game spec = .ok ⟨⟩) (runId fresh : String) :
    (Invocation.mk runner spec none runId).start game =
        .ok ⟨experimentSchema, runId, game.id, game.version, hashValue game spec.toJson⟩ ∧
      (Invocation.mk runner spec (some ⟨experimentSchema, runId, game.id, game.version,
        hashValue game spec.toJson⟩) fresh).start game =
        .ok ⟨experimentSchema, runId, game.id, game.version, hashValue game spec.toJson⟩ := by
  simp only [Invocation.start, valid, bind, Except.bind, loadOrCreateManifest]
  simp

/-- The first invocation and one that resumes it. -/
theorem plainInvocation_start (version : String) :
    (plainInvocation version none).start plainGame = .ok plainManifest ∧
      (plainInvocation version (some plainManifest)).start plainGame = .ok plainManifest := by
  have valid : (plainRunner version).validateSpec plainGame plainFile = .ok ⟨⟩ := rfl
  exact Invocation.start_valid valid "run" "run"

/-- A resumed invocation with the same reward plans the sessions of the first one. -/
theorem plan_identity_iff_plain : ∃ plan plan' : SessionPlan Unit,
    plan.planId = plan'.planId ∧ plan.inputs = plan'.inputs := by
  obtain ⟨first, resumed⟩ := plainInvocation_start "1"
  obtain ⟨plan, planned⟩ : ∃ plan, (plainInvocation "1" none).Plans plainGame plainManifest.runId
      (.training 1 ⟨"base"⟩) plan := ⟨_, _, rfl, List.mem_singleton_self _⟩
  have planned' : (plainInvocation "1" (some plainManifest)).Plans plainGame plainManifest.runId
      (.training 1 ⟨"base"⟩) plan := planned
  exact ⟨plan, plan, rfl,
    (plan_identity_iff plainGame_injective first resumed planned planned' rfl).mpr fun _ => rfl⟩

/-- A binary with another release of the reward resumes with different sessions of one identity. -/
theorem reward_version_unpinned : ∃ (one two : Invocation) (plan plan' : SessionPlan Unit),
    Injective plainGame.sha256 ∧ one.start plainGame = .ok plainManifest ∧
      two.start plainGame = .ok plainManifest ∧
      one.Plans plainGame plainManifest.runId (.training 1 ⟨"base"⟩) plan ∧
      two.Plans plainGame plainManifest.runId (.training 1 ⟨"base"⟩) plan' ∧
      plan.planId = plan'.planId ∧ plan.inputs ≠ plan'.inputs := by
  refine ⟨_, plainInvocation "2" _, _, _, plainGame_injective, (plainInvocation_start "1").1,
    (plainInvocation_start "2").2, ⟨_, rfl, List.mem_singleton_self _⟩,
    ⟨_, rfl, List.mem_singleton_self _⟩, rfl, ?_⟩
  intro same
  have versions := congrArg (fun inputs => inputs.capture.map CaptureInputs.rewardVersion) same
  exact absurd versions (by decide)

end AgentExperiment

end Parlando
