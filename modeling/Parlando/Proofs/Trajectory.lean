import Parlando.Proofs.HeadlessSession

namespace Parlando

namespace Headless

open AgentExperiment

variable {G : Game} {Config Rewards : Type} {code : SessionCode G Config Rewards}
  {plan : SessionPlan Config} {env : Environment G} {capture : TrainingCapture}

structure Decision (G : Game) where
  state : G.State
  role : PlayerRole
  response : Option (AgentResponse G.Action)

def Event.decision? (state : Option G.State) : Event G → Option (Decision G)
  | responded role response => state.map fun state => ⟨state, role, response⟩
  | _ => none

def decisionsFrom : Option G.State → List (Event G) → List (Decision G)
  | _, [] => []
  | state, event :: log => (event.decision? state).toList ++ decisionsFrom (event.advance state) log

/-- The decisions of a session, in order. -/
def decisionsOf (log : List (Event G)) : List (Decision G) := decisionsFrom none log

def learnerDecisions (plan : SessionPlan Config) (capture : TrainingCapture)
    (decisions : List (Decision G)) : List (Decision G × Nat) :=
  (decisions.zipIdx 1).filter fun decision =>
    (seat plan decision.1.role).name = capture.learner

/-- A step tells what the learner saw, did and got in one decision. -/
structure Captures (code : SessionCode G Config Rewards) (plan : SessionPlan Config)
    (capture : TrainingCapture) (decision : Decision G × Nat) (step : TrajectoryStep Rewards) :
    Prop where
  labels : step.runId = plan.runId ∧ step.planId = plan.planId ∧ step.scenario = plan.scenario ∧
    step.agent = capture.learner ∧ step.checkpoint = capture.checkpoint ∧
    step.reward = capture.rewardKind ∧ step.rewardVersion = capture.rewardVersion
  number : step.decision = decision.2
  role : step.role = decision.1.role
  observation : G.observationJson (G.observation decision.1.state decision.1.role) =
    .ok step.observation
  availableActions : affordancesJson (G.availableActions decision.1.state decision.1.role) =
    .ok step.availableActions
  outcome : ∃ action, decision.1.response = some (.action action) ∧
    G.actionJson action = .ok step.action ∧
    match G.applyAction decision.1.state action decision.1.role with
    | .ok next => step.accepted = true ∧ step.rejection = none ∧
      step.rewards = some (code.rewards decision.1.state next decision.1.role action
        (G.completion next) capture.parameters) ∧
      G.observationJson (G.observation next decision.1.role) = .ok step.nextObservation ∧
      step.terminal = (G.completion next).isSome
    | .error rejection => step.accepted = false ∧ step.rejection = some rejection ∧
      step.rewards = none ∧
      G.observationJson (G.observation decision.1.state decision.1.role) =
        .ok step.nextObservation ∧
      step.terminal = false

/-- The trajectory has the steps of the learner's decisions, one by one. -/
structure Faithful (code : SessionCode G Config Rewards) (plan : SessionPlan Config)
    (capture : TrainingCapture) (s : Session G Rewards) : Prop where
  count : s.result.decisions = (decisionsOf s.log).length
  steps : List.Forall₂ (Captures code plan capture)
    (learnerDecisions plan capture (decisionsOf s.log)) s.result.trajectory

section Logs

variable {log : List (Event G)} {event : Event G} {s t u : Session G Rewards}
  {state next : G.State} {role : PlayerRole}

theorem decisionsFrom_append (state : Option G.State) :
    decisionsFrom state (log ++ [event]) =
      decisionsFrom state log ++ (event.decision? (log.foldl Event.advance state)).toList := by
  induction log generalizing state with
  | nil => simp [decisionsFrom]
  | cons first log ih =>
    simp only [List.cons_append, decisionsFrom, ih, List.foldl_cons, List.append_assoc]

@[simp] theorem decisions_append : decisionsOf (log ++ [event]) =
    decisionsOf log ++ (event.decision? (stateAfter log)).toList :=
  decisionsFrom_append none

theorem learnerDecisions_append (earlier : List (Decision G)) (decision : Decision G) :
    learnerDecisions plan capture (earlier ++ [decision]) =
      learnerDecisions plan capture earlier ++
        if (seat plan decision.role).name = capture.learner then
          [(decision, earlier.length + 1)] else [] := by
  simp only [learnerDecisions, List.zipIdx_append, List.filter_append, List.zipIdx_singleton,
    List.filter_singleton, Nat.add_comm 1]
  split <;> simp_all

theorem decisions_answered (here : stateAfter s.log = some state)
    (affordances : Option (List G.Action)) (response : Option (AgentResponse G.Action)) :
    decisionsOf (s.answered role affordances response).log =
      decisionsOf s.log ++ [⟨state, role, response⟩] := by
  simp only [Session.answered, log_push, decisions_append, stateAfter_append, here, Event.advance,
    Event.decision?, Option.toList_none, List.append_nil, Option.map_some, Option.toList_some]

theorem decisions_transitioned (action : G.Action) :
    decisionsOf (s.transitioned role action next).log = decisionsOf s.log := by
  simp only [Session.transitioned, Session.accepting, Session.observing, log_push, log_edit,
    decisions_append, Event.decision?, Option.toList_none, List.append_nil]

theorem Told.decided {completed : Option G.Completion} {message : Option String}
    (told : Told s role completed message t) :
    decisionsOf t.log = decisionsOf s.log ∧ t.result.trajectory = s.result.trajectory := by
  cases told with
  | silent => exact ⟨rfl, rfl⟩
  | message text => exact ⟨by simp [Session.told, Event.decision?], rfl⟩

theorem Traced.decided {response : Option (AgentResponse G.Action)}
    (traced : Traced s response t) :
    decisionsOf t.log = decisionsOf s.log ∧ t.result.trajectory = s.result.trajectory := by
  cases traced with
  | off => exact ⟨rfl, rfl⟩
  | entry => exact ⟨by simp [Event.decision?], rfl⟩

/-- A learner's action adds one step for its decision; all else leaves the trajectory alone. -/
theorem Applied.step (capture : TrainingCapture) {input : Option DecisionInput}
    {response : Option (AgentResponse G.Action)} {rejection : Option ActionRejection}
    {completed : Option G.Completion}
    (applied : Applied code plan s state role input response rejection completed next t) :
    decisionsOf t.log = decisionsOf s.log ∧
      (input = none → t.result.trajectory = s.result.trajectory) ∧
      ∀ i action, input = some i → InputOf state role i → response = some (.action action) →
        plan.trainingCapture = some capture →
        ∃ step, t.result.trajectory = s.result.trajectory ++ [step] ∧
          step.terminal = completed.isSome ∧
          Captures code plan capture (⟨state, role, response⟩, s.result.decisions) step := by
  cases applied with
  | yielded => exact ⟨rfl, fun _ => rfl, fun _ _ _ _ acts => by cases acts⟩
  | message text =>
    refine ⟨by simp [Session.told, Event.decision?], fun _ => rfl, fun _ _ _ _ acts => ?_⟩
    cases acts
  | rejected proposed illegal recorded =>
    cases recorded with
    | skipped off =>
      refine ⟨rfl, fun _ => rfl, fun i action given _ _ training => ?_⟩
      rcases off with off | off
      · cases off.symm.trans given
      · cases off.symm.trans training
    | step training observed acted =>
      refine ⟨rfl, (fun absent => by cases absent), fun i action given shown acts training' => ?_⟩
      cases given
      cases acts
      cases proposed
      cases training.symm.trans training'
      exact ⟨_, rfl, rfl, ⟨rfl, rfl, rfl, rfl, rfl, rfl, rfl⟩, rfl, rfl, shown.observation,
        shown.availableActions, _, rfl, acted, by
          rw [illegal]
          exact ⟨rfl, rfl, rfl, observed, rfl⟩⟩
  | accepted proposed legal recorded told =>
    obtain ⟨silent, kept⟩ := told.decided
    cases recorded with
    | skipped off =>
      refine ⟨silent.trans (decisions_transitioned _), fun _ => kept,
        fun i action given _ _ training => ?_⟩
      rcases off with off | off
      · cases off.symm.trans given
      · cases off.symm.trans training
    | step training observed acted =>
      refine ⟨silent.trans (decisions_transitioned _), (fun absent => by cases absent),
        fun i action given shown acts training' => ?_⟩
      cases given
      cases acts
      cases proposed
      cases training.symm.trans training'
      exact ⟨_, kept, rfl, ⟨rfl, rfl, rfl, rfl, rfl, rfl, rfl⟩, rfl, rfl, shown.observation,
        shown.availableActions, _, rfl, acted, by
          rw [legal]
          exact ⟨rfl, rfl, rfl, observed, rfl⟩⟩

/-- After a decision the trajectory is faithful, and a step that ends it also ends the game. -/
theorem Faithful.decided {response : Option (AgentResponse G.Action)}
    {rejection : Option ActionRejection} {completed : Option G.Completion}
    (faithful : Faithful code plan capture s) (training : plan.trainingCapture = some capture)
    (here : stateAfter s.log = some state)
    (decided : Decided code plan s state role response rejection completed next t) :
    Faithful code plan capture t ∧ ∃ steps, t.result.trajectory = s.result.trajectory ++ steps ∧
      (steps = [] ∨ ∃ step, steps = [step] ∧ step.terminal = completed.isSome) := by
  obtain @⟨input, u, _, learner, other, applied, traced⟩ := decided
  obtain ⟨silent, kept⟩ := traced.decided
  obtain ⟨silent', skips, records⟩ := applied.step capture
  have counted : t.result.decisions = s.result.decisions + 1 :=
    traced.counters.decisions.trans applied.decisions
  have logged : decisionsOf t.log = decisionsOf s.log ++ [⟨state, role, response⟩] :=
    (silent.trans silent').trans (decisions_answered here _ _)
  have captures : capturesTraining plan role = (capture.learner == (seat plan role).name) := by
    rw [capturesTraining, training]
    rfl
  have count : t.result.decisions = (decisionsOf t.log).length := by
    rw [counted, faithful.count, logged, List.length_append, List.length_singleton]
  by_cases named : (seat plan role).name = capture.learner
  · obtain ⟨i, action, given, shown, acts⟩ := learner (by rw [captures, named]; simp)
    obtain ⟨step, added, ends, right⟩ := records i action given shown acts training
    refine ⟨⟨count, ?_⟩, [step], kept.trans added, .inr ⟨step, rfl, ends⟩⟩
    rw [logged, learnerDecisions_append, if_pos named, kept, added]
    refine List.rel_append faithful.steps (.cons ?_ .nil)
    exact faithful.count ▸ right
  · have off : capturesTraining plan role = false := by
      rw [captures]
      exact beq_false_of_ne (Ne.symm named)
    refine ⟨⟨count, ?_⟩, [], ?_, .inl rfl⟩
    · rw [logged, learnerDecisions_append, if_neg named, kept, skips (other off), List.append_nil]
      exact faithful.steps
    · rw [kept, skips (other off), List.append_nil]
      rfl

end Logs

structure Trained (code : SessionCode G Config Rewards) (plan : SessionPlan Config)
    (capture : TrainingCapture) (s : Session G Rewards) : Prop
    extends Faithful code plan capture s where
  /-- The states of the decisions are those the game went through. -/
  lawful : Lawful code plan none s.log
  terminal : ∀ step ∈ s.result.trajectory.dropLast, step.terminal = false

structure Capturing (code : SessionCode G Config Rewards) (plan : SessionPlan Config)
    (capture : TrainingCapture) (state : G.State) (s : Session G Rewards) : Prop
    extends At code plan s.log state, Faithful code plan capture s where
  playing : G.completion state = none
  open_ : ∀ step ∈ s.result.trajectory, step.terminal = false

section Sessions

variable {s t : Session G Rewards} {state next : G.State} {role : PlayerRole}

theorem Capturing.trained (capturing : Capturing code plan capture state s) :
    Trained code plan capture s where
  toFaithful := capturing.toFaithful
  lawful := capturing.lawful
  terminal step mem := capturing.open_ step (List.dropLast_subset _ mem)

/-- An event that is not a response leaves a trained session trained. -/
theorem Trained.append {event : Event G} (trained : Trained code plan capture s)
    (silent : ∀ state, event.decision? state = none)
    (allowed : event.Allowed code plan (stateAfter s.log)) :
    Trained code plan capture (s.push event) where
  count := by
    rw [log_push, decisions_append, silent, Option.toList_none, List.append_nil]
    exact trained.count
  steps := by
    rw [log_push, decisions_append, silent, Option.toList_none, List.append_nil]
    exact trained.steps
  lawful := lawful_append.mpr ⟨trained.lawful, allowed⟩
  terminal := trained.terminal

/-- What a decision makes of a training session: it goes on, or the game is over. -/
theorem Capturing.decided {response : Option (AgentResponse G.Action)}
    {rejection : Option ActionRejection} {completed : Option G.Completion}
    (capturing : Capturing code plan capture state s)
    (training : plan.trainingCapture = some capture)
    (decided : Decided code plan s state role response rejection completed next t) :
    completed = G.completion next ∧ stateAfter t.log = some next ∧ Trained code plan capture t ∧
      (completed = none → Capturing code plan capture next t) := by
  obtain ⟨faithful, steps, added, few⟩ :=
    capturing.toFaithful.decided training capturing.here decided
  obtain @⟨input, u, _, learner, other, applied, traced⟩ := decided
  obtain ⟨at_u, completes, -⟩ := applied.at_ (capturing.toAt.answered role response) capturing.playing
  obtain ⟨at_t, -⟩ := traced.at_ at_u
  refine ⟨completes, at_t.here, ⟨faithful, at_t.lawful, ?_⟩, fun goes => ⟨at_t, faithful, ?_, ?_⟩⟩
  · rw [added]
    rcases few with rfl | ⟨step, rfl, -⟩
    · rw [List.append_nil]
      exact capturing.trained.terminal
    · rw [List.dropLast_concat]
      exact capturing.open_
  · exact completes.symm.trans goes
  · rw [added]
    intro step mem
    rcases List.mem_append.mp mem with old | new
    · exact capturing.open_ step old
    rcases few with rfl | ⟨step', rfl, ends⟩
    · cases new
    · cases List.mem_singleton.mp new
      rw [ends, goes]
      rfl

theorem Trained.finished (trained : Trained code plan capture s)
    (here : stateAfter s.log = some state) {completion : G.Completion}
    (completes : G.completion state = some completion) :
    Trained code plan capture (s.finished completion) := by
  have allowed (role : PlayerRole) {log : List (Event G)} (same : stateAfter log = some state) :
      (Event.called role (.finish completion) true).Allowed code plan (stateAfter log) :=
    ⟨state, same, completes⟩
  refine (trained.append (fun _ => rfl) (allowed .A here)).append (fun _ => rfl) (allowed .B ?_)
  rw [log_push, stateAfter_append]
  exact here

theorem Capturing.loop_meets (training : plan.trainingCapture = some capture) {remaining : Nat}
    {schedule : code.schedule.State} (capturing : Capturing code plan capture state s) :
    Meets (decisionLoop code plan env remaining state role schedule) s
      (fun _ t => Trained code plan capture t) (fun _ _ => True) := by
  refine @decisionLoop_meets _ _ _ code plan env _ _
    (fun _ state _ _ s => Capturing code plan capture state s)
    (fun _ _ _ _ _ capturing => capturing.trained) (fun _ _ _ _ capturing => capturing.trained)
    (fun _ _ _ _ _ _ _ _ _ => trivial) (fun _ state _ _ s _ _ completed next t capturing decided =>
      ?_) remaining state role schedule s capturing
  obtain ⟨completes, here, trained, goes⟩ := capturing.decided training decided
  exact {
    completes := fun completion done =>
      ⟨trained.finished here (completes.symm.trans done), fun _ => trivial, fun _ => trivial⟩
    actions := fun _ _ => trained
    messages := fun _ _ => trained
    rejections := fun _ _ => trained
    quiet := fun _ _ _ => trained
    goes := fun _ _ playing _ _ _ _ => goes playing }

theorem driveSession_trained (env : Environment G)
    (training : plan.trainingCapture = some capture)
    (initial : code.initialState plan.gameConfig plan.gameSeed plan.gameSecrets = .ok state)
    (log : s.log = initialLog state) (result : s.result = initialResult plan) :
    Meets (driveSession code plan env state) s
      (fun _ t => Trained code plan capture t) (fun _ _ => True) := by
  obtain ⟨result', log'⟩ := s
  subst log result
  refine Meets.seq (callAgent_meets (Meets.seq (callAgent_meets ?_ fun _ => trivial))
    fun _ => trivial)
  have at_ := At.afterStart initial
  have trained : Trained code plan capture (((⟨initialResult plan, initialLog state⟩ :
      Session G Rewards).push (.called .A (.start (G.observation state .A)) true)).push
        (.called .B (.start (G.observation state .B)) true)) :=
    ⟨⟨rfl, .nil⟩, at_.lawful, nofun⟩
  cases completes : G.completion state with
  | some completion =>
    exact Meets.seq (finishAgents_meets (Meets.returned (trained.finished at_.here completes))
      (fun _ => trivial) fun _ => trivial)
  | none =>
    cases code.schedule.create plan.schedule.first plan.schedule.parameters with
    | error error => exact Meets.thrown trivial
    | ok schedule =>
      refine Meets.reads (Meets.followed ?_)
      split
      · have ready : Capturing code plan capture state ((((⟨initialResult plan, initialLog state⟩ :
            Session G Rewards).push (.called .A (.start (G.observation state .A)) true)).push
              (.called .B (.start (G.observation state .B)) true)).push (.timed true)) :=
          ⟨at_.plain rfl trivial, ⟨rfl, .nil⟩, completes, nofun⟩
        rename_i fits
        rw [fits]
        exact ready.loop_meets training
      · exact Meets.thrown trivial

theorem Trained.shutdown (trained : Trained code plan capture s) :
    Trained code plan capture (shutdownAgents env s) := by
  have silenced (role : PlayerRole) (ok : Bool) {s : Session G Rewards}
      (trained : Trained code plan capture s) :
      Trained code plan capture (s.push (.called role .shutdown ok)) :=
    trained.append (fun _ => rfl) trivial
  obtain ⟨⟨count, steps⟩, lawful, terminal⟩ := silenced .B
    (env.call (s.push (.called .A .shutdown (env.call s.log .A .shutdown).isReturned)).log .B
      .shutdown).isReturned (silenced .A (env.call s.log .A .shutdown).isReturned trained)
  exact ⟨⟨count, steps⟩, lawful, terminal⟩

/-- A training session that ends without a failure has captured each decision of its learner. -/
theorem trajectory_faithful (training : plan.trainingCapture = some capture)
    (ends : (run code plan env).1 = .returned)
    (succeeds : (run code plan env).2.result.status ≠ .failed) :
    Lawful code plan none (run code plan env).2.log ∧
      List.Forall₂ (Captures code plan capture)
        (learnerDecisions plan capture (decisionsOf (run code plan env).2.log))
        (run code plan env).2.result.trajectory ∧
      ∀ step ∈ (run code plan env).2.result.trajectory.dropLast, step.terminal = false := by
  suffices trained : Trained code plan capture (run code plan env).2 from
    ⟨trained.lawful, trained.steps, trained.terminal⟩
  revert ends succeeds
  unfold run
  cases code.createGame with
  | error error => exact fun _ succeeds => absurd rfl succeeds
  | ok =>
    dsimp only
    rcases createAgent_cases env .A
      (⟨initialResult plan, []⟩ : Session G Rewards) with ⟨error, first⟩ | first
    · rw [first]
      exact fun _ succeeds => absurd rfl succeeds
    rw [first]
    dsimp only
    rcases createAgent_cases env .B
      ((⟨initialResult plan, []⟩ : Session G Rewards).push (.created .A)) with
        ⟨error, second⟩ | second
    · rw [second]
      exact fun _ succeeds => absurd rfl succeeds
    rw [second]
    dsimp only
    cases initial : code.initialState plan.gameConfig plan.gameSeed plan.gameSecrets with
    | error error => exact fun _ succeeds => absurd rfl succeeds
    | ok state =>
      dsimp only
      have meets := driveSession_trained env
        (s := (((⟨initialResult plan, []⟩ : Session G Rewards).push (.created .A)).push
          (.created .B)).push (.initialized state)) training initial rfl rfl
      unfold Meets at meets
      split at meets
      · rename_i outcome t drives
        rw [drives]
        intro _ _
        have closed : Trained code plan capture (t.edit fun result =>
            { result with status := outcome.status, completion := outcome.completion }) :=
          ⟨⟨meets.count, meets.steps⟩, meets.lawful, meets.terminal⟩
        exact closed.shutdown
      · rename_i stop t drives
        rw [drives]
        cases stop with
        | failure failure => exact fun _ succeeds => absurd rfl succeeds
        | panic => exact fun ends => nomatch ends

end Sessions

/-- The one decision of the session is the one step of its trajectory. -/
theorem trajectory_faithful_lamp : ∃ capture step,
    (run lampCode lampTraining lampLighters).2.result.trajectory = [step] ∧
      Captures lampCode lampTraining capture (⟨false, .A, some (.action ())⟩, 1) step := by
  obtain ⟨-, steps, -⟩ := @trajectory_faithful lamp Unit Unit lampCode lampTraining lampLighters _
    rfl rfl (by decide)
  obtain ⟨step, rest, captures, none_, same⟩ := List.forall₂_cons_left_iff.mp steps
  cases none_
  exact ⟨_, step, same, captures⟩

end Headless

end Parlando
