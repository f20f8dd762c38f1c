import Parlando.Data.Procedure
import Parlando.HeadlessSession

namespace Parlando

namespace Headless

open AgentExperiment

variable {G : Game} {Config Rewards α : Type} {code : SessionCode G Config Rewards}
  {plan : SessionPlan Config} {env : Environment G} {s t : Session G Rewards}
  {state next : G.State} {role actor : PlayerRole} {action : G.Action}
  {response : Option (AgentResponse G.Action)} {input : Option DecisionInput}
  {outcome : TrajectoryOutcome G} {rejection : Option ActionRejection}
  {completed : Option G.Completion} {failure : SessionFailure}

section Operations

variable {stopped : Stop → Session G Rewards → Prop}

theorem callAgent_meets {call : Call G} {done : Unit → Session G Rewards → Prop}
    (ok : done () (s.push (.called role call true)))
    (failed : ∀ error, stopped (.failure ⟨call.phase, some role, error⟩)
      (s.push (.called role call false))) :
    Meets (callAgent env role call) s done stopped := by
  refine Meets.reads (Meets.followed ?_)
  cases env.call s.log role call with
  | returned => exact Meets.returned ok
  | failed error => exact Meets.thrown (failed error)
  | timedOut => exact Meets.thrown (failed _)

theorem serialized_meets {phase : String} {value : Except String α}
    {done : α → Session G Rewards → Prop} (ok : ∀ v, value = .ok v → done v s)
    (failed : ∀ error, stopped (.failure ⟨phase, some role, error⟩) s) :
    Meets (serialized phase role value) s done stopped := by
  cases value with
  | ok v => exact Meets.returned (ok v rfl)
  | error error => exact Meets.thrown (failed error)

end Operations

namespace Session

variable (s)

def answered (role : PlayerRole) (affordances : Option (List G.Action))
    (response : Option (AgentResponse G.Action)) : Session G Rewards :=
  (s.push (.called role (.respond affordances) true)).push (.responded role response)

/-- The session after a delivered message. -/
def told (sender : PlayerRole) (message : String) : Session G Rewards :=
  (s.push (.called (otherRole sender) (.observeMessage sender message) true)).edit fun result =>
    { result with messages := result.messages + 1 }

def counted : Session G Rewards :=
  s.edit fun result => { result with decisions := result.decisions + 1 }

def refused : Session G Rewards :=
  s.edit fun result => { result with rejectedActions := result.rejectedActions + 1 }

def accepting (actor : PlayerRole) (action : G.Action) (next : G.State) : Session G Rewards :=
  (s.edit fun result => { result with acceptedActions := result.acceptedActions + 1 }).push
    (.accepted actor action next)

def observing (role actor : PlayerRole) (action : G.Action) (next : G.State) (ok : Bool) :
    Session G Rewards :=
  s.push (.called role (.observeTransition actor action (G.observation next role)) ok)

def transitioned (actor : PlayerRole) (action : G.Action) (next : G.State) : Session G Rewards :=
  ((s.accepting actor action next).observing .A actor action next true).observing
    .B actor action next true

def recorded (step : TrajectoryStep Rewards) : Session G Rewards :=
  s.edit fun result => { result with trajectory := result.trajectory ++ [step] }

end Session

/-- The step `record_trajectory` adds, with its serialized observation and action. -/
def stepOf (code : SessionCode G Config Rewards) (plan : SessionPlan Config)
    (capture : TrainingCapture) (decision : Nat) (input : DecisionInput) (next : G.State)
    (actor : PlayerRole) (action : G.Action) (outcome : TrajectoryOutcome G)
    (nextObservation actionValue : Value) : TrajectoryStep Rewards where
  runId := plan.runId
  planId := plan.planId
  decision := decision
  scenario := plan.scenario
  role := actor
  agent := capture.learner
  checkpoint := capture.checkpoint
  reward := capture.rewardKind
  rewardVersion := capture.rewardVersion
  observation := input.observation
  availableActions := input.availableActions
  action := actionValue
  accepted := match outcome with
    | .accepted .. => true
    | .rejected _ => false
  rejection := match outcome with
    | .accepted .. => none
    | .rejected rejection => some rejection
  rewards := match outcome with
    | .accepted before completion =>
      some (code.rewards before next actor action completion capture.parameters)
    | .rejected _ => none
  nextObservation := nextObservation
  terminal := match outcome with
    | .accepted _ completion => completion.isSome
    | .rejected _ => false

/-- What `record_trajectory` does: nothing, or it adds its step. -/
inductive Recorded (code : SessionCode G Config Rewards) (plan : SessionPlan Config)
    (s : Session G Rewards) (next : G.State) (actor : PlayerRole) (action : G.Action)
    (outcome : TrajectoryOutcome G) : Option DecisionInput → Session G Rewards → Prop where
  | skipped {input : Option DecisionInput} (off : input = none ∨ plan.trainingCapture = none) :
    Recorded code plan s next actor action outcome input s
  | step {input : DecisionInput} {capture : TrainingCapture} {nextObservation actionValue : Value}
    (training : plan.trainingCapture = some capture)
    (observed : G.observationJson (G.observation next actor) = .ok nextObservation)
    (acted : G.actionJson action = .ok actionValue) :
    Recorded code plan s next actor action outcome (some input)
      (s.recorded (stepOf code plan capture s.result.decisions input next actor action outcome
        nextObservation actionValue))

theorem recordTrajectory_meets {done : Unit → Session G Rewards → Prop}
    {stopped : Stop → Session G Rewards → Prop}
    (ok : ∀ t, Recorded code plan s next actor action outcome input t → done () t)
    (failed : ∀ error, stopped (.failure ⟨"trajectory", some actor, error⟩) s) :
    Meets (recordTrajectory code plan next actor action input outcome) s done stopped := by
  unfold recordTrajectory
  cases input with
  | none => exact Meets.returned (ok s (.skipped (.inl rfl)))
  | some input =>
    cases training : plan.trainingCapture with
    | none => exact Meets.returned (ok s (.skipped (.inr training)))
    | some capture =>
      refine Meets.seq (serialized_meets (fun nextObservation observed => ?_) failed)
      refine Meets.seq (serialized_meets (fun actionValue acted => ?_) failed)
      refine Meets.modified (ok _ ?_)
      have step : Recorded code plan s next actor action outcome (some input) _ :=
        .step training observed acted
      cases outcome <;> exact step

namespace AgentResponse

variable {Action : Type}

def action? : AgentResponse Action → Option Action
  | .action a | .actionAndMessage a _ => some a
  | .message _ => none

def message? : AgentResponse Action → Option String
  | .message m | .actionAndMessage _ m => some m
  | .action _ => none

end AgentResponse

/-- What an accepted action's message changes: it is delivered unless the game is over. -/
inductive Told (s : Session G Rewards) (sender : PlayerRole) :
    Option G.Completion → Option String → Session G Rewards → Prop where
  | silent {completed : Option G.Completion} {message : Option String}
    (off : completed.isSome = true ∨ message = none) : Told s sender completed message s
  | message (text : String) : Told s sender none (some text) (s.told sender text)

inductive Applied (code : SessionCode G Config Rewards) (plan : SessionPlan Config)
    (s : Session G Rewards) (state : G.State) (role : PlayerRole) (input : Option DecisionInput) :
    Option (AgentResponse G.Action) → Option ActionRejection → Option G.Completion → G.State →
      Session G Rewards → Prop where
  | yielded : Applied code plan s state role input none none none state s
  | message (text : String) :
    Applied code plan s state role input (some (.message text)) none none state (s.told role text)
  | rejected {response : AgentResponse G.Action} {action : G.Action} {rejection : ActionRejection}
    {t : Session G Rewards} (proposed : response.action? = some action)
    (illegal : G.applyAction state action role = .error rejection)
    (recorded : Recorded code plan s.refused state role action (.rejected rejection) input t) :
    Applied code plan s state role input (some response) (some rejection) none state t
  | accepted {response : AgentResponse G.Action} {action : G.Action} {next : G.State}
    {t u : Session G Rewards} (proposed : response.action? = some action)
    (legal : G.applyAction state action role = .ok next)
    (recorded : Recorded code plan (s.transitioned role action next) next role action
      (.accepted state (G.completion next)) input t)
    (told : Told t role (G.completion next) response.message? u) :
    Applied code plan s state role input (some response) none (G.completion next) next u

inductive ApplyFails (code : SessionCode G Config Rewards) (plan : SessionPlan Config)
    (s : Session G Rewards) (state : G.State) (role : PlayerRole) (input : Option DecisionInput) :
    AgentResponse G.Action → SessionFailure → Session G Rewards → Prop where
  | message (text error : String) : ApplyFails code plan s state role input (.message text)
      ⟨"observe_message", some (otherRole role), error⟩
      (s.push (.called (otherRole role) (.observeMessage role text) false))
  | rejected {response : AgentResponse G.Action} (error : String) :
    ApplyFails code plan s state role input response ⟨"trajectory", some role, error⟩ s.refused
  | observeA {response : AgentResponse G.Action} {action : G.Action} {next : G.State}
    (error : String) (legal : G.applyAction state action role = .ok next) :
    ApplyFails code plan s state role input response ⟨"observe_transition", some .A, error⟩
      ((s.accepting role action next).observing .A role action next false)
  | observeB {response : AgentResponse G.Action} {action : G.Action} {next : G.State}
    (error : String) (legal : G.applyAction state action role = .ok next) :
    ApplyFails code plan s state role input response ⟨"observe_transition", some .B, error⟩
      (((s.accepting role action next).observing .A role action next true).observing
        .B role action next false)
  | accepted {response : AgentResponse G.Action} {action : G.Action} {next : G.State}
    (error : String) (legal : G.applyAction state action role = .ok next) :
    ApplyFails code plan s state role input response ⟨"trajectory", some role, error⟩
      (s.transitioned role action next)
  | told {response : AgentResponse G.Action} {action : G.Action} {next : G.State}
    {t : Session G Rewards} (text error : String) (proposed : response.action? = some action)
    (legal : G.applyAction state action role = .ok next) (playing : G.completion next = none)
    (recorded : Recorded code plan (s.transitioned role action next) next role action
      (.accepted state none) input t) :
    ApplyFails code plan s state role input response
      ⟨"observe_message", some (otherRole role), error⟩
      (t.push (.called (otherRole role) (.observeMessage role text) false))

theorem deliverMessage_meets {text : String} {done : Unit → Session G Rewards → Prop}
    {stopped : Stop → Session G Rewards → Prop} (ok : done () (s.told role text))
    (failed : ∀ error, stopped (.failure ⟨"observe_message", some (otherRole role), error⟩)
      (s.push (.called (otherRole role) (.observeMessage role text) false))) :
    Meets (deliverMessage env role text) s done stopped :=
  Meets.seq (callAgent_meets (Meets.modified ok) failed)

/-- The ends of an action's application, as ends of the response that proposes it. -/
theorem applyAction_meets {proposal : AgentResponse G.Action}
    (proposed : proposal.action? = some action) :
    Meets (applyAction code plan env state role action proposal.message? input) s
      (fun attempt t => match attempt with
        | (.accepted completed, next) =>
          Applied code plan s state role input (some proposal) none completed next t
        | (.rejected rejection, next) =>
          Applied code plan s state role input (some proposal) (some rejection) none next t)
      (fun stop t => ∃ failure, stop = .failure failure ∧
        ApplyFails code plan s state role input proposal failure t) := by
  unfold applyAction
  cases judged : G.applyAction state action role with
  | error rejection =>
    refine Meets.followed (Meets.seq (recordTrajectory_meets (fun t recorded => ?_) ?_))
    · exact Meets.returned (.rejected proposed judged recorded)
    · exact fun error => ⟨_, rfl, .rejected error⟩
  | ok next =>
    refine Meets.followed (Meets.followed (Meets.seq (callAgent_meets ?_ ?_)))
    case refine_2 => exact fun error => ⟨_, rfl, .observeA error judged⟩
    refine Meets.seq (callAgent_meets ?_ ?_)
    case refine_2 => exact fun error => ⟨_, rfl, .observeB error judged⟩
    refine Meets.seq (recordTrajectory_meets (fun t recorded => ?_) ?_)
    case refine_2 => exact fun error => ⟨_, rfl, .accepted error judged⟩
    have end_ {u : Session G Rewards}
        (told : Told t role (G.completion next) proposal.message? u) :
        Applied code plan s state role input (some proposal) none (G.completion next) next u :=
      .accepted proposed judged recorded told
    cases playing : G.completion next with
    | some completion =>
      rw [playing] at end_
      exact Meets.returned (end_ (.silent (.inl rfl)))
    | none =>
      rw [playing] at end_ recorded
      cases sends : proposal.message? with
      | none =>
        rw [sends] at end_
        exact Meets.returned (end_ (.silent (.inr rfl)))
      | some text =>
        rw [sends] at end_
        refine Meets.seq (deliverMessage_meets ?_ ?_)
        · exact Meets.returned (end_ (.message text))
        · exact fun error => ⟨_, rfl, .told text error proposed judged playing recorded⟩

theorem applyResponse_meets :
    Meets (applyResponse code plan env state role response input) s
      (fun (rejection, completed, next) t =>
        Applied code plan s state role input response rejection completed next t)
      (fun stop t => ∃ proposal failure, response = some proposal ∧ stop = .failure failure ∧
        ApplyFails code plan s state role input proposal failure t) := by
  have attempt {proposal : AgentResponse G.Action} {action : G.Action}
      (proposed : proposal.action? = some action) :
      Meets (do
        match ← applyAction code plan env state role action proposal.message? input with
        | (.accepted completed, next) => return (none, completed, next)
        | (.rejected rejection, next) => return (some rejection, none, next)) s
        (fun (rejection, completed, next) t =>
          Applied code plan s state role input (some proposal) rejection completed next t)
        (fun stop t => ∃ proposal' failure, some proposal = some proposal' ∧
          stop = .failure failure ∧
            ApplyFails code plan s state role input proposal' failure t) := by
    refine Meets.seq ((applyAction_meets proposed).mono (fun attempt t ends => ?_) ?_)
    · obtain ⟨attempt, next⟩ := attempt
      cases attempt <;> exact Meets.returned ends
    · rintro stop t ⟨failure, rfl, fails⟩
      exact ⟨proposal, failure, rfl, rfl, fails⟩
  unfold applyResponse
  match response with
  | none => exact Meets.returned .yielded
  | some (.action action) => exact @attempt (.action action) _ rfl
  | some (.actionAndMessage action text) =>
    exact @attempt (.actionAndMessage action text) _ rfl
  | some (.message text) =>
    refine Meets.seq (deliverMessage_meets (Meets.returned (.message text)) fun error => ?_)
    exact ⟨_, _, rfl, rfl, .message text error⟩

inductive Traced (s : Session G Rewards) (response : Option (AgentResponse G.Action)) :
    Session G Rewards → Prop where
  | off : Traced s response s
  | entry {value : Value} (trace : List Value) (shown : responseJson response = .ok value) :
    Traced s response ((s.push (.traced response)).edit fun result =>
      { result with trace := some trace })

theorem recordTrace_meets {context : Option Value} {done : Unit → Session G Rewards → Prop}
    {stopped : Stop → Session G Rewards → Prop} (ok : ∀ t, Traced s response t → done () t)
    (panicked : ∀ error, responseJson response = .error error →
      stopped .panic (s.push (.traced response))) :
    Meets (recordTrace role response rejection context) s done stopped := by
  unfold recordTrace
  refine Meets.reads ?_
  cases s.result.trace with
  | none => exact Meets.returned (ok s .off)
  | some trace =>
    refine Meets.followed ?_
    cases shown : responseJson response with
    | error error => exact Meets.thrown (panicked error shown)
    | ok value => exact Meets.modified (ok _ (.entry _ shown))

structure InputOf (state : G.State) (role : PlayerRole) (input : DecisionInput) : Prop where
  observation : G.observationJson (G.observation state role) = .ok input.observation
  availableActions : affordancesJson (G.availableActions state role) = .ok input.availableActions

theorem decisionInput_meets {done : Option DecisionInput → Session G Rewards → Prop}
    {stopped : Stop → Session G Rewards → Prop}
    (ok : ∀ input, (∀ i, input = some i → InputOf state role i) →
      (capturesTraining plan role = true → input.isSome = true) → done input s)
    (failed : ∀ phase error, stopped (.failure ⟨phase, some role, error⟩) s) :
    Meets (decisionInput plan state role (G.availableActions state role)) s done stopped := by
  unfold decisionInput
  split
  · refine Meets.seq (serialized_meets (fun observation observed => ?_) (failed _))
    refine Meets.seq (serialized_meets (fun availableActions available => ?_) (failed _))
    refine Meets.returned (ok _ (fun i same => ?_) fun _ => rfl)
    cases same
    exact ⟨observed, available⟩
  · rename_i off
    refine Meets.returned (ok none nofun fun captures => ?_)
    rw [captures] at off
    exact absurd rfl off

inductive Decided (code : SessionCode G Config Rewards) (plan : SessionPlan Config)
    (s : Session G Rewards) (state : G.State) (role : PlayerRole)
    (response : Option (AgentResponse G.Action)) (rejection : Option ActionRejection)
    (completed : Option G.Completion) (next : G.State) : Session G Rewards → Prop where
  | intro {input : Option DecisionInput} {t u : Session G Rewards}
    (learner : capturesTraining plan role = true → ∃ i action, input = some i ∧
      InputOf state role i ∧ response = some (.action action))
    (other : capturesTraining plan role = false → input = none)
    (applied : Applied code plan
      (s.counted.answered role (G.availableActions state role) response) state role input
      response rejection completed next t)
    (traced : Traced t response u) :
    Decided code plan s state role response rejection completed next u

inductive DecideStops (code : SessionCode G Config Rewards) (plan : SessionPlan Config)
    (s : Session G Rewards) (state : G.State) (role : PlayerRole) :
    Stop → Session G Rewards → Prop where
  | input (phase error : String) :
    DecideStops code plan s state role (.failure ⟨phase, some role, error⟩) s.counted
  | respond (error : String) :
    DecideStops code plan s state role (.failure ⟨"respond", some role, error⟩)
      (s.counted.push (.called role (.respond (G.availableActions state role)) false))
  | training {response : Option (AgentResponse G.Action)} (error : String)
    (captures : capturesTraining plan role = true) :
    DecideStops code plan s state role (.failure ⟨"training_response", some role, error⟩)
      (s.counted.answered role (G.availableActions state role) response)
  | apply {response : AgentResponse G.Action} {input : Option DecisionInput}
    {failure : SessionFailure} {t : Session G Rewards}
    (fails : ApplyFails code plan
      (s.counted.answered role (G.availableActions state role) (some response)) state role input
      response failure t) :
    DecideStops code plan s state role (.failure failure) t
  | panic {response : Option (AgentResponse G.Action)} {rejection : Option ActionRejection}
    {completed : Option G.Completion} {next : G.State} {input : Option DecisionInput}
    {t : Session G Rewards} {error : String}
    (applied : Applied code plan
      (s.counted.answered role (G.availableActions state role) response) state role input
      response rejection completed next t)
    (unserializable : responseJson response = .error error) :
    DecideStops code plan s state role .panic (t.push (.traced response))

theorem respond_meets {affordances : Option (List G.Action)}
    {done : Option (AgentResponse G.Action) → Session G Rewards → Prop}
    {stopped : Stop → Session G Rewards → Prop}
    (ok : ∀ response, done response (s.answered role affordances response))
    (failed : ∀ error, stopped (.failure ⟨"respond", some role, error⟩)
      (s.push (.called role (.respond affordances) false))) :
    Meets (respond env role affordances) s done stopped := by
  unfold respond
  refine Meets.reads (Meets.followed ?_)
  cases env.respond s.log role affordances with
  | returned response => exact Meets.seq (Meets.returned (Meets.followed (Meets.returned (ok _))))
  | failed error => exact Meets.seq (Meets.thrown (failed error))
  | timedOut => exact Meets.seq (Meets.thrown (failed _))

theorem decide_meets : Meets (decide code plan env state role) s
    (fun (response, rejection, completed, next) t =>
      Decided code plan s state role response rejection completed next t)
    (DecideStops code plan s state role) := by
  unfold decide
  refine Meets.followed (Meets.seq (decisionInput_meets (fun input shown given => ?_) .input))
  refine Meets.seq (respond_meets (fun response => ?_) .respond)
  have rest {input : Option DecisionInput} {context : Option Value}
      (learner : capturesTraining plan role = true → ∃ i action, input = some i ∧
        InputOf state role i ∧ response = some (.action action))
      (other : capturesTraining plan role = false → input = none) :
      Meets (do
        let (rejection, completed, next) ← applyResponse code plan env state role response input
        recordTrace role response rejection context
        return (response, rejection, completed, next))
        (s.counted.answered role (G.availableActions state role) response)
        (fun (response, rejection, completed, next) t =>
          Decided code plan s state role response rejection completed next t)
        (DecideStops code plan s state role) := by
    refine Meets.seq (applyResponse_meets.mono (fun ends t applied => ?_) ?_)
    · refine Meets.seq (recordTrace_meets (fun u traced => ?_) fun error bad => ?_)
      · exact Meets.returned ⟨learner, other, applied, traced⟩
      · exact .panic applied bad
    · rintro stop t ⟨proposal, failure, rfl, rfl, fails⟩
      exact .apply fails
  dsimp only
  cases captures : capturesTraining plan role with
  | false => exact rest (fun on => by cases captures.symm.trans on) fun _ => rfl
  | true =>
    obtain ⟨i, rfl⟩ := Option.isSome_iff_exists.mp (given captures)
    match response with
    | some (.action action) =>
      exact rest (fun _ => ⟨i, action, rfl, shown i rfl, rfl⟩) fun off => by
        cases captures.symm.trans off
    | none | some (.message _) | some (.actionAndMessage ..) =>
      exact Meets.seq (show Meets (fail "training_response" (some role) _) _ _ _ from
        Meets.thrown (DecideStops.training _ captures))

section Loop

variable {stopped : Stop → Session G Rewards → Prop}

def Session.finished (s : Session G Rewards) (completion : G.Completion) : Session G Rewards :=
  (s.push (.called .A (.finish completion) true)).push (.called .B (.finish completion) true)

theorem finishAgents_meets {completion : G.Completion} {done : Unit → Session G Rewards → Prop}
    (ok : done () (s.finished completion))
    (failedA : ∀ error, stopped (.failure ⟨"finish", some .A, error⟩)
      (s.push (.called .A (.finish completion) false)))
    (failedB : ∀ error, stopped (.failure ⟨"finish", some .B, error⟩)
      ((s.push (.called .A (.finish completion) true)).push
        (.called .B (.finish completion) false))) :
    Meets (finishAgents env completion) s done stopped :=
  Meets.seq (callAgent_meets (callAgent_meets ok failedB) failedA)

variable {done : SessionOutcome G.Completion → Session G Rewards → Prop}

/-- What has to be shown where a game is over: both agents finish, or one of them fails. -/
structure Finishes (done : SessionOutcome G.Completion → Session G Rewards → Prop)
    (stopped : Stop → Session G Rewards → Prop) (s : Session G Rewards)
    (completion : G.Completion) : Prop where
  ok : done ⟨.completed, some completion⟩ (s.finished completion)
  failedA : ∀ error, stopped (.failure ⟨"finish", some .A, error⟩)
    (s.push (.called .A (.finish completion) false))
  failedB : ∀ error, stopped (.failure ⟨"finish", some .B, error⟩)
    ((s.push (.called .A (.finish completion) true)).push (.called .B (.finish completion) false))

structure Continues (code : SessionCode G Config Rewards) (plan : SessionPlan Config)
    (done : SessionOutcome G.Completion → Session G Rewards → Prop)
    (stopped : Stop → Session G Rewards → Prop)
    (inv : Nat → G.State → PlayerRole → code.schedule.State → Session G Rewards → Prop)
    (remaining : Nat) (role : PlayerRole) (schedule : code.schedule.State)
    (response : Option (AgentResponse G.Action)) (rejection : Option ActionRejection)
    (completed : Option G.Completion) (next : G.State) (t : Session G Rewards) : Prop where
  completes : ∀ completion, completed = some completion → Finishes done stopped t completion
  actions : completed = none → plan.limits.acceptedActions ≤ t.result.acceptedActions →
    done (limitOutcome .actionLimit) t
  messages : completed = none → plan.limits.messages ≤ t.result.messages →
    done (limitOutcome .messageLimit) t
  rejections : completed = none → plan.limits.rejectedActions ≤ t.result.rejectedActions →
    done (limitOutcome .rejectionLimit) t
  quiet : ∀ after, completed = none →
    code.schedule.next schedule role response rejection = (none, after) →
    done (limitOutcome .quiescent) t
  goes : ∀ role' after, completed = none →
    t.result.acceptedActions < plan.limits.acceptedActions →
    t.result.messages < plan.limits.messages →
    t.result.rejectedActions < plan.limits.rejectedActions →
    code.schedule.next schedule role response rejection = (some role', after) →
    inv remaining next role' after t

/-- The loop, by an invariant that every decision keeps. -/
theorem decisionLoop_meets
    {inv : Nat → G.State → PlayerRole → code.schedule.State → Session G Rewards → Prop}
    (late : ∀ n state role schedule s, inv n state role schedule s →
      done (limitOutcome .deadline) s)
    (spent : ∀ state role schedule s, inv 0 state role schedule s →
      done (limitOutcome .decisionLimit) s)
    (stops : ∀ n state role schedule s stop t, inv (n + 1) state role schedule s →
      DecideStops code plan s state role stop t → stopped stop t)
    (decides : ∀ n state role schedule s response rejection completed next t,
      inv (n + 1) state role schedule s →
      Decided code plan s state role response rejection completed next t →
      Continues code plan done stopped inv n role schedule response rejection completed next t)
    {remaining : Nat} {state : G.State} {role : PlayerRole} {schedule : code.schedule.State}
    {s : Session G Rewards} (start : inv remaining state role schedule s) :
    Meets (decisionLoop code plan env remaining state role schedule) s done stopped := by
  induction remaining generalizing state role schedule s with
  | zero =>
    unfold decisionLoop
    refine Meets.reads ?_
    split
    · exact Meets.returned (late _ _ _ _ _ start)
    · exact Meets.returned (spent _ _ _ _ start)
  | succ remaining ih =>
    unfold decisionLoop
    refine Meets.reads ?_
    split
    · exact Meets.returned (late _ _ _ _ _ start)
    refine Meets.seq (decide_meets.mono ?_ fun stop t => stops _ _ _ _ _ _ _ start)
    rintro ⟨response, rejection, completed, next⟩ t decided
    have continues := decides _ _ _ _ _ _ _ _ _ _ start decided
    cases completes : completed with
    | some completion =>
      obtain ⟨ok, failedA, failedB⟩ := continues.completes completion completes
      exact Meets.seq (finishAgents_meets (Meets.returned ok) failedA failedB)
    | none =>
      refine Meets.reads ?_
      dsimp only
      split
      · exact Meets.returned (continues.actions completes ‹_›)
      split
      · exact Meets.returned (continues.messages completes ‹_›)
      split
      · exact Meets.returned (continues.rejections completes ‹_›)
      split
      · exact Meets.returned (continues.quiet _ completes ‹_›)
      · exact ih (continues.goes _ _ completes (by omega) (by omega) (by omega) ‹_›)

end Loop

end Headless

end Parlando
