import Parlando.Proofs.HeadlessDecision

namespace Parlando

namespace Headless

open AgentExperiment

variable {G : Game} {Config Rewards : Type} {code : SessionCode G Config Rewards}
  {plan : SessionPlan Config} {env : Environment G}

namespace Event

def advance (state : Option G.State) : Event G → Option G.State
  | initialized state => some state
  | accepted _ _ next => some next
  | _ => state

def call? (role : PlayerRole) : Event G → Option (Call G)
  | called r call _ => if r = role then some call else none
  | _ => none

def accepted? : Event G → Option (PlayerRole × G.Action × G.State)
  | accepted actor action next => some (actor, action, next)
  | _ => none

def isDelivery : Event G → Bool
  | accepted .. | called _ (.observeTransition ..) _ => true
  | _ => false

def response? : Event G → Option (PlayerRole × Option (AgentResponse G.Action))
  | responded role response => some (role, response)
  | _ => none

def Allowed (code : SessionCode G Config Rewards) (plan : SessionPlan Config)
    (state : Option G.State) : Event G → Prop
  | initialized initial => state = none ∧
    code.initialState plan.gameConfig plan.gameSeed plan.gameSecrets = .ok initial
  | accepted actor action next => ∃ s, state = some s ∧ G.applyAction s action actor = .ok next
  | called role (.start observation) _ => ∃ s, state = some s ∧ observation = G.observation s role
  | called role (.respond affordances) _ =>
    ∃ s, state = some s ∧ affordances = G.availableActions s role
  | called role (.observeMessage sender _) _ =>
    role = otherRole sender ∧ ∃ s, state = some s ∧ G.completion s = none
  | called _ (.finish completion) _ => ∃ s, state = some s ∧ G.completion s = some completion
  | _ => True

end Event

def stateAfter (log : List (Event G)) : Option G.State := log.foldl Event.advance none

/-- Every event is allowed in the state that the events before it have led to. -/
def Lawful (code : SessionCode G Config Rewards) (plan : SessionPlan Config) :
    Option G.State → List (Event G) → Prop
  | _, [] => True
  | state, event :: log => event.Allowed code plan state ∧ Lawful code plan (event.advance state) log

section Projections

variable (log : List (Event G))

/-- The callbacks of one agent. -/
def calls (role : PlayerRole) : List (Call G) := log.filterMap (Event.call? role)

/-- The accepted actions: who acted, how, and what came of it. -/
def acceptedActions : List (PlayerRole × G.Action × G.State) := log.filterMap Event.accepted?

def deliveries : List (Event G) := log.filter Event.isDelivery

def responses : List (PlayerRole × Option (AgentResponse G.Action)) :=
  log.filterMap Event.response?

end Projections

/-- An accepted action that both agents have observed, each in its own view, A before B. -/
def delivered (entry : PlayerRole × G.Action × G.State) : List (Event G) :=
  let (actor, action, next) := entry
  [.accepted actor action next,
    .called .A (.observeTransition actor action (G.observation next .A)) true,
    .called .B (.observeTransition actor action (G.observation next .B)) true]

def interrupted (role : PlayerRole) (entry : PlayerRole × G.Action × G.State) : List (Event G) :=
  let (actor, action, next) := entry
  match role with
  | .A => [.accepted actor action next,
    .called .A (.observeTransition actor action (G.observation next .A)) false]
  | .B => [.accepted actor action next,
    .called .A (.observeTransition actor action (G.observation next .A)) true,
    .called .B (.observeTransition actor action (G.observation next .B)) false]

def TwoYields (responses : List (PlayerRole × Option (AgentResponse G.Action)))
    (last : PlayerRole) : Prop :=
  ∃ earlier, responses = earlier ++ [(otherRole last, none), (last, none)]

/-- Nothing that has happened makes the driver panic. -/
structure Smooth (log : List (Event G)) : Prop where
  traced : ∀ response, .traced response ∈ log → ∃ value, responseJson response = .ok value
  timed : .timed false ∉ log

/-- What a headless session promises about its result and about what has happened in it. -/
structure Contract (code : SessionCode G Config Rewards) (plan : SessionPlan Config)
    (s : Session G Rewards) : Prop where
  limits : s.result.decisions ≤ plan.limits.decisions ∧
    s.result.acceptedActions ≤ plan.limits.acceptedActions ∧
    s.result.rejectedActions ≤ plan.limits.rejectedActions ∧
    s.result.messages ≤ plan.limits.messages
  /-- Only the first callback of an agent may be `start`. -/
  started : ∀ role, ∀ call ∈ (calls s.log role).tail, ∀ observation, call ≠ .start observation
  /-- Messages go to the other role while the game is open; `finish` tells its completion. -/
  lawful : Lawful code plan none s.log
  observed : deliveries s.log = (acceptedActions s.log).flatMap delivered ∨
    ∃ earlier last role, acceptedActions s.log = earlier ++ [last] ∧
      deliveries s.log = earlier.flatMap delivered ++ interrupted role last ∧
      s.result.status = .failed ∧ s.result.failurePhase = some "observe_transition" ∧
      s.result.failureRole = some role
  shutdown : ∀ role, .created role ∈ s.log →
    ∃ others, calls s.log role = others ++ [.shutdown] ∧ .shutdown ∉ others
  absent : ∀ role, .created role ∉ s.log → calls s.log role = []
  completed : s.result.status = .completed ↔ ∃ state completion, stateAfter s.log = some state ∧
    G.completion state = some completion ∧ ∀ role, .called role (.finish completion) true ∈ s.log
  quiescent : s.result.status = .quiescent ↔
    ∃ last, TwoYields (responses s.log) last ∧ capturesTraining plan last = false

section Push

variable {s : Session G Rewards} {event : Event G} {role : PlayerRole}
  {change : SessionResult G Rewards → SessionResult G Rewards}

@[simp] theorem log_push : (s.push event).log = s.log ++ [event] := rfl

@[simp] theorem result_push : (s.push event).result = s.result := rfl

@[simp] theorem log_edit : (s.edit change).log = s.log := rfl

@[simp] theorem result_edit : (s.edit change).result = change s.result := rfl

variable {log : List (Event G)} {state : Option G.State}

@[simp] theorem stateAfter_append : stateAfter (log ++ [event]) = event.advance (stateAfter log) :=
  List.foldl_append ..

@[simp] theorem calls_append :
    calls (log ++ [event]) role = calls log role ++ (event.call? role).toList := by
  simp only [calls, List.filterMap_append]
  cases h : event.call? role <;> simp [h]

@[simp] theorem acceptedActions_append :
    acceptedActions (log ++ [event]) = acceptedActions log ++ event.accepted?.toList := by
  simp only [acceptedActions, List.filterMap_append]
  cases h : event.accepted? <;> simp [h]

@[simp] theorem responses_append :
    responses (log ++ [event]) = responses log ++ event.response?.toList := by
  simp only [responses, List.filterMap_append]
  cases h : event.response? <;> simp [h]

@[simp] theorem deliveries_append : deliveries (log ++ [event]) =
    deliveries log ++ if event.isDelivery then [event] else [] := by
  simp only [deliveries, List.filter_append, List.filter_singleton]
  cases event.isDelivery <;> rfl

theorem lawful_append : Lawful code plan state (log ++ [event]) ↔
    Lawful code plan state log ∧ event.Allowed code plan (log.foldl Event.advance state) := by
  induction log generalizing state with
  | nil => simp [Lawful]
  | cons first log ih => simp only [List.cons_append, Lawful, ih, List.foldl_cons, and_assoc]

theorem mem_tail_append {α : Type} {xs : List α} {x y : α} (h : x ∈ (xs ++ [y]).tail) :
    x ∈ xs.tail ∨ x = y := by
  cases xs with
  | nil => cases h
  | cons _ xs => simpa using h

end Push

namespace Event

/-- The event neither starts nor shuts down an agent, and makes nothing panic. -/
def Ordinary : Event G → Prop
  | called _ (.start _) _ | called _ .shutdown _ => False
  | traced response => ∃ value, responseJson response = .ok value
  | timed representable => representable = true
  | _ => True

/-- The event is ordinary and has nothing to do with accepted actions or the end of the game. -/
def Plain : Event G → Prop
  | called _ (.respond _) _ | called _ (.observeMessage ..) _ | responded .. => True
  | traced response => ∃ value, responseJson response = .ok value
  | timed representable => representable = true
  | _ => False

theorem Plain.ordinary {event : Event G} (plain : event.Plain) : event.Ordinary := by
  unfold Plain at plain
  split at plain <;> first | exact plain | trivial

theorem Plain.advance {event : Event G} (plain : event.Plain) (state : Option G.State) :
    event.advance state = state := by
  unfold Plain at plain
  split at plain <;> first | rfl | exact plain.elim

theorem Plain.accepted {event : Event G} (plain : event.Plain) : event.accepted? = none := by
  unfold Plain at plain
  split at plain <;> first | rfl | exact plain.elim

theorem Plain.delivery {event : Event G} (plain : event.Plain) : event.isDelivery = false := by
  unfold Plain at plain
  split at plain <;> first | rfl | exact plain.elim

end Event

structure Going (code : SessionCode G Config Rewards) (plan : SessionPlan Config)
    (log : List (Event G)) : Prop where
  lawful : Lawful code plan none log
  started : ∀ role, ∀ call ∈ (calls log role).tail, ∀ observation, call ≠ .start observation
  running : ∀ role, .shutdown ∉ calls log role
  created : ∀ role, .created role ∈ log
  smooth : Smooth log

structure At (code : SessionCode G Config Rewards) (plan : SessionPlan Config)
    (log : List (Event G)) (state : G.State) : Prop extends Going code plan log where
  here : stateAfter log = some state
  observed : deliveries log = (acceptedActions log).flatMap delivered
  unfinished : ∀ role completion ok, .called role (.finish completion) ok ∉ log

structure Broken (code : SessionCode G Config Rewards) (plan : SessionPlan Config)
    (log : List (Event G)) (failure : SessionFailure) : Prop extends Going code plan log where
  observed : deliveries log = (acceptedActions log).flatMap delivered ∨
    ∃ earlier last role, acceptedActions log = earlier ++ [last] ∧
      deliveries log = earlier.flatMap delivered ++ interrupted role last ∧
      failure.phase = "observe_transition" ∧ failure.role = some role
  unfinished : ∀ completion, ¬ ∀ role, .called role (.finish completion) true ∈ log

section Growth

variable {log : List (Event G)} {event : Event G} {state next : G.State} {role actor : PlayerRole}
  {action : G.Action} {failure : SessionFailure}

theorem Smooth.append (smooth : Smooth log) (ordinary : event.Ordinary) :
    Smooth (log ++ [event]) where
  traced response mem := by
    rcases List.mem_append.mp mem with old | new
    · exact smooth.traced response old
    · cases List.mem_singleton.mp new
      exact ordinary
  timed mem := by
    rcases List.mem_append.mp mem with old | new
    · exact smooth.timed old
    · cases List.mem_singleton.mp new
      cases ordinary

/-- An ordinary event calls an agent, if any, with an ordinary callback. -/
theorem Event.Ordinary.call (ordinary : event.Ordinary) {call : Call G}
    (mem : call ∈ (event.call? role).toList) :
    (∀ observation, call ≠ .start observation) ∧ call ≠ .shutdown := by
  cases event with
  | called r c ok =>
    simp only [call?] at mem
    split at mem
    · cases List.mem_singleton.mp mem
      cases call <;> first | exact ordinary.elim | exact ⟨nofun, nofun⟩
    · cases mem
  | _ => cases mem

theorem Going.append (going : Going code plan log)
    (allowed : event.Allowed code plan (stateAfter log)) (ordinary : event.Ordinary) :
    Going code plan (log ++ [event]) where
  lawful := lawful_append.mpr ⟨going.lawful, allowed⟩
  started role call mem := by
    rw [calls_append] at mem
    cases called : event.call? role with
    | none =>
      rw [called, Option.toList_none, List.append_nil] at mem
      exact going.started role call mem
    | some c =>
      rw [called] at mem
      rcases mem_tail_append mem with old | rfl
      · exact going.started role call old
      · have new : call ∈ (event.call? role).toList := called ▸ List.mem_singleton_self _
        exact (ordinary.call new).1
  running role mem := by
    rw [calls_append] at mem
    rcases List.mem_append.mp mem with old | new
    · exact going.running role old
    · exact (ordinary.call new).2 rfl
  created role := List.mem_append_left _ (going.created role)
  smooth := going.smooth.append ordinary

theorem At.plain (at_ : At code plan log state) (plain : event.Plain)
    (allowed : event.Allowed code plan (some state)) : At code plan (log ++ [event]) state where
  toGoing := at_.toGoing.append (at_.here ▸ allowed) plain.ordinary
  here := by rw [stateAfter_append, plain.advance, at_.here]
  observed := by simp [plain.accepted, plain.delivery, at_.observed]
  unfinished role completion ok mem := by
    rcases List.mem_append.mp mem with old | new
    · exact at_.unfinished role completion ok old
    · cases List.mem_singleton.mp new
      exact plain

theorem At.asked (at_ : At code plan log state) (role : PlayerRole) (ok : Bool) :
    At code plan (log ++ [.called role (.respond (G.availableActions state role)) ok]) state :=
  at_.plain trivial ⟨state, rfl, rfl⟩

theorem At.broken (at_ : At code plan log state) (failure : SessionFailure) :
    Broken code plan log failure where
  toGoing := at_.toGoing
  observed := .inl at_.observed
  unfinished completion finished := at_.unfinished .A completion true (finished .A)

theorem Going.observing (going : Going code plan log) (observation : G.Observation) (ok : Bool) :
    Going code plan (log ++ [.called role (.observeTransition actor action observation) ok]) :=
  going.append trivial trivial

theorem At.accepting (at_ : At code plan log state)
    (legal : G.applyAction state action actor = .ok next) :
    Going code plan (log ++ [.accepted actor action next]) :=
  at_.toGoing.append ⟨state, at_.here, legal⟩ trivial

/-- An accepted action and its deliveries to both agents. -/
theorem At.transitioned (at_ : At code plan log state)
    (legal : G.applyAction state action actor = .ok next) :
    At code plan (log ++ [.accepted actor action next] ++
      [.called .A (.observeTransition actor action (G.observation next .A)) true] ++
      [.called .B (.observeTransition actor action (G.observation next .B)) true]) next where
  toGoing := ((at_.accepting legal).observing _ _).observing _ _
  here := by simp only [stateAfter_append, Event.advance]
  observed := by
    simp only [deliveries_append, acceptedActions_append, at_.observed, Event.isDelivery,
      Event.accepted?, List.flatMap_append, if_true, Option.toList_some, Option.toList_none,
      List.append_nil]
    rw [List.append_assoc, List.append_assoc]
    rfl
  unfinished role completion ok mem := by
    have old : .called role (.finish completion) ok ∈ log := by simpa using mem
    exact at_.unfinished role completion ok old

/-- An accepted action that the first agent fails to observe. -/
theorem At.interruptedA (at_ : At code plan log state)
    (legal : G.applyAction state action actor = .ok next) (error : String) :
    Broken code plan (log ++ [.accepted actor action next] ++
      [.called .A (.observeTransition actor action (G.observation next .A)) false])
      ⟨"observe_transition", some .A, error⟩ where
  toGoing := (at_.accepting legal).observing _ _
  observed := by
    refine .inr ⟨acceptedActions log, (actor, action, next), .A, ?_, ?_, rfl, rfl⟩
    · simp only [acceptedActions_append, Event.accepted?, Option.toList_some, Option.toList_none,
        List.append_nil]
    · simp only [deliveries_append, at_.observed, Event.isDelivery, if_true]
      rw [List.append_assoc]
      rfl
  unfinished completion finished := by
    have old : .called .A (.finish completion) true ∈ log := by simpa using finished .A
    exact at_.unfinished .A completion true old

/-- An accepted action that only the first agent observes. -/
theorem At.interruptedB (at_ : At code plan log state)
    (legal : G.applyAction state action actor = .ok next) (error : String) :
    Broken code plan (log ++ [.accepted actor action next] ++
      [.called .A (.observeTransition actor action (G.observation next .A)) true] ++
      [.called .B (.observeTransition actor action (G.observation next .B)) false])
      ⟨"observe_transition", some .B, error⟩ where
  toGoing := ((at_.accepting legal).observing _ _).observing _ _
  observed := by
    refine .inr ⟨acceptedActions log, (actor, action, next), .B, ?_, ?_, rfl, rfl⟩
    · simp only [acceptedActions_append, Event.accepted?, Option.toList_some, Option.toList_none,
        List.append_nil]
    · simp only [deliveries_append, at_.observed, Event.isDelivery, if_true]
      rw [List.append_assoc, List.append_assoc]
      rfl
  unfinished completion finished := by
    have old : .called .A (.finish completion) true ∈ log := by simpa using finished .A
    exact at_.unfinished .A completion true old

end Growth

/-- The result keeps to the limits. -/
structure Within (limits : SessionLimits) (result : SessionResult G Rewards) : Prop where
  decisions : result.decisions ≤ limits.decisions
  accepted : result.acceptedActions ≤ limits.acceptedActions
  rejected : result.rejectedActions ≤ limits.rejectedActions
  messages : result.messages ≤ limits.messages

/-- One more action or rejection and one more message keep to the limits. -/
structure Room (limits : SessionLimits) (result : SessionResult G Rewards) : Prop where
  decisions : result.decisions ≤ limits.decisions
  accepted : result.acceptedActions < limits.acceptedActions
  rejected : result.rejectedActions < limits.rejectedActions
  messages : result.messages < limits.messages

theorem Room.within {limits : SessionLimits} {result : SessionResult G Rewards}
    (room : Room limits result) : Within limits result :=
  ⟨room.decisions, Nat.le_of_lt room.accepted, Nat.le_of_lt room.rejected,
    Nat.le_of_lt room.messages⟩

structure SameCounters (result other : SessionResult G Rewards) : Prop where
  decisions : other.decisions = result.decisions
  accepted : other.acceptedActions = result.acceptedActions
  rejected : other.rejectedActions = result.rejectedActions
  messages : other.messages = result.messages

theorem Within.congr {limits : SessionLimits} {result other : SessionResult G Rewards}
    (within : Within limits result) (same : SameCounters result other) : Within limits other :=
  ⟨same.decisions ▸ within.decisions, same.accepted ▸ within.accepted,
    same.rejected ▸ within.rejected, same.messages ▸ within.messages⟩

theorem Room.congr {limits : SessionLimits} {result other : SessionResult G Rewards}
    (room : Room limits result) (same : SameCounters result other) : Room limits other :=
  ⟨same.decisions ▸ room.decisions, same.accepted ▸ room.accepted,
    same.rejected ▸ room.rejected, same.messages ▸ room.messages⟩

section Decision

variable {s t : Session G Rewards} {state next : G.State} {role : PlayerRole}
  {action : G.Action} {input : Option DecisionInput} {outcome : TrajectoryOutcome G}
  {response : Option (AgentResponse G.Action)} {rejection : Option ActionRejection}
  {completed : Option G.Completion} {failure : SessionFailure} {limits : SessionLimits}

/-- Recording a transition changes neither the log nor the counters. -/
theorem Recorded.frame (recorded : Recorded code plan s next role action outcome input t) :
    t.log = s.log ∧ SameCounters s.result t.result := by
  cases recorded <;> exact ⟨rfl, rfl, rfl, rfl, rfl⟩

theorem responses_accepting (action : G.Action) (next : G.State) :
    responses (s.accepting role action next).log = responses s.log := by
  simp only [Session.accepting, log_push, log_edit, responses_append, Event.response?,
    Option.toList_none, List.append_nil]

theorem responses_observing (actor : PlayerRole) (action : G.Action) (next : G.State) (ok : Bool) :
    responses (s.observing role actor action next ok).log = responses s.log := by
  simp only [Session.observing, log_push, responses_append, Event.response?, Option.toList_none,
    List.append_nil]

theorem responses_transitioned (action : G.Action) (next : G.State) :
    responses (s.transitioned role action next).log = responses s.log := by
  rw [Session.transitioned, responses_observing, responses_observing, responses_accepting]

theorem responses_answered (affordances : Option (List G.Action))
    (response : Option (AgentResponse G.Action)) :
    responses (s.answered role affordances response).log =
      responses s.log ++ [(role, response)] := by
  simp only [Session.answered, log_push, responses_append, Event.response?, Option.toList_none,
    Option.toList_some, List.append_nil]

theorem At.answered (at_ : At code plan s.log state) (role : PlayerRole)
    (response : Option (AgentResponse G.Action)) :
    At code plan (s.counted.answered role (G.availableActions state role) response).log state :=
  (at_.asked role true).plain trivial trivial

theorem At.told (at_ : At code plan s.log state) (playing : G.completion state = none)
    (sender : PlayerRole) (text : String) : At code plan (s.told sender text).log state :=
  at_.plain trivial ⟨rfl, state, rfl, playing⟩

theorem Applied.at_
    (applied : Applied code plan s state role input response rejection completed next t)
    (at_ : At code plan s.log state) (playing : G.completion state = none) :
    At code plan t.log next ∧ completed = G.completion next ∧
      responses t.log = responses s.log := by
  cases applied with
  | yielded => exact ⟨at_, playing.symm, rfl⟩
  | message text =>
    exact ⟨at_.told playing role text, playing.symm, by
      simp [Session.told, Event.response?]⟩
  | rejected proposed illegal recorded =>
    have same : t.log = s.log := recorded.frame.1
    exact ⟨same ▸ at_, playing.symm, congrArg responses same⟩
  | @accepted response action next t' _ proposed legal recorded told =>
    have moved : At code plan t'.log next := recorded.frame.1 ▸ at_.transitioned legal
    have silent : responses t'.log = responses s.log := by
      rw [recorded.frame.1, responses_transitioned]
    generalize completes : G.completion next = completed' at told
    generalize response.message? = text at told
    cases told with
    | silent off => exact ⟨moved, rfl, silent⟩
    | message text =>
      refine ⟨moved.told completes role text, rfl, ?_⟩
      rw [← silent]
      simp [Session.told, Event.response?]

theorem Told.counters {text : Option String} (told : Told s role completed text t) :
    t.result.decisions = s.result.decisions ∧
      t.result.acceptedActions = s.result.acceptedActions ∧
      t.result.rejectedActions = s.result.rejectedActions ∧
      t.result.messages ≤ s.result.messages + 1 := by
  cases told with
  | silent => exact ⟨rfl, rfl, rfl, Nat.le_succ _⟩
  | message => exact ⟨rfl, rfl, rfl, Nat.le_refl _⟩

theorem Applied.within
    (applied : Applied code plan s state role input response rejection completed next t)
    (room : Room limits s.result) : Within limits t.result := by
  obtain ⟨decisions, accepted, rejected, messages⟩ := room
  cases applied with
  | yielded => exact Room.within ⟨decisions, accepted, rejected, messages⟩
  | message text => exact ⟨decisions, Nat.le_of_lt accepted, Nat.le_of_lt rejected, messages⟩
  | rejected proposed illegal recorded =>
    have refused : Within limits s.refused.result :=
      ⟨decisions, Nat.le_of_lt accepted, rejected, Nat.le_of_lt messages⟩
    exact refused.congr recorded.frame.2
  | accepted proposed legal recorded told =>
    obtain ⟨sameD, sameA, sameR, sameM⟩ := recorded.frame.2
    obtain ⟨toldD, toldA, toldR, toldM⟩ := told.counters
    exact ⟨toldD.trans sameD ▸ decisions, toldA.trans sameA ▸ accepted,
      toldR.trans sameR ▸ Nat.le_of_lt rejected, Nat.le_trans (sameM ▸ toldM) messages⟩

theorem ApplyFails.within {response : AgentResponse G.Action}
    (fails : ApplyFails code plan s state role input response failure t)
    (room : Room limits s.result) : Within limits t.result := by
  have within := room.within
  cases fails with
  | message => exact within
  | rejected => exact { within with rejected := room.rejected }
  | observeA | observeB | accepted => exact { within with accepted := room.accepted }
  | @told _ action next _ text error proposed legal playing recorded =>
    have accepting : Within limits (s.transitioned role action next).result :=
      { within with accepted := room.accepted }
    exact accepting.congr recorded.frame.2

theorem At.refusedMessage {log : List (Event G)} (at_ : At code plan log state)
    (playing : G.completion state = none) (sender : PlayerRole) (text : String) :
    At code plan (log ++ [.called (otherRole sender) (.observeMessage sender text) false]) state :=
  at_.plain trivial ⟨rfl, state, rfl, playing⟩

theorem ApplyFails.broken {response : AgentResponse G.Action}
    (fails : ApplyFails code plan s state role input response failure t)
    (at_ : At code plan s.log state) (playing : G.completion state = none) :
    Broken code plan t.log failure ∧ responses t.log = responses s.log := by
  cases fails with
  | message text error =>
    exact ⟨(at_.refusedMessage playing role text).broken _, by simp [Event.response?]⟩
  | rejected error => exact ⟨at_.broken _, rfl⟩
  | observeA error legal =>
    exact ⟨at_.interruptedA legal error, by rw [responses_observing, responses_accepting]⟩
  | observeB error legal =>
    refine ⟨at_.interruptedB legal error, ?_⟩
    rw [responses_observing, responses_observing, responses_accepting]
  | accepted error legal =>
    exact ⟨(at_.transitioned legal).broken _, responses_transitioned _ _⟩
  | @told response action next t text error proposed legal open_ recorded =>
    have moved : At code plan t.log next := recorded.frame.1 ▸ at_.transitioned legal
    refine ⟨(moved.refusedMessage open_ role text).broken _, ?_⟩
    rw [log_push, responses_append, recorded.frame.1, responses_transitioned]
    exact List.append_nil _

theorem Applied.decisions
    (applied : Applied code plan s state role input response rejection completed next t) :
    t.result.decisions = s.result.decisions := by
  cases applied with
  | yielded | message => rfl
  | rejected proposed illegal recorded => exact recorded.frame.2.decisions
  | accepted proposed legal recorded told =>
    exact told.counters.1.trans recorded.frame.2.decisions

theorem Traced.counters (traced : Traced s response t) : SameCounters s.result t.result := by
  cases traced <;> exact ⟨rfl, rfl, rfl, rfl⟩

theorem Traced.at_ (traced : Traced s response t) (at_ : At code plan s.log state) :
    At code plan t.log state ∧ responses t.log = responses s.log := by
  cases traced with
  | off => exact ⟨at_, rfl⟩
  | entry trace shown =>
    have plain : (Event.traced response).Plain := ⟨_, shown⟩
    exact ⟨at_.plain plain trivial, by simp [Event.response?]⟩

structure Turned (code : SessionCode G Config Rewards) (plan : SessionPlan Config)
    (s : Session G Rewards) (role : PlayerRole) (response : Option (AgentResponse G.Action))
    (completed : Option G.Completion) (next : G.State) (t : Session G Rewards) : Prop
    extends At code plan t.log next where
  completes : completed = G.completion next
  responses : responses t.log = Headless.responses s.log ++ [(role, response)]
  within : Within plan.limits t.result
  decisions : t.result.decisions = s.result.decisions + 1
  /-- A learner does not yield, and a yield changes nothing but the number of decisions. -/
  yields : response = none → capturesTraining plan role = false ∧ completed = none ∧
    Room plan.limits t.result

theorem Decided.turned
    (decided : Decided code plan s state role response rejection completed next t)
    (at_ : At code plan s.log state) (playing : G.completion state = none)
    (room : Room plan.limits s.result) (more : s.result.decisions < plan.limits.decisions) :
    Turned code plan s role response completed next t := by
  obtain @⟨input, u, _, learner, other, applied, traced⟩ := decided
  have asked : Room plan.limits
      (s.counted.answered role (G.availableActions state role) response).result :=
    ⟨more, room.accepted, room.rejected, room.messages⟩
  obtain ⟨at_u, completes, silent⟩ := applied.at_ (at_.answered role response) playing
  obtain ⟨at_t, silent'⟩ := traced.at_ at_u
  refine ⟨at_t, completes, ?_, (applied.within asked).congr traced.counters, ?_, ?_⟩
  · rw [silent', silent, responses_answered]
    rfl
  · exact traced.counters.decisions.trans applied.decisions
  · rintro rfl
    refine ⟨?_, ?_⟩
    · cases captures : capturesTraining plan role with
      | false => rfl
      | true =>
        obtain ⟨_, _, _, _, acts⟩ := learner captures
        cases acts
    · cases applied
      exact ⟨rfl, asked.congr traced.counters⟩

def Halted (code : SessionCode G Config Rewards) (plan : SessionPlan Config) :
    Stop → Session G Rewards → Prop
  | .failure failure, s => Broken code plan s.log failure ∧ Within plan.limits s.result ∧
    ∀ last, TwoYields (responses s.log) last → capturesTraining plan last = true
  | .panic, s => ¬ Smooth s.log ∧ (∀ role, .created role ∈ s.log) ∧
    ∀ role, .shutdown ∉ calls s.log role

theorem twoYields_last {earlier : List (PlayerRole × Option (AgentResponse G.Action))}
    {last : PlayerRole} (two : TwoYields (earlier ++ [(role, response)]) last) :
    last = role ∧ response = none ∧ ∃ before, earlier = before ++ [(otherRole role, none)] := by
  obtain ⟨before, same⟩ := two
  rw [show [(otherRole last, none), (last, none)] = [(otherRole last, none)] ++
    [((last, none) : PlayerRole × Option (AgentResponse G.Action))] from rfl,
    ← List.append_assoc] at same
  obtain ⟨start, last_⟩ := List.append_inj' same rfl
  cases last_
  exact ⟨rfl, rfl, before, start⟩

theorem DecideStops.halted {stop : Stop} (stops : DecideStops code plan s state role stop t)
    (at_ : At code plan s.log state) (playing : G.completion state = none)
    (room : Room plan.limits s.result) (more : s.result.decisions < plan.limits.decisions)
    (restless : ∀ last, ¬ TwoYields (responses s.log) last) : Halted code plan stop t := by
  have asked : Room plan.limits s.counted.result :=
    ⟨more, room.accepted, room.rejected, room.messages⟩
  cases stops with
  | input phase error =>
    exact ⟨at_.broken _, asked.within, fun last two => absurd two (restless last)⟩
  | respond error =>
    refine ⟨(at_.asked role false).broken _, asked.within, fun last two => ?_⟩
    refine absurd ?_ (restless last)
    simpa [Session.counted, Event.response?] using two
  | training error captures =>
    refine ⟨(at_.answered role _).broken _, asked.within, fun last two => ?_⟩
    rw [responses_answered] at two
    exact (twoYields_last two).1 ▸ captures
  | apply fails =>
    obtain ⟨broken, silent⟩ := fails.broken (at_.answered role _) playing
    refine ⟨broken, fails.within ⟨asked.decisions, asked.accepted, asked.rejected, asked.messages⟩,
      fun last two => ?_⟩
    rw [silent, responses_answered] at two
    cases (twoYields_last two).2.1
  | @panic response _ _ _ _ t error applied unserializable =>
    obtain ⟨at_t, -, -⟩ := applied.at_ (at_.answered role _) playing
    refine ⟨fun smooth => ?_, fun r => List.mem_append_left _ (at_t.created r), fun r => ?_⟩
    · obtain ⟨value, shown⟩ :=
        smooth.traced response (List.mem_append_right _ (List.mem_singleton_self _))
      cases unserializable.symm.trans shown
    · simpa [Event.call?] using at_t.running r

end Decision

/-- A schedule that ends a session after two yields in a row, the first of which it remembers. -/
structure Alternates (schedule : AgentSchedule G)
    (previousYield : schedule.State → Option PlayerRole) : Prop where
  create : ∀ first parameters st, schedule.create first parameters = .ok st →
    previousYield (schedule.first st).2 = none
  ends : ∀ st role response rejection after,
    schedule.next st role response rejection = (none, after) →
    response = none ∧ previousYield st = some (otherRole role)
  yields : ∀ st role rejection role' after,
    schedule.next st role none rejection = (some role', after) →
    previousYield st ≠ some (otherRole role) ∧ previousYield after = some role
  speaks : ∀ st role response rejection role' after,
    schedule.next st role (some response) rejection = (some role', after) →
    previousYield after = none

theorem Alternation.create_fresh {first : PlayerRole} {parameters : JsonValue} {st : Alternation}
    (h : Alternation.create first parameters = .ok st) : st.previousYield = none := by
  unfold Alternation.create at h
  cases checked : requireEmptyParameters parameters <;> rw [checked] at h <;> cases h
  rfl

theorem Alternation.yield_cases {st after : Alternation} {role : PlayerRole}
    {next : Option PlayerRole} (h : st.yield role = (next, after)) :
    (next = none ∧ st.previousYield = some (otherRole role)) ∨
      (next ≠ none ∧ st.previousYield ≠ some (otherRole role) ∧
        after.previousYield = some role) := by
  unfold Alternation.yield at h
  split at h <;> cases h
  · exact .inl ⟨rfl, ‹_›⟩
  · exact .inr ⟨nofun, ‹_›, rfl⟩

theorem alternateEveryResponse_alternates :
    Alternates (alternateEveryResponse G) Alternation.previousYield where
  create _ _ _ h := Alternation.create_fresh h
  ends st role response rejection after h := by
    cases response with
    | none =>
      rcases Alternation.yield_cases h with ⟨-, previous⟩ | ⟨goes, -⟩
      · exact ⟨rfl, previous⟩
      · exact absurd rfl goes
    | some response => cases h
  yields st role rejection role' after h := by
    rcases Alternation.yield_cases h with ⟨ends, -⟩ | ⟨-, yields⟩
    · cases ends
    · exact yields
  speaks st role response rejection role' after h := by
    cases h
    rfl

theorem alternateAfterAction_alternates :
    Alternates (alternateAfterAction G) Alternation.previousYield where
  create _ _ _ h := Alternation.create_fresh h
  ends st role response rejection after h := by
    cases response with
    | none =>
      rcases Alternation.yield_cases h with ⟨-, previous⟩ | ⟨goes, -⟩
      · exact ⟨rfl, previous⟩
      · exact absurd rfl goes
    | some response => cases response <;> cases h
  yields st role rejection role' after h := by
    rcases Alternation.yield_cases h with ⟨ends, -⟩ | ⟨-, yields⟩
    · cases ends
    · exact yields
  speaks st role response rejection role' after h := by
    cases response <;> cases h <;> rfl

def lastYield (responses : List (PlayerRole × Option (AgentResponse G.Action))) :
    Option PlayerRole :=
  match responses.getLast? with
  | some (role, none) => some role
  | _ => none

theorem lastYield_append {earlier : List (PlayerRole × Option (AgentResponse G.Action))}
    {role : PlayerRole} {response : Option (AgentResponse G.Action)} :
    lastYield (earlier ++ [(role, response)]) = if response.isNone then some role else none := by
  unfold lastYield
  rw [List.getLast?_concat]
  cases response <;> rfl

theorem lastYield_some {responses : List (PlayerRole × Option (AgentResponse G.Action))}
    {role : PlayerRole} (h : lastYield responses = some role) :
    ∃ earlier, responses = earlier ++ [(role, none)] := by
  unfold lastYield at h
  split at h
  · rename_i last
    cases h
    obtain ⟨earlier, same⟩ := List.getLast?_eq_some_iff.mp last
    exact ⟨earlier, same⟩
  · cases h

structure Turn (code : SessionCode G Config Rewards) (plan : SessionPlan Config)
    (previousYield : code.schedule.State → Option PlayerRole) (remaining : Nat) (state : G.State)
    (schedule : code.schedule.State) (s : Session G Rewards) : Prop
    extends At code plan s.log state where
  playing : G.completion state = none
  room : Room plan.limits s.result
  decisions : s.result.decisions + remaining = plan.limits.decisions
  yields : previousYield schedule = lastYield (responses s.log)
  restless : ∀ last, ¬ TwoYields (responses s.log) last

def Completed (log : List (Event G)) : Prop :=
  ∃ state completion, stateAfter log = some state ∧ G.completion state = some completion ∧
    ∀ role, .called role (.finish completion) true ∈ log

structure Driven (code : SessionCode G Config Rewards) (plan : SessionPlan Config)
    (status : SessionStatus) (s : Session G Rewards) : Prop extends Going code plan s.log where
  within : Within plan.limits s.result
  observed : deliveries s.log = (acceptedActions s.log).flatMap delivered
  completed : status = .completed ↔ Completed s.log
  quiescent : status = .quiescent ↔
    ∃ last, TwoYields (responses s.log) last ∧ capturesTraining plan last = false

section Loop

variable {s t : Session G Rewards} {state next : G.State} {role : PlayerRole}
  {response : Option (AgentResponse G.Action)} {rejection : Option ActionRejection}
  {completed : Option G.Completion} {completion : G.Completion} {remaining : Nat}
  {previousYield : code.schedule.State → Option PlayerRole} {schedule : code.schedule.State}

/-- The end of a loop whose last response is no second yield. -/
theorem At.driven {status : SessionStatus} (at_ : At code plan s.log state)
    (within : Within plan.limits s.result) (unfinished : status ≠ .completed)
    (loud : status ≠ .quiescent)
    (restless : ∀ last, TwoYields (responses s.log) last → capturesTraining plan last = true) :
    Driven code plan status s where
  toGoing := at_.toGoing
  within := within
  observed := at_.observed
  completed := by
    refine iff_of_false unfinished ?_
    rintro ⟨_, completion, -, -, finished⟩
    exact at_.unfinished .A completion true (finished .A)
  quiescent := by
    refine iff_of_false loud ?_
    rintro ⟨last, two, plain⟩
    cases plain.symm.trans (restless last two)

structure Closing (code : SessionCode G Config Rewards) (plan : SessionPlan Config)
    (log : List (Event G)) (state : G.State) : Prop extends Going code plan log where
  here : stateAfter log = some state
  observed : deliveries log = (acceptedActions log).flatMap delivered
  restless : ∀ last, TwoYields (responses log) last → capturesTraining plan last = true

theorem Closing.finishing {log : List (Event G)} (closing : Closing code plan log state)
    (completes : G.completion state = some completion) (role : PlayerRole) (ok : Bool) :
    Closing code plan (log ++ [.called role (.finish completion) ok]) state where
  toGoing := closing.toGoing.append ⟨state, closing.here, completes⟩ trivial
  here := stateAfter_append.trans closing.here
  observed := by
    rw [deliveries_append, acceptedActions_append]
    exact (List.append_nil _).trans
      (closing.observed.trans (congrArg _ (List.append_nil _).symm))
  restless last two := by
    exact closing.restless last (by simpa [Event.response?] using two)

/-- One of the agents cannot be told about the completion. -/
theorem Closing.halted {log : List (Event G)} {failure : SessionFailure}
    (closing : Closing code plan log state) (within : Within plan.limits t.result)
    (same : t.log = log) (unfinished : ∀ completion, .called .B (.finish completion) true ∉ log) :
    Halted code plan (.failure failure) t := by
  subst same
  exact ⟨⟨closing.toGoing, .inl closing.observed, fun completion finished =>
    unfinished completion (finished .B)⟩, within, closing.restless⟩

/-- The game is over: both agents finish, or one of them fails to. -/
theorem At.finishes (at_ : At code plan s.log state) (completes : G.completion state = some completion)
    (within : Within plan.limits s.result)
    (restless : ∀ last, TwoYields (responses s.log) last → capturesTraining plan last = true) :
    Finishes (fun outcome t => Driven code plan outcome.status t) (Halted code plan) s
      completion := by
  have closing : Closing code plan s.log state :=
    ⟨at_.toGoing, at_.here, at_.observed, restless⟩
  refine ⟨?_, fun error => ?_, fun error => ?_⟩
  · have closed := (closing.finishing completes .A true).finishing completes .B true
    refine ⟨closed.toGoing, within, closed.observed, ?_, ?_⟩
    · refine iff_of_true rfl ⟨state, completion, closed.here, completes, fun role => ?_⟩
      cases role <;> simp [Session.finished]
    · refine iff_of_false nofun ?_
      rintro ⟨last, two, plain⟩
      cases plain.symm.trans (closed.restless last two)
  · refine (closing.finishing completes .A false).halted within rfl fun completion' finished => ?_
    have old : .called .B (.finish completion') true ∈ s.log := by simpa using finished
    exact at_.unfinished .B completion' true old
  · refine ((closing.finishing completes .A true).finishing completes .B false).halted within rfl
      fun completion' finished => ?_
    have old : .called .B (.finish completion') true ∈ s.log := by simpa using finished
    exact at_.unfinished .B completion' true old

/-- After a decision the loop ends as it should or goes on. -/
theorem Turn.continues (alternates : Alternates code.schedule previousYield)
    (turn : Turn code plan previousYield (remaining + 1) state schedule s)
    (decided : Decided code plan s state role response rejection completed next t) :
    Continues code plan (fun outcome t => Driven code plan outcome.status t) (Halted code plan)
      (fun n next _ schedule t => Turn code plan previousYield n next schedule t)
      remaining role schedule response rejection completed next t := by
  have more : s.result.decisions < plan.limits.decisions := by
    have := turn.decisions
    omega
  have turned := decided.turned turn.toAt turn.playing turn.room more
  have two_last (last : PlayerRole) (two : TwoYields (responses t.log) last) :
      last = role ∧ response = none ∧ lastYield (responses s.log) = some (otherRole role) := by
    rw [turned.responses] at two
    obtain ⟨same, silent, before, earlier⟩ := twoYields_last two
    exact ⟨same, silent, by rw [earlier, lastYield_append]; rfl⟩
  have limited {status : SessionStatus} (unfinished : status ≠ .completed)
      (loud : status ≠ .quiescent) (full : response = none → False) :
      Driven code plan status t :=
    turned.toAt.driven turned.within unfinished loud fun last two =>
      (full (two_last last two).2.1).elim
  refine ⟨fun completion completes => ?_, fun _ full => ?_, fun _ full => ?_, fun _ full => ?_,
    fun after completes ends => ?_, fun role' after completes roomA roomM roomR goes => ?_⟩
  · refine turned.toAt.finishes (turned.completes.symm.trans completes) turned.within ?_
    intro last two
    obtain ⟨-, silent, -⟩ := two_last last two
    cases completes.symm.trans (turned.yields silent).2.1
  · exact limited nofun nofun fun silent =>
      absurd (turned.yields silent).2.2.accepted (Nat.not_lt.mpr full)
  · exact limited nofun nofun fun silent =>
      absurd (turned.yields silent).2.2.messages (Nat.not_lt.mpr full)
  · exact limited nofun nofun fun silent =>
      absurd (turned.yields silent).2.2.rejected (Nat.not_lt.mpr full)
  · obtain ⟨silent, previous⟩ := alternates.ends _ _ _ _ _ ends
    obtain ⟨earlier, before⟩ := lastYield_some (turn.yields.symm.trans previous)
    refine ⟨turned.toGoing, turned.within, turned.observed, iff_of_false nofun ?_,
      iff_of_true rfl ⟨role, ⟨earlier, ?_⟩, (turned.yields silent).1⟩⟩
    · rintro ⟨_, completion, -, -, finished⟩
      exact turned.unfinished .A completion true (finished .A)
    · rw [turned.responses, before, silent, List.append_assoc]
      rfl
  · refine ⟨turned.toAt, turned.completes.symm.trans completes,
      ⟨turned.within.decisions, roomA, roomR, roomM⟩, ?_, ?_, fun last two => ?_⟩
    · have := turn.decisions
      have := turned.decisions
      omega
    · rw [turned.responses, lastYield_append]
      cases response with
      | none => exact (alternates.yields _ _ _ _ _ goes).2
      | some response => exact alternates.speaks _ _ _ _ _ _ goes
    · obtain ⟨-, rfl, previous⟩ := two_last last two
      exact (alternates.yields _ _ _ _ _ goes).1 (turn.yields.trans previous)

/-- The loop keeps its promises, whatever the agents do. -/
theorem Turn.driven (alternates : Alternates code.schedule previousYield)
    (turn : Turn code plan previousYield remaining state schedule s) :
    Meets (decisionLoop code plan env remaining state role schedule) s
      (fun outcome t => Driven code plan outcome.status t) (Halted code plan) := by
  have idle {n : Nat} {state : G.State} {schedule : code.schedule.State} {s : Session G Rewards}
      {status : SessionStatus} (turn : Turn code plan previousYield n state schedule s)
      (unfinished : status ≠ .completed) (loud : status ≠ .quiescent) :
      Driven code plan status s :=
    turn.toAt.driven turn.room.within unfinished loud fun last two =>
      absurd two (turn.restless last)
  refine decisionLoop_meets
    (fun _ _ _ _ s turn => show Driven code plan .deadline s from idle turn nofun nofun)
    (fun _ _ _ s turn => show Driven code plan .decisionLimit s from idle turn nofun nofun)
    (fun n state role schedule s stop t turn stops => ?_)
    (fun n state role schedule s response rejection completed next t turn decided =>
      turn.continues alternates decided) turn
  have more : s.result.decisions < plan.limits.decisions := by
    have := turn.decisions
    omega
  exact stops.halted turn.toAt turn.playing turn.room more turn.restless

end Loop

theorem positive_of_validate {limits : SessionLimits} (valid : limits.validate = .ok ()) :
    0 < limits.acceptedActions ∧ 0 < limits.rejectedActions ∧ 0 < limits.messages := by
  unfold SessionLimits.validate at valid
  split at valid
  · cases valid
  · rename_i positive
    simp only [Bool.or_eq_true, decide_eq_true_eq, not_or] at positive
    omega

section Run

variable {s t : Session G Rewards} {state : G.State}
  {previousYield : code.schedule.State → Option PlayerRole}

def initialLog (state : G.State) : List (Event G) :=
  [.created .A, .created .B, .initialized state]

theorem Going.initial
    (initial : code.initialState plan.gameConfig plan.gameSeed plan.gameSecrets = .ok state) :
    Going code plan (initialLog state) where
  lawful := ⟨trivial, trivial, ⟨rfl, initial⟩, trivial⟩
  started role call mem := by cases mem
  running role mem := by cases mem
  created role := by cases role <;> simp [initialLog]
  smooth := ⟨by simp [initialLog], by simp [initialLog]⟩

/-- An agent that has not been called is started with its own view of the state. -/
theorem Going.start {log : List (Event G)} (going : Going code plan log) (role : PlayerRole)
    (here : stateAfter log = some state) (fresh : calls log role = []) (ok : Bool) :
    Going code plan (log ++ [.called role (.start (G.observation state role)) ok]) where
  lawful := lawful_append.mpr ⟨going.lawful, state, here, rfl⟩
  started r call mem := by
    rw [calls_append] at mem
    by_cases same : role = r
    · subst same
      rw [fresh] at mem
      simp [Event.call?] at mem
    · simp only [Event.call?, if_neg same, Option.toList_none, List.append_nil] at mem
      exact going.started r call mem
  running r mem := by
    rw [calls_append] at mem
    rcases List.mem_append.mp mem with old | new
    · exact going.running r old
    · simp [Event.call?, Option.mem_toList] at new
  created r := List.mem_append_left _ (going.created r)
  smooth := by
    refine ⟨fun response mem => ?_, fun mem => ?_⟩
    · rcases List.mem_append.mp mem with old | new
      · exact going.smooth.traced response old
      · cases List.mem_singleton.mp new
    · rcases List.mem_append.mp mem with old | new
      · exact going.smooth.timed old
      · cases List.mem_singleton.mp new

theorem At.afterStart
    (initial : code.initialState plan.gameConfig plan.gameSeed plan.gameSecrets = .ok state) :
    At code plan (initialLog state ++ [.called .A (.start (G.observation state .A)) true] ++
      [.called .B (.start (G.observation state .B)) true]) state where
  toGoing := ((Going.initial initial).start .A rfl rfl true).start .B rfl rfl true
  here := rfl
  observed := rfl
  unfinished role completion ok mem := by simp [initialLog] at mem

/-- What holds from the start of the agents until the first of them has answered. -/
theorem Going.unstarted {failure : SessionFailure} (going : Going code plan s.log)
    (within : Within plan.limits s.result) (none_ : acceptedActions s.log = [])
    (silent : deliveries s.log = []) (quiet : responses s.log = [])
    (unfinished : ∀ completion, .called .B (.finish completion) true ∉ s.log) :
    Halted code plan (.failure failure) s := by
  refine ⟨⟨going, .inl (by rw [silent, none_]; rfl), fun completion finished =>
    unfinished completion (finished .B)⟩, within, ?_⟩
  rintro last ⟨earlier, two⟩
  rw [quiet] at two
  simp at two

theorem driveSession_meets (env : Environment G) (alternates : Alternates code.schedule previousYield)
    (valid : plan.limits.validate = .ok ())
    (initial : code.initialState plan.gameConfig plan.gameSeed plan.gameSecrets = .ok state)
    (log : s.log = initialLog state) (result : s.result = initialResult plan) :
    Meets (driveSession code plan env state) s
      (fun outcome t => Driven code plan outcome.status t) (Halted code plan) := by
  obtain ⟨accepted, rejected, messages⟩ := positive_of_validate valid
  obtain ⟨result', log'⟩ := s
  subst log result
  have room : Room plan.limits (initialResult plan : SessionResult G Rewards) :=
    ⟨Nat.zero_le _, accepted, rejected, messages⟩
  have startedA (ok : Bool) := (Going.initial initial).start .A rfl rfl ok
  have startedB (ok : Bool) := (startedA true).start .B rfl rfl ok
  refine Meets.seq (callAgent_meets (Meets.seq (callAgent_meets ?_ fun error => ?_)) fun error => ?_)
  case refine_2 =>
    exact (startedB false).unstarted room.within rfl rfl rfl fun _ mem => by
      simp [initialLog] at mem
  case refine_3 =>
    exact (startedA false).unstarted room.within rfl rfl rfl fun _ mem => by
      simp [initialLog] at mem
  have at_ := At.afterStart initial
  cases completes : G.completion state with
  | some completion =>
    obtain ⟨ok, failedA, failedB⟩ := at_.finishes
      (s := ((⟨initialResult plan, initialLog state⟩ : Session G Rewards).push
        (.called .A (.start (G.observation state .A)) true)).push
        (.called .B (.start (G.observation state .B)) true)) completes room.within (by
          rintro last ⟨earlier, two⟩
          have empty : [] = earlier ++ [(otherRole last, none), (last, none)] := two
          simp at empty)
    exact Meets.seq (finishAgents_meets (Meets.returned ok) failedA failedB)
  | none =>
    cases created : code.schedule.create plan.schedule.first plan.schedule.parameters with
    | error error =>
      refine Meets.thrown ((startedB true).unstarted room.within rfl rfl rfl fun _ mem => ?_)
      simp [initialLog] at mem
    | ok schedule =>
      refine Meets.reads (Meets.followed ?_)
      split
      · rename_i fits
        rw [fits]
        refine Turn.driven alternates ⟨at_.plain rfl trivial, completes, room, Nat.zero_add _, ?_, ?_⟩
        · exact alternates.create _ _ _ created
        · rintro last ⟨earlier, two⟩
          have empty : [] = earlier ++ [(otherRole last, none), (last, none)] := two
          simp at empty
      · rename_i misfit
        rw [Bool.not_eq_true] at misfit
        rw [misfit]
        refine Meets.thrown ⟨fun smooth => ?_, fun role => ?_, fun role => ?_⟩
        · exact smooth.timed (List.mem_append_right _ (List.mem_singleton_self _))
        · exact List.mem_append_left _ (at_.created role)
        · change .shutdown ∉ calls (_ ++ [_]) role
          rw [calls_append]
          exact (List.append_nil _).symm ▸ at_.running role

structure Ready (code : SessionCode G Config Rewards) (plan : SessionPlan Config)
    (s : Session G Rewards) : Prop extends Going code plan s.log where
  within : Within plan.limits s.result
  observed : deliveries s.log = (acceptedActions s.log).flatMap delivered ∨
    ∃ earlier last role, acceptedActions s.log = earlier ++ [last] ∧
      deliveries s.log = earlier.flatMap delivered ++ interrupted role last ∧
      s.result.status = .failed ∧ s.result.failurePhase = some "observe_transition" ∧
      s.result.failureRole = some role
  completed : s.result.status = .completed ↔ Completed s.log
  quiescent : s.result.status = .quiescent ↔
    ∃ last, TwoYields (responses s.log) last ∧ capturesTraining plan last = false

theorem Driven.ready {outcome : SessionOutcome G.Completion}
    (driven : Driven code plan outcome.status s) :
    Ready code plan (s.edit fun result =>
      { result with status := outcome.status, completion := outcome.completion }) where
  toGoing := driven.toGoing
  within := ⟨driven.within.decisions, driven.within.accepted, driven.within.rejected,
    driven.within.messages⟩
  observed := .inl driven.observed
  completed := driven.completed
  quiescent := driven.quiescent

theorem Halted.ready {failure : SessionFailure}
    (halted : Halted code plan (.failure failure) s) :
    Ready code plan (s.edit (recordFailure failure.phase failure.role failure.error)) := by
  obtain ⟨broken, within, restless⟩ := halted
  refine ⟨broken.toGoing, ⟨within.decisions, within.accepted, within.rejected, within.messages⟩,
    ?_, ?_, ?_⟩
  · refine broken.observed.imp_right ?_
    rintro ⟨earlier, last, role, entries, told, phase, failed⟩
    exact ⟨earlier, last, role, entries, told, rfl, congrArg some phase, failed⟩
  · refine iff_of_false nofun ?_
    rintro ⟨_, completion, -, -, finished⟩
    exact broken.unfinished completion finished
  · refine iff_of_false nofun ?_
    rintro ⟨last, two, plain⟩
    cases plain.symm.trans (restless last two)

/-- The shutdown of both agents completes the contract. -/
theorem Ready.contract (ready : Ready code plan s) : Contract code plan (shutdownAgents env s) := by
  have log : ∃ okA okB, (shutdownAgents env s).log =
      s.log ++ [.called .A .shutdown okA] ++ [.called .B .shutdown okB] := ⟨_, _, rfl⟩
  obtain ⟨okA, okB, log⟩ := log
  have called (role : PlayerRole) :
      calls (shutdownAgents env s).log role = calls s.log role ++ [.shutdown] := by
    rw [log, calls_append, calls_append]
    cases role <;> simp [Event.call?]
  constructor
  · exact ⟨ready.within.decisions, ready.within.accepted, ready.within.rejected,
      ready.within.messages⟩
  · intro role call mem
    rw [called] at mem
    rcases mem_tail_append mem with old | rfl
    · exact ready.started role call old
    · exact nofun
  · rw [log]
    exact lawful_append.mpr ⟨lawful_append.mpr ⟨ready.lawful, trivial⟩, trivial⟩
  · have entries : acceptedActions (shutdownAgents env s).log = acceptedActions s.log := by
      simp only [log, acceptedActions_append, Event.accepted?, Option.toList_none, List.append_nil]
    have told : deliveries (shutdownAgents env s).log = deliveries s.log := by
      simp only [log, deliveries_append, Event.isDelivery, Bool.false_eq_true, if_false,
        List.append_nil]
    rw [entries, told]
    exact ready.observed
  · exact fun role _ => ⟨calls s.log role, called role, ready.running role⟩
  · intro role missing
    rw [log] at missing
    exact absurd (List.mem_append_left _ (List.mem_append_left _ (ready.created role))) missing
  · refine ready.completed.trans ?_
    have state : stateAfter (shutdownAgents env s).log = stateAfter s.log := by
      rw [log, stateAfter_append, stateAfter_append]
      rfl
    rw [Completed, state, log]
    simp
  · refine ready.quiescent.trans ?_
    have silent : responses (shutdownAgents env s).log = responses s.log := by
      simp only [log, responses_append, Event.response?, Option.toList_none, List.append_nil]
    rw [silent]

theorem Ready.smooth_after (ready : Ready code plan s) : Smooth (shutdownAgents env s).log where
  traced response mem := by
    have old : .traced response ∈ s.log := by simpa [shutdownAgents, shutdownAgent] using mem
    exact ready.smooth.traced response old
  timed mem := by
    have old : .timed false ∈ s.log := by simpa [shutdownAgents, shutdownAgent] using mem
    exact ready.smooth.timed old

/-- A session that fails before its second agent is there. -/
theorem Contract.unopened (log : s.log = [] ∨ ∃ ok, s.log = [.created .A, .called .A .shutdown ok])
    (failed : s.result.status = .failed) (within : Within plan.limits s.result) :
    Contract code plan s ∧ Smooth s.log := by
  have silent : responses s.log = [] := by rcases log with log | ⟨ok, log⟩ <;> rw [log] <;> rfl
  have unset : stateAfter s.log = none := by rcases log with log | ⟨ok, log⟩ <;> rw [log] <;> rfl
  refine ⟨⟨⟨within.decisions, within.accepted, within.rejected, within.messages⟩, ?_, ?_, ?_, ?_,
    ?_, ?_, ?_⟩, ?_, ?_⟩
  · intro role call mem
    rcases log with log | ⟨ok, log⟩ <;> rw [log] at mem <;> cases role <;> cases mem
  · rcases log with log | ⟨ok, log⟩ <;> rw [log] <;> simp [Lawful, Event.Allowed]
  · rcases log with log | ⟨ok, log⟩ <;> rw [log] <;> exact .inl rfl
  · intro role created
    rcases log with log | ⟨ok, log⟩ <;> rw [log] at created ⊢ <;> cases role <;>
      simp at created
    exact ⟨[], rfl, List.not_mem_nil⟩
  · intro role missing
    rcases log with log | ⟨ok, log⟩ <;> rw [log] at missing ⊢ <;> cases role <;>
      simp [calls, Event.call?] at missing ⊢
  · refine iff_of_false (by rw [failed]; exact nofun) ?_
    rintro ⟨state, -, here, -⟩
    cases unset.symm.trans here
  · refine iff_of_false (by rw [failed]; exact nofun) ?_
    rintro ⟨last, ⟨earlier, two⟩, -⟩
    rw [silent] at two
    simp at two
  · intro response mem
    rcases log with log | ⟨ok, log⟩ <;> rw [log] at mem <;> simp at mem
  · intro mem
    rcases log with log | ⟨ok, log⟩ <;> rw [log] at mem <;> simp at mem

/-- Both agents are there, but the game has no first state. -/
theorem Ready.uninitialized {phase error : String} (log : s.log = [.created .A, .created .B])
    (within : Within plan.limits s.result) :
    Ready code plan (s.edit (recordFailure phase none error)) := by
  obtain ⟨result, log'⟩ := s
  subst log
  refine ⟨⟨⟨trivial, trivial, trivial⟩, ?_, ?_, ?_, ?_⟩, within.congr ⟨rfl, rfl, rfl, rfl⟩,
    .inl rfl, ?_, ?_⟩
  · intro role call mem
    cases mem
  · intro role mem
    cases mem
  · intro role
    cases role <;> simp
  · exact ⟨by simp, by simp⟩
  · refine iff_of_false nofun ?_
    rintro ⟨state, -, here, -⟩
    cases here
  · refine iff_of_false nofun ?_
    rintro ⟨last, ⟨earlier, two⟩, -⟩
    have empty : [] = earlier ++ [(otherRole last, none), (last, none)] := two
    simp at empty

theorem createAgent_cases (env : Environment G) (role : PlayerRole) (s : Session G Rewards) :
    (∃ error, createAgent env role s = (.error error, s)) ∨
      createAgent env role s = (.ok (), s.push (.created role)) := by
  unfold createAgent
  cases env.create s.log role with
  | returned => exact .inr rfl
  | failed error => exact .inl ⟨error, rfl⟩
  | timedOut => exact .inl ⟨_, rfl⟩

/-- A call of `run` keeps the contract, or the driver panics and leaves the agents alone. -/
theorem run_cases (env : Environment G) (alternates : Alternates code.schedule previousYield)
    (valid : plan.limits.validate = .ok ()) :
    Contract code plan (run code plan env).2 ∧ Smooth (run code plan env).2.log ∨
      ¬ Smooth (run code plan env).2.log ∧ .created .A ∈ (run code plan env).2.log ∧
        .shutdown ∉ calls (run code plan env).2.log .A := by
  have within : Within plan.limits (initialResult plan : SessionResult G Rewards) :=
    ⟨Nat.zero_le _, Nat.zero_le _, Nat.zero_le _, Nat.zero_le _⟩
  unfold run
  cases code.createGame with
  | error error =>
    exact .inl (Contract.unopened (.inl rfl) rfl (within.congr ⟨rfl, rfl, rfl, rfl⟩))
  | ok =>
    dsimp only
    rcases createAgent_cases env .A
      (⟨initialResult plan, []⟩ : Session G Rewards) with ⟨error, first⟩ | first
    · rw [first]
      exact .inl (Contract.unopened (.inl rfl) rfl (within.congr ⟨rfl, rfl, rfl, rfl⟩))
    rw [first]
    dsimp only
    rcases createAgent_cases env .B
      ((⟨initialResult plan, []⟩ : Session G Rewards).push (.created .A)) with
        ⟨error, second⟩ | second
    · rw [second]
      exact .inl (Contract.unopened (.inr ⟨_, rfl⟩) rfl (within.congr ⟨rfl, rfl, rfl, rfl⟩))
    rw [second]
    dsimp only
    cases initial : code.initialState plan.gameConfig plan.gameSeed plan.gameSecrets with
    | error error =>
      have ready : Ready code plan ((((⟨initialResult plan, []⟩ : Session G Rewards).push
          (.created .A)).push (.created .B)).edit (recordFailure "initial_state" none error)) :=
        Ready.uninitialized rfl within
      exact .inl ⟨ready.contract, ready.smooth_after⟩
    | ok state =>
      dsimp only
      have meets := driveSession_meets env
        (s := (((⟨initialResult plan, []⟩ : Session G Rewards).push (.created .A)).push
          (.created .B)).push (.initialized state)) alternates valid initial rfl rfl
      unfold Meets at meets
      split at meets
      · rename_i outcome t ends
        rw [ends]
        exact .inl ⟨meets.ready.contract, meets.ready.smooth_after⟩
      · rename_i stop t ends
        rw [ends]
        cases stop with
        | failure failure => exact .inl ⟨meets.ready.contract, meets.ready.smooth_after⟩
        | panic => exact .inr ⟨meets.1, meets.2.1 .A, meets.2.2 .A⟩

/-- A panic leaves agents behind that no one shuts down. -/
theorem Contract.cleaned {s : Session G Rewards} (contract : Contract code plan s)
    {role : PlayerRole} (created : .created role ∈ s.log) : .shutdown ∈ calls s.log role := by
  obtain ⟨others, all, -⟩ := contract.shutdown role created
  rw [all]
  exact List.mem_append_right _ (List.mem_singleton_self _)

/-- A session keeps its contract exactly where nothing that happens in it makes it panic. -/
theorem headless_session_contract (valid : plan.limits.validate = .ok ())
    (builtin : code.schedule = alternateEveryResponse G ∨
      code.schedule = alternateAfterAction G) :
    Contract code plan (run code plan env).2 ↔ Smooth (run code plan env).2.log := by
  have alternating : ∃ previousYield : code.schedule.State → Option PlayerRole,
      Alternates code.schedule previousYield := by
    rcases builtin with same | same <;> rw [same]
    · exact ⟨_, alternateEveryResponse_alternates⟩
    · exact ⟨_, alternateAfterAction_alternates⟩
  obtain ⟨previousYield, alternates⟩ := alternating
  rcases run_cases env alternates valid with ⟨contract, smooth⟩ | ⟨rough, created, silent⟩
  · exact iff_of_true contract smooth
  · exact iff_of_false (fun contract => silent (contract.cleaned created)) rough

end Run

/-- A lamp that either player may light; the game is over when it is lit. -/
def lamp : Game where
  State := Bool
  Action := Unit
  Observation := Bool
  Completion := Unit
  applyAction lit _ _ := if lit then .error ⟨"already_lit"⟩ else .ok true
  observation lit _ := lit
  completion lit := if lit then some () else none
  stateJson lit := .ok (.bool lit)
  actionJson _ := .ok (.string "light")
  observationJson lit := .ok (.bool lit)
  completionJson _ := .ok .null

def lampCode : SessionCode lamp Unit Unit where
  createGame := .ok ()
  initialState _ _ _ := .ok false
  schedule := alternateEveryResponse lamp
  rewards _ _ _ _ _ _ := ()

def lampSeat (role : PlayerRole) : ResolvedSeat where
  name := "lighter"
  factoryId := "lighter"
  settings := ⟨.object [], rfl⟩
  settingsFingerprint := ""
  identity := ⟨"lighter", "1"⟩
  checkpoint := none
  role := role
  seed := 0
  factory := ⟨⟨"lighter", []⟩, fun _ => .ok ⟨"lighter", "1"⟩⟩
  secrets := {}

def lampPlan (seconds : Nat) : SessionPlan Unit where
  runId := "run"
  planId := "plan"
  phase := "evaluation"
  phaseIndex := 0
  scenario := "dark"
  gameId := "lamp"
  gameVersion := "1"
  configurationFingerprint := ""
  gameConfig := ()
  gameSeed := 0
  gameSecrets := ∅
  seatA := lampSeat .A
  seatB := lampSeat .B
  schedule := ⟨"alternate_every_response", .A, ⟨.object [], rfl⟩⟩
  scheduleFactory := fun _ => requireEmptyParameters
  limits := { sessionTimeoutSeconds := seconds }
  trace := .decisions
  trainingCapture := none

def lampTraining : SessionPlan Unit :=
  { lampPlan 900 with
    trainingCapture := some {
      learner := "lighter", checkpoint := ⟨"base"⟩, rewardKind := "light", rewardVersion := "1"
      parameters := ⟨.object [], rfl⟩, reward := ⟨"1", fun _ => .ok ()⟩ } }

/-- Both agents light the lamp when asked; the clock counts seconds in a signed word. -/
def lampLighters : Environment lamp where
  create _ _ := .returned ()
  call _ _ _ := .returned ()
  respond _ _ _ := .returned (some (.action ()))
  representable _ seconds := seconds < 2 ^ 63
  late _ := false

/-- The lamp is lit, both agents hear of it, and the session is over. -/
theorem headless_session_contract_lamp :
    Contract lampCode (lampPlan 900) (run lampCode (lampPlan 900) lampLighters).2 := by
  refine (headless_session_contract rfl (.inl rfl)).mpr ⟨fun response mem => ?_, ?_⟩
  · cases response with
    | none => exact ⟨_, rfl⟩
    | some response => cases response <;> exact ⟨_, rfl⟩
  · have log : (run lampCode (lampPlan 900) lampLighters).2.log = [.created .A, .created .B,
        .initialized false, .called .A (.start false) true, .called .B (.start false) true,
        .timed true, .called .A (.respond none) true, .responded .A (some (.action ())),
        .accepted .A () true, .called .A (.observeTransition .A () true) true,
        .called .B (.observeTransition .A () true) true, .traced (some (.action ())),
        .called .A (.finish ()) true, .called .B (.finish ()) true,
        .called .A .shutdown true, .called .B .shutdown true] := rfl
    rw [log]
    simp

/-- The longest timeout that limits can name ends the session in a panic. -/
theorem contract_endless : (lampPlan (2 ^ 64 - 1)).limits.validate = .ok () ∧
    ¬ Contract lampCode (lampPlan (2 ^ 64 - 1))
      (run lampCode (lampPlan (2 ^ 64 - 1)) lampLighters).2 := by
  refine ⟨rfl, fun contract => ?_⟩
  have log : (run lampCode (lampPlan (2 ^ 64 - 1)) lampLighters).2.log = [.created .A,
      .created .B, .initialized false, .called .A (.start false) true,
      .called .B (.start false) true, .timed false] := rfl
  have created : Event.created .A ∈
      (run lampCode (lampPlan (2 ^ 64 - 1)) lampLighters).2.log := by
    rw [log]
    simp
  have cleaned := contract.cleaned created
  rw [log] at cleaned
  simp [calls, Event.call?] at cleaned

end Headless

end Parlando
