import Parlando.RootBot
import Parlando.Proofs.AgentTask

namespace Parlando.GreatTree

open Concurrency
open Headless (otherRole)
open AgentSession (Concluded SameTraffic noticeOf deliver_cases)

variable {s t : GreatTreeState} {root : RootId}

theorem SoundState.applyAction_ok {start after : SoundState} {action : GreatTreeAction}
    {actor : PlayerRole} :
    start.applyAction action actor = .ok after ↔
      GreatTree.applyAction start.1 action actor = some (.ok after.1) := by
  unfold SoundState.applyAction
  split
  · rename_i next result
    simp only [result, Except.ok.injEq, Option.some.injEq, Subtype.ext_iff]
  · rename_i rejection result
    simp [result]
  · rename_i result
    exact absurd result (start.2.applyAction_error action actor).1

theorem SoundState.observation_root {start : SoundState} {role : PlayerRole}
    (seat : rootRole start.1 = role) : start.observation role = .root (rootViews start.1) := by
  have apart : role ≠ start.1.crownSeat.role := by
    rw [← seat, rootRole]
    cases start.1.crownSeat <;> decide
  unfold SoundState.observation
  simp only [start.2.observation_root apart, Option.get_some]

def wanted (roots : Vector RootView 5) : Option GreatTreeAction :=
  (roots.toList.find? fun view => view.thawed && !view.running).map fun view => .setFlow view.id true

def useful (s : GreatTreeState) : GreatTreeAction → Bool
  | .setFlow root true => thawed s root == some true && !running s root
  | _ => false

theorem Inv.useful_of_wanted (inv : Inv s) {action : GreatTreeAction}
    (wants : wanted (rootViews s) = some action) : useful s action = true := by
  obtain ⟨view, found, rfl⟩ := Option.map_eq_some_iff.mp wants
  have member := List.mem_of_find?_eq_some found
  have idle := List.find?_some found
  rw [toList_rootViews, List.mem_map] at member
  obtain ⟨root, -, rfl⟩ := member
  obtain ⟨limb, rfl⟩ := inv.paired.2 root
  rw [Bool.and_eq_true, viewRoot, inv.thawed_rootOf, Option.getD_some] at idle
  rw [useful, viewRoot, inv.thawed_rootOf, Bool.and_eq_true, beq_iff_eq, Option.some.injEq]
  exact idle

theorem mem_allRoots (root : RootId) : root ∈ RootId.all.toList := by
  cases root <;> decide

/-- Where the agent wants nothing, every thawed root runs. -/
theorem running_of_wanted (wants : wanted (rootViews s) = none)
    (warm : thawed s root = some true) : running s root = true := by
  rw [wanted, Option.map_eq_none_iff, List.find?_eq_none] at wants
  have idle := wants (viewRoot s root) (by
    rw [toList_rootViews]
    exact List.mem_map_of_mem (mem_allRoots root))
  rw [viewRoot, warm] at idle
  simpa using idle

/-- What an open that Root asks for leads to. -/
theorem Inv.applyAction_open (inv : Inv s) (limb : LimbId) :
    applyAction s (.setFlow (rootOf s limb) true) (rootRole s) = some (
      if rootOf s limb ∈ s.waterHolds then .ok s
      else if limb ∈ s.sunHolds then .ok (openRoot s limb)
      else .error ⟨"root_frozen"⟩) := by
  unfold applyAction
  rw [roleForAction, if_neg (not_not_intro rfl)]
  simp only [inv.applySetFlow_eq, if_true, Option.map_some]
  split
  · rfl
  · split
    · rfl
    · rfl

theorem Inv.useful_rootOf (inv : Inv s) (limb : LimbId) :
    useful s (.setFlow (rootOf s limb) true) = true ↔
      limb ∈ s.sunHolds ∧ rootOf s limb ∉ s.waterHolds := by
  rw [useful, inv.thawed_rootOf, Bool.and_eq_true, beq_iff_eq, Option.some.injEq, sun_iff,
    Bool.not_eq_true', Bool.eq_false_iff, ne_eq, running_iff]

variable {unicode : Unicode} {role : PlayerRole} {limit : Nat} {start : SoundState}

abbrev RootBotSession (unicode : Unicode) := AgentSession greatTree (rootBot unicode)

theorem Replay.seat {transitions : List (Accepted greatTree)} {state : SoundState}
    (replay : Replay greatTree start transitions state) : rootRole state.1 = rootRole start.1 ∧
      ∀ transition ∈ transitions, rootRole transition.after.1 = rootRole start.1 := by
  induction replay with
  | nil => exact ⟨rfl, fun _ member => by cases member⟩
  | @concat transitions state transition _ ok ih =>
    have accepted := SoundState.applyAction_ok.mp ok
    have rooted := (state.2.applyAction_ok accepted).2.1
    have seat : rootRole transition.after.1 = rootRole start.1 := by
      rw [← ih.1, rootRole, rootRole, rooted.crownSeat]
    refine ⟨seat, fun other member => ?_⟩
    obtain member | same := List.mem_append.mp member
    · exact ih.2 other member
    · rwa [List.mem_singleton.mp same]

theorem Replay.last {transitions : List (Accepted greatTree)} {state : SoundState}
    (replay : Replay greatTree start transitions state) :
    (transitions.getLast?.map fun transition => transition.after).getD start = state := by
  cases replay with
  | nil => rfl
  | concat =>
    rw [List.getLast?_concat]
    rfl

def GreatTreeObservation.roots : GreatTreeObservation → Option (Vector RootView 5)
  | .root roots => some roots
  | .crown _ => none

def viewOf : AgentObservation greatTree → Option (Vector RootView 5)
  | .action _ _ observation _ => observation.roots
  | .message .. => none

theorem viewOf_noticeOf {transition : Accepted greatTree}
    (seat : rootRole transition.after.1 = role) :
    viewOf (noticeOf role transition) = some (rootViews transition.after.1) := by
  change (transition.after.observation role).roots = _
  rw [SoundState.observation_root seat]
  rfl

def lastView (start : SoundState) (s : RootBotSession unicode) : Vector RootView 5 :=
  (s.told.getLast?.bind viewOf).getD (rootViews start.1)

variable {s t : RootBotSession unicode}

theorem reported_told (delivered : AgentSession.Delivered role start s) :
    s.told <+: s.accepted.map (noticeOf role) := by
  refine List.IsPrefix.trans ?_ delivered.reported
  rw [← AgentSession.told_append_queue]
  exact List.prefix_append ..

/-- An agent that has been told everything has seen the session's state. -/
theorem lastView_current (delivered : AgentSession.Delivered role start s)
    (seat : rootRole start.1 = role)
    (all : s.accepted.length ≤ s.told.length) : lastView start s = rootViews s.state.1 := by
  have told : s.told = s.accepted.map (noticeOf role) := by
    have fits := reported_told delivered
    refine fits.eq_of_length (Nat.le_antisymm fits.length_le ?_)
    rwa [List.length_map]
  obtain ⟨-, seats⟩ := Replay.seat delivered.replay
  rw [lastView, told, List.getLast?_map, ← Replay.last delivered.replay]
  cases final : s.accepted.getLast? with
  | none => rfl
  | some transition =>
    have shown := viewOf_noticeOf ((seats transition (List.mem_of_getLast? final)).trans seat)
    rw [Option.map_some, Option.bind_some, shown]
    rfl

def acts {Action : Type} : AgentPlace Action → Bool
  | .deciding | .submitting .. => true
  | _ => false

def inHand (s : RootBotSession unicode) : Option GreatTreeAction :=
  match s.place with
  | .deciding => RootBotAgent.pendingAction s.agent
  | .submitting action _ => some action
  | _ => none

structure Attentive (start : SoundState) (s : RootBotSession unicode) : Prop where
  latest : RootBotAgent.latestRoots s.agent = some (lastView start s)
  opens : ∀ action ∈ inHand s, ∃ root, action = .setFlow root true
  settled : s.awaitingCompletion = false → s.place ≠ .deciding → s.place ≠ .stopped →
    RootBotAgent.pendingAction s.agent = none
  awaiting : s.awaitingCompletion = true → s.interaction = .ended ∧ acts s.place = false
  held : ∀ message, s.place = .notifying message → s.notice.isSome = true
  attentive : s.place = .stopped ∨ s.awaitingCompletion = true ∨
    wanted (lastView start s) = none ∨ inHand s = wanted (lastView start s) ∨
    s.told.length < s.accepted.length

/-- What tells the agent nothing, and neither gives it an action nor takes one from it. -/
structure Carried (s t : RootBotSession unicode) : Prop where
  agent : t.agent = s.agent
  told : t.told = s.told
  awaiting : t.awaitingCompletion = s.awaitingCompletion
  accepted : s.accepted.length ≤ t.accepted.length
  ended : s.interaction = .ended → t.interaction = .ended
  place : t.place = .stopped ∨ t.place = s.place ∨
    acts s.place = false ∧ s.place ≠ .stopped ∧ acts t.place = false
  held : ∀ message, t.place = .notifying message → t.notice.isSome = true

theorem inHand_of_rests (rests : acts s.place = false) : inHand s = none := by
  unfold inHand
  cases place : s.place with
  | deciding => simp [place, acts] at rests
  | submitting action message => simp [place, acts] at rests
  | _ => rfl

theorem Attentive.carried (attentive : Attentive start s) (same : Carried s t) :
    Attentive start t := by
  have view : lastView start t = lastView start s := by rw [lastView, lastView, same.told]
  have hand : t.place ≠ .stopped → inHand t = inHand s := by
    intro playing
    obtain stopped | place | ⟨before, -, after⟩ := same.place
    · exact absurd stopped playing
    · rw [inHand, inHand, place, same.agent]
    · rw [inHand_of_rests before, inHand_of_rests after]
  have stopped (place : t.place = .stopped) : acts t.place = false := by rw [place]; rfl
  refine ⟨?_, ?_, ?_, ?_, same.held, ?_⟩
  · rw [same.agent, view]
    exact attentive.latest
  · intro action holds
    by_cases place : t.place = .stopped
    · rw [inHand_of_rests (stopped place)] at holds
      cases holds
    · exact attentive.opens action (hand place ▸ holds)
  · intro free deciding playing
    rw [same.agent]
    rw [same.awaiting] at free
    obtain place | place | ⟨before, going, -⟩ := same.place
    · exact absurd place playing
    · exact attentive.settled free (place ▸ deciding) (place ▸ playing)
    · refine attentive.settled free ?_ going
      intro place
      rw [place] at before
      cases before
  · intro waits
    obtain ⟨ended, rests⟩ := attentive.awaiting (same.awaiting ▸ waits)
    refine ⟨same.ended ended, ?_⟩
    obtain place | place | ⟨-, -, after⟩ := same.place
    · exact stopped place
    · rwa [place]
    · exact after
  · by_cases place : t.place = .stopped
    · exact .inl place
    rw [view, hand place, same.awaiting, same.told]
    obtain before | rest := attentive.attentive
    · obtain after | after | ⟨-, going, -⟩ := same.place
      · exact .inl after
      · exact .inl (after.trans before)
      · exact absurd before going
    · refine .inr (rest.imp_right (Or.imp_right (Or.imp_right ?_)))
      exact fun more => more.trans_le same.accepted

def RootBotAgent.goesTo (bot : RootBotAgent) : AgentPlace GreatTreeAction :=
  match bot.pendingAction, bot.pendingMessage with
  | some action, message => .submitting action message
  | none, some message => .saying message
  | none, none => .receiving

theorem decide_eq (role : PlayerRole) (s : RootBotSession unicode) : s.decide role =
    { s with
      agent := (RootBotAgent.respond s.agent).2
      place := RootBotAgent.goesTo s.agent } := by
  obtain ⟨_, _, _, _, ⟨latest, action, message⟩, _, _, _, _, _⟩ := s
  cases action with
  | none =>
    cases message with
    | none => rfl
    | some text => rfl
  | some action =>
    cases message with
    | none => rfl
    | some text => rfl

/-- Deciding takes the pending action into the hand of the task. -/
theorem inHand_decide (s : RootBotSession unicode) :
    inHand (s.decide role) = RootBotAgent.pendingAction s.agent := by
  rw [decide_eq]
  unfold inHand RootBotAgent.goesTo
  cases action : RootBotAgent.pendingAction s.agent with
  | none =>
    cases message : RootBotAgent.pendingMessage s.agent with
    | none => rfl
    | some text => rfl
  | some action => rfl

theorem goesTo_ne (bot : RootBotAgent) :
    bot.goesTo ≠ .deciding ∧ bot.goesTo ≠ .stopped ∧ ∀ message, bot.goesTo ≠ .notifying message := by
  unfold RootBotAgent.goesTo
  split
  · simp
  · simp
  · simp

theorem Attentive.decide (attentive : Attentive start s) (deciding : s.place = .deciding) :
    Attentive start (s.decide role) := by
  have hand : inHand (s.decide role) = inHand s := by
    rw [inHand_decide, inHand, deciding]
  have going : ¬s.awaitingCompletion = true := by
    intro waits
    have rests := (attentive.awaiting waits).2
    rw [deciding] at rests
    cases rests
  obtain ⟨-, -, quiet⟩ := goesTo_ne s.agent
  have next := decide_eq role s
  refine ⟨?_, ?_, ?_, ?_, ?_, ?_⟩
  · rw [next]
    exact attentive.latest
  · rw [hand]
    exact attentive.opens
  · intro _ _ _
    rw [next]
    rfl
  · intro waits
    rw [next] at waits
    exact absurd waits going
  · intro message notifies
    rw [next] at notifies
    exact absurd notifies (quiet message)
  · rw [hand]
    have before := attentive.attentive
    rw [deciding] at before
    rw [next]
    refine .inr ?_
    obtain stopped | rest := before
    · cases stopped
    · exact rest

def hears (unicode : Unicode) (bot : RootBotAgent) : AgentObservation greatTree → RootBotAgent
  | .action _ _ observation _ => bot.observeTransition observation
  | .message _ text => bot.handleMessage unicode text

theorem tell_eq (s : RootBotSession unicode) (observation : AgentObservation greatTree) :
    s.tell observation = { s with agent := hears unicode s.agent observation } := by
  cases observation with
  | action actor action resulting completion => rfl
  | message speaker text => rfl

/-- Only a completed game or too many failures end the loop. -/
theorem observe_cases (limit : Nat) (s : RootBotSession unicode)
    (observation : AgentObservation greatTree) :
    (((∃ actor action resulting completion, observation =
        .action actor action resulting (some completion)) ∨ limit ≤ s.invalidActions) ∧
      ∃ finished, s.observe limit observation =
        { s with agent := hears unicode s.agent observation, finished }.stop) ∨
    s.observe limit observation =
      { s with agent := hears unicode s.agent observation }.continueLoop := by
  unfold AgentSession.observe AgentSession.afterObservation
  rw [tell_eq]
  split
  · exact .inl ⟨.inl ⟨_, _, _, _, rfl⟩, _, rfl⟩
  · split
    · rename_i many
      exact .inl ⟨.inr many, _, rfl⟩
    · exact .inr rfl

theorem handleMessage_eq (unicode : Unicode) (bot : RootBotAgent) (text : String) :
    ∃ pendingMessage, bot.handleMessage unicode text = { bot with pendingMessage } := by
  unfold RootBotAgent.handleMessage
  dsimp only
  split
  · exact ⟨_, rfl⟩
  · split
    · exact ⟨_, rfl⟩
    · split
      · exact ⟨_, rfl⟩
      · exact ⟨bot.pendingMessage, rfl⟩

theorem react_latestRoots (bot : RootBotAgent) (roots : Vector RootView 5) :
    (bot.react roots).latestRoots = some roots := by
  unfold RootBotAgent.react
  dsimp only
  split
  · rfl
  · rfl

theorem react_pendingAction (bot : RootBotAgent) (idle : bot.pendingAction = none)
    (roots : Vector RootView 5) : (bot.react roots).pendingAction = wanted roots := by
  unfold RootBotAgent.react wanted
  dsimp only
  split
  · rename_i view found
    rw [found, Option.map_some]
  · rename_i nothing
    rw [nothing, Option.map_none]
    exact idle

theorem roots_eq_some {observation : GreatTreeObservation} {roots : Vector RootView 5} :
    observation.roots = some roots ↔ observation = .root roots := by
  cases observation with
  | crown limbs => simp [GreatTreeObservation.roots]
  | root shown => simp [GreatTreeObservation.roots]

def Shown (observation : AgentObservation greatTree) : Prop :=
  observation.isAction = true → ∃ roots, viewOf observation = some roots

theorem shown_of_received (delivered : AgentSession.Delivered role start s)
    (seat : rootRole start.1 = role)
    {observation : AgentObservation greatTree} (received : s.inbox.receive = .message observation) :
    Shown observation := by
  intro isAction
  have sent := List.mem_of_getElem? (Channel.receive_message received)
  have reported := delivered.reported.subset (List.mem_filter.mpr ⟨sent, isAction⟩)
  obtain ⟨transition, member, rfl⟩ := List.mem_map.mp reported
  obtain ⟨-, seats⟩ := Replay.seat delivered.replay
  exact ⟨_, viewOf_noticeOf ((seats transition member).trans seat)⟩

/-- The session when the agent has taken its next observation. -/
abbrev taken (s : RootBotSession unicode) : RootBotSession unicode :=
  { s with inbox := s.inbox.take }

theorem told_take {observation : AgentObservation greatTree}
    (received : s.inbox.receive = .message observation) :
    (taken s).told =
      s.told ++ [observation].filter AgentObservation.isAction := by
  change (s.inbox.sent.take (s.inbox.received + 1)).filter AgentObservation.isAction = _
  rw [AgentSession.told, List.take_add_one, Channel.receive_message received, Option.toList_some, List.filter_append]

theorem lastView_take (start : SoundState) {observation : AgentObservation greatTree} (shown : Shown observation)
    (received : s.inbox.receive = .message observation) :
    lastView start (taken s) =
      (viewOf observation).getD (lastView start s) := by
  rw [lastView, told_take received]
  cases observation with
  | message speaker text => simp [AgentObservation.isAction, viewOf, lastView]
  | action actor action resulting completion =>
    obtain ⟨roots, view⟩ := shown rfl
    rw [List.filter_singleton]
    simp [AgentObservation.isAction, view]

theorem hears_latestRoots (unicode : Unicode) {bot : RootBotAgent} {observation : AgentObservation greatTree}
    (shown : Shown observation) {latest : Vector RootView 5} (before : bot.latestRoots = some latest) :
    (hears unicode bot observation).latestRoots = some ((viewOf observation).getD latest) := by
  cases observation with
  | message speaker text =>
    obtain ⟨pendingMessage, same⟩ := handleMessage_eq unicode bot text
    rw [hears, same]
    exact before
  | action actor action resulting completion =>
    obtain ⟨roots, view⟩ := shown rfl
    rw [view, hears, roots_eq_some.mp view]
    exact react_latestRoots bot roots

theorem hears_pendingAction (unicode : Unicode) {bot : RootBotAgent} {observation : AgentObservation greatTree}
    (shown : Shown observation) (idle : bot.pendingAction = none) :
    (hears unicode bot observation).pendingAction = (viewOf observation).bind wanted := by
  cases observation with
  | message speaker text =>
    obtain ⟨pendingMessage, same⟩ := handleMessage_eq unicode bot text
    rw [hears, same]
    exact idle
  | action actor action resulting completion =>
    obtain ⟨roots, view⟩ := shown rfl
    rw [view, hears, roots_eq_some.mp view]
    exact react_pendingAction bot idle roots

theorem wanted_opens {roots : Vector RootView 5} {action : GreatTreeAction}
    (wants : wanted roots = some action) : ∃ root, action = .setFlow root true := by
  obtain ⟨view, -, rfl⟩ := Option.map_eq_some_iff.mp wants
  exact ⟨view.id, rfl⟩

theorem Attentive.observe (attentive : Attentive start s)
    (delivered : AgentSession.Delivered role start s)
    (seat : rootRole start.1 = role) {observation : AgentObservation greatTree}
    (receiving : s.place = .receiving) (received : s.inbox.receive = .message observation) :
    Attentive start ((taken s).observe limit observation) := by
  have shown := shown_of_received delivered seat received
  have latest := hears_latestRoots unicode shown attentive.latest
  rw [← lastView_take start shown received] at latest
  have rests (place : AgentPlace GreatTreeAction) (h : place = .stopped ∨ place = .receiving) :
      acts place = false := by
    obtain rfl | rfl := h
    · rfl
    · rfl
  obtain ⟨-, finished, next⟩ | next := observe_cases limit (taken s) observation
  · rw [next]
    refine ⟨latest, ?_, fun _ _ playing => absurd rfl playing, ?_, ?_, .inl rfl⟩
    · intro action holds
      cases holds
    · exact fun waits => ⟨(attentive.awaiting waits).1, rfl⟩
    · intro message notifies
      cases notifies
  · rw [next, AgentSession.continueLoop]
    by_cases waits : s.awaitingCompletion = true
    · rw [if_pos waits]
      refine ⟨latest, ?_, ?_, fun _ => ⟨(attentive.awaiting waits).1, rfl⟩, ?_, .inr (.inl waits)⟩
      · intro action holds
        cases holds
      · intro free
        rw [waits] at free
        cases free
      · intro message notifies
        cases notifies
    · rw [if_neg waits]
      rw [Bool.not_eq_true] at waits
      have idle := attentive.settled waits (by simp [receiving]) (by simp [receiving])
      have pending := hears_pendingAction unicode shown idle
      refine ⟨latest, ?_, fun _ deciding => absurd rfl deciding, ?_, ?_, ?_⟩
      · intro action holds
        have wants := pending.symm.trans holds
        obtain ⟨roots, -, wants⟩ := Option.bind_eq_some_iff.mp wants
        exact wanted_opens wants
      · intro awaits
        rw [waits] at awaits
        cases awaits
      · intro message notifies
        cases notifies
      · refine .inr (.inr ?_)
        have view := lastView_take start shown received
        change wanted (lastView start (taken s)) = none ∨
          RootBotAgent.pendingAction (hears unicode s.agent observation) =
            wanted (lastView start (taken s)) ∨ (taken s).told.length < s.accepted.length
        rw [view, pending, told_take received]
        cases seen : viewOf observation with
        | some roots => exact .inr (.inl rfl)
        | none =>
          have silent : observation.isAction = false := by
            by_contra isAction
            obtain ⟨roots, view⟩ := shown (Bool.not_eq_false _ ▸ isAction)
            rw [seen] at view
            cases view
          rw [List.filter_singleton, silent, cond_false, List.append_nil]
          obtain stopped | awaits | idle | hand | more := attentive.attentive
          · rw [receiving] at stopped
            cases stopped
          · rw [waits] at awaits
            cases awaits
          · exact .inl idle
          · rw [inHand_of_rests (by rw [receiving]; rfl)] at hand
            exact .inl hand.symm
          · exact .inr (.inr more)

theorem Attentive.stop (attentive : Attentive start s) : Attentive start s.stop :=
  attentive.carried ⟨rfl, rfl, rfl, le_rfl, id, .inl rfl, fun _ notifies => by cases notifies⟩

/-- An action that opens a thawed and closed root is accepted. -/
theorem useful_accepted {state : SoundState} (seat : rootRole state.1 = role)
    {action : GreatTreeAction} (uses : useful state.1 action = true) {rejection : ActionRejection} :
    state.applyAction action role ≠ .error rejection := by
  cases action with
  | setSun limb lit => cases uses
  | setFlow root isOpen =>
    cases isOpen with
    | false => cases uses
    | true =>
      obtain ⟨limb, rfl⟩ := state.2.paired.2 root
      obtain ⟨warm, closed⟩ := (state.2.useful_rootOf limb).mp uses
      have opens := state.2.applyAction_open limb
      rw [seat, if_neg closed, if_pos warm] at opens
      have accepts : state.applyAction _ role = .ok ⟨_, state.2.opened warm closed⟩ :=
        SoundState.applyAction_ok.mpr opens
      rw [accepts]
      exact fun h => by cases h

theorem Attentive.submitOwn (attentive : Attentive start s)
    (delivered : AgentSession.Delivered role start s)
    (seat : rootRole start.1 = role) {action : GreatTreeAction} {message : Option String}
    (submitting : s.place = .submitting action message) (input : AgentInput) :
    Attentive start (s.submitOwn role limit action message input) := by
  have working : s.awaitingCompletion = false := by
    by_contra waits
    have rests := (attentive.awaiting (Bool.not_eq_false _ ▸ waits)).2
    rw [submitting] at rests
    cases rests
  have idle := attentive.settled working (by simp [submitting]) (by simp [submitting])
  have here : rootRole s.state.1 = role := (Replay.seat delivered.replay).1.trans seat
  unfold AgentSession.submitOwn
  split
  · exact attentive.stop
  split
  · rename_i rejection rejected
    dsimp only
    split
    · refine ⟨attentive.latest, ?_, fun _ deciding => absurd rfl deciding, ?_, ?_, ?_⟩
      · intro action holds
        have holds := idle.symm.trans holds
        cases holds
      · intro waits
        rw [working] at waits
        cases waits
      · intro message notifies
        cases notifies
      · refine .inr (.inr ?_)
        obtain stopped | waits | settled | hand | more := attentive.attentive
        · rw [submitting] at stopped
          cases stopped
        · rw [working] at waits
          cases waits
        · exact .inl settled
        · refine .inr (.inr (Nat.lt_of_not_le fun all => ?_))
          rw [lastView_current delivered seat all, inHand, submitting] at hand
          exact useful_accepted here (s.state.2.useful_of_wanted hand.symm) rejected
        · exact .inr (.inr more)
    · exact attentive.carried
        ⟨rfl, rfl, rfl, le_rfl, id, .inl rfl, fun _ notifies => by cases notifies⟩
  · rename_i after accepted
    split
    · refine ⟨attentive.latest, ?_, fun _ _ _ => idle, ?_, fun _ _ => rfl, ?_⟩
      · intro action holds
        cases holds
      · intro completes
        exact ⟨if_pos completes, rfl⟩
      · refine .inr (.inr (.inr (.inr ?_)))
        change s.told.length < (s.accepted ++ [_]).length
        have fits := (reported_told delivered).length_le
        rw [List.length_map] at fits
        rw [List.length_append, List.length_singleton]
        exact Nat.lt_succ_of_le fits
    · exact attentive.stop

theorem Attentive.runTask (attentive : Attentive start s)
    (delivered : AgentSession.Delivered role start s)
    (seat : rootRole start.1 = role) {input : AgentInput}
    (done : s.runTask role limit input = some t) : Attentive start t := by
  unfold AgentSession.runTask at done
  cases place : s.place with
  | deciding =>
    simp only [place, Option.some.injEq] at done
    subst done
    split
    · exact attentive.decide place
    · exact attentive.stop
  | submitting action message =>
    simp only [place] at done
    split at done
    · cases done
    cases done
    split
    · exact attentive.submitOwn delivered seat place input
    · exact attentive.stop
  | saying message =>
    simp only [place, Option.some.injEq] at done
    subst done
    refine attentive.carried ⟨rfl, rfl, rfl, le_rfl, id, .inr (.inr ?_), fun _ notifies => by cases notifies⟩
    rw [place]
    exact ⟨rfl, by simp, rfl⟩
  | receiving =>
    simp only [place] at done
    split at done
    · rename_i observation received
      cases done
      exact attentive.observe delivered seat place received
    · cases done
      exact attentive.stop
    · cases done
  | notifying message => simp [place] at done
  | stopped => simp [place] at done

theorem told_append (delivered : AgentSession.Delivered role start s)
    (observation : AgentObservation greatTree) :
    AgentSession.told ({ s with inbox := { s.inbox with sent := s.inbox.sent ++ [observation] } } :
      RootBotSession unicode) = s.told := by
  change ((s.inbox.sent ++ [observation]).take s.inbox.received).filter _ = _
  rw [List.take_append_of_le_length delivered.received]
  rfl

theorem Attentive.step (attentive : Attentive start s)
    (delivered : AgentSession.Delivered role start s)
    (seat : rootRole start.1 = role) {action : AgentSessionAction greatTree}
    (done : s.step role limit action = some t) : Attentive start t := by
  cases action with
  | submit action committed =>
    change (if s.notice.isSome then none else _) = some t at done
    split at done
    · cases done
    cases done
    split
    · split
      · refine attentive.carried ⟨rfl, rfl, rfl, ?_, ?_, .inr (.inl rfl), fun _ _ => rfl⟩
        · change s.accepted.length ≤ (s.accepted ++ [_]).length
          rw [List.length_append]
          exact Nat.le_add_right _ _
        · intro ended
          change (if _ then Interaction.ended else s.interaction) = _
          rw [ended, ite_self]
      · exact attentive
    · exact attentive
  | notify =>
    obtain ⟨observation, held, done⟩ := Option.bind_eq_some_iff.mp done
    obtain ⟨sent, delivers, rfl⟩ := Option.map_eq_some_iff.mp done
    have place (place : AgentPlace GreatTreeAction) : (place.afterNotice = .stopped ∨
        place.afterNotice = place ∨
        acts place = false ∧ place ≠ .stopped ∧ acts place.afterNotice = false) ∧
        ∀ message, place.afterNotice ≠ .notifying message := by
      cases place with
      | notifying message =>
        cases message with
        | none => simp [AgentPlace.afterNotice, acts]
        | some text => simp [AgentPlace.afterNotice, acts]
      | _ => simp [AgentPlace.afterNotice]
    obtain ⟨moves, quiet⟩ := place s.place
    obtain ⟨-, rfl⟩ | ⟨-, rfl⟩ := deliver_cases delivered delivers
    · exact attentive.carried ⟨rfl, rfl, rfl, le_rfl, id, moves,
        fun message notifies => absurd notifies (quiet message)⟩
    · exact attentive.carried ⟨rfl, told_append delivered observation, rfl, le_rfl, id, moves,
        fun message notifies => absurd notifies (quiet message)⟩
  | say text =>
    obtain ⟨-, rfl⟩ | ⟨-, rfl⟩ := deliver_cases delivered done
    · exact attentive
    · exact attentive.carried ⟨rfl, told_append delivered _, rfl, le_rfl, id, .inr (.inl rfl),
        attentive.held⟩
  | pause =>
    cases done
    split
    · rename_i active
      refine attentive.carried ⟨rfl, rfl, rfl, le_rfl, ?_, .inr (.inl rfl), attentive.held⟩
      rw [active]
      exact fun ended => by cases ended
    · exact attentive
  | resume =>
    cases done
    split
    · rename_i paused
      refine attentive.carried ⟨rfl, rfl, rfl, le_rfl, ?_, .inr (.inl rfl), attentive.held⟩
      rw [paused]
      exact fun ended => by cases ended
    · exact attentive
  | expire =>
    cases done
    exact attentive.carried ⟨rfl, rfl, rfl, le_rfl, fun _ => rfl, .inr (.inl rfl), attentive.held⟩
  | unregister =>
    cases done
    exact attentive.carried ⟨rfl, rfl, rfl, le_rfl, id, .inr (.inl rfl), attentive.held⟩
  | run input => exact attentive.runTask delivered seat done

theorem attentive_start (seat : rootRole start.1 = role) :
    Attentive start (rootBotSession unicode start role) := by
  have begins : RootBotAgent.start {} (start.observation role) = RootBotAgent.react
      { pendingMessage := some rootBotOrientation } (rootViews start.1) := by
    rw [SoundState.observation_root seat]
    rfl
  have pending := react_pendingAction { pendingMessage := some rootBotOrientation } rfl
    (rootViews start.1)
  rw [← begins] at pending
  refine ⟨?_, ?_, fun _ deciding => absurd rfl deciding, ?_, ?_, ?_⟩
  · change (RootBotAgent.start {} (start.observation role)).latestRoots = _
    rw [begins]
    exact react_latestRoots ..
  · intro action holds
    exact wanted_opens (pending.symm.trans holds)
  · intro waits
    cases waits
  · intro message notifies
    cases notifies
  · exact .inr (.inr (.inr (.inl pending)))

structure Watching (role : PlayerRole) (start : SoundState) (s : RootBotSession unicode) : Prop where
  delivered : AgentSession.Delivered role start s
  concluded : Concluded s
  attentive : Attentive start s
  capacity : s.inbox.capacity = agentInboxCapacity

theorem Watching.step (watching : Watching role start s) (seat : rootRole start.1 = role)
    {action : AgentSessionAction greatTree} (done : s.step role limit action = some t) :
    Watching role start t where
  delivered := watching.delivered.step done
  concluded := watching.concluded.step watching.delivered done
  attentive := watching.attentive.step watching.delivered seat done
  capacity := (AgentSession.played_step watching.delivered done).capacity.trans watching.capacity

theorem Watching.seat (watching : Watching role start s) (seat : rootRole start.1 = role) :
    rootRole s.state.1 = role :=
  (Replay.seat watching.delivered.replay).1.trans seat

variable {guard : RootBotSession unicode → AgentSessionAction greatTree → Prop}

theorem watching_of_run (seat : rootRole start.1 = role)
    (run : (agentSessionMachine (rootBot unicode) role limit).Run guard
      (rootBotSession unicode start role) s) : Watching role start s := by
  refine run.invariant ⟨AgentSession.delivered_start .., AgentSession.concluded_start ..,
    attentive_start seat, rfl⟩ ?_
  intro s t action watching _ step
  exact watching.step seat step

/-- A root whose limb keeps the sun keeps running. -/
theorem Inv.running_applySetSun {s : GreatTreeState} (inv : Inv s) {limb other : LimbId} {lit : Bool}
    (runs : rootOf s other ∈ s.waterHolds) (warm : other ∈ (applySetSun s limb lit).sunHolds) :
    rootOf s other ∈ (applySetSun s limb lit).waterHolds := by
  unfold applySetSun at warm ⊢
  cases lit with
  | true =>
    simp only [if_true] at warm ⊢
    split
    · exact runs
    rename_i new
    rw [if_neg new] at warm
    rw [List.contains_iff_mem] at new
    cases holds : s.sunHolds with
    | nil => exact runs
    | cons evicted rest =>
      simp only [holds] at warm ⊢
      split
      · rename_i full
        rw [if_pos full] at warm
        refine (mem_forceClosePairedRoot ..).mpr ⟨runs, inv.paired.1.ne ?_⟩
        rintro rfl
        have nodup := holds ▸ inv.sunNodup
        obtain stays | same := List.mem_append.mp warm
        · exact (List.nodup_cons.mp nodup).1 stays
        · refine new ?_
          rw [holds, ← List.mem_singleton.mp same]
          exact List.mem_cons_self
      · exact runs
  | false =>
    simp only [Bool.false_eq_true, if_false] at warm ⊢
    split
    · rename_i held
      rw [if_pos held] at warm
      refine (mem_forceClosePairedRoot ..).mpr ⟨runs, inv.paired.1.ne ?_⟩
      exact bne_iff_ne.mp (List.mem_filter.mp warm).2
    · exact runs

/-- A root that runs keeps running for as long as it is thawed. -/
def KeepsFlow (s t : GreatTreeState) : Prop :=
  ∀ root, running s root = true → thawed t root = some true → running t root = true

/-- Crown's actions are no exception. -/
theorem Inv.keepsFlow_crown {s t : GreatTreeState} (inv : Inv s) (seat : rootRole s = role)
    {action : GreatTreeAction}
    (accepted : applyAction s action (otherRole role) = some (.ok t)) : KeepsFlow s t := by
  intro root runs warm
  obtain ⟨limb, rfl⟩ := inv.paired.2 root
  obtain ⟨after, rooted, -⟩ := inv.applyAction_ok accepted
  have same : rootOf t limb = rootOf s limb := by rw [rootOf, rootOf, rooted.bijection]
  rw [← same, after.thawed_rootOf, Option.some.injEq, sun_iff] at warm
  rw [running_iff] at runs ⊢
  unfold applyAction at accepted
  split at accepted
  · cases accepted
  rename_i theirs
  cases action with
  | setSun lit isLit =>
    cases accepted
    exact inv.running_applySetSun runs warm
  | setFlow root isOpen =>
    rw [roleForAction, seat] at theirs
    exact absurd (by cases role <;> decide) theirs

/-- What the agent's own actions do: they open one thawed root, or find it open already. -/
inductive Opened (s t : GreatTreeState) : Prop where
  | nothing (limb : LimbId) (already : rootOf s limb ∈ s.waterHolds) (same : t = s)
  | root (limb : LimbId) (warm : limb ∈ s.sunHolds) (closed : rootOf s limb ∉ s.waterHolds)
      (room : s.waterHolds.length < 3) (opens : t = openRoot s limb)

theorem Opened.keepsFlow {s t : GreatTreeState} (opened : Opened s t) : KeepsFlow s t := by
  intro root runs _
  cases opened with
  | nothing limb already same => rwa [same]
  | root limb warm closed room opens =>
    rw [opens, running_iff, mem_openRoot]
    exact .inl (running_iff.mp runs)

/-- The agent has this open in its hand. -/
theorem Inv.opensRoot {s t : GreatTreeState} (inv : Inv s) {action : GreatTreeAction}
    (seat : rootRole s = role) (opens : ∃ root, action = .setFlow root true)
    (accepted : applyAction s action role = some (.ok t)) : Opened s t := by
  obtain ⟨root, rfl⟩ := opens
  obtain ⟨limb, rfl⟩ := inv.paired.2 root
  rw [← seat, inv.applyAction_open, Option.some.injEq] at accepted
  split at accepted
  · rename_i already
    cases accepted
    exact .nothing limb already rfl
  · rename_i closed
    split at accepted
    · rename_i warm
      cases accepted
      exact .root limb warm closed (inv.room warm closed) rfl
    · cases accepted

/-- In every session, a root that runs keeps running for as long as it is thawed, and all that the
agent does is to open thawed roots, for which there is always room. -/
theorem root_bot_keeps_flow (seat : rootRole start.1 = role)
    (run : (agentSessionMachine (rootBot unicode) role limit).Run guard
      (rootBotSession unicode start role) s)
    {action : AgentSessionAction greatTree}
    (step : (agentSessionMachine (rootBot unicode) role limit).step s action = some t) :
    KeepsFlow s.state.1 t.state.1 ∧
    ∀ transition, t.accepted = s.accepted ++ [transition] → transition.actor = role →
      Opened s.state.1 t.state.1 := by
  have watching := watching_of_run seat run
  have here := watching.seat seat
  have other : otherRole role ≠ role := by cases role <;> decide
  obtain ⟨-, -, ⟨state, accepted⟩ | ⟨transition, -, ok, state, accepted, actor⟩⟩ :=
    AgentSession.played_step watching.delivered step
  · rw [state, accepted]
    refine ⟨fun root runs _ => runs, fun transition grows => ?_⟩
    have longer := congrArg List.length grows
    simp at longer
  rw [state, accepted]
  have ok := SoundState.applyAction_ok.mp ok
  obtain theirs | ⟨own, message, place⟩ := actor
  · rw [theirs] at ok
    refine ⟨s.state.2.keepsFlow_crown here ok, fun last same own => ?_⟩
    cases List.append_cancel_left same
    exact absurd (theirs.symm.trans own) other
  · rw [own] at ok
    have hand : inHand s = some transition.action := by
      rw [inHand, place]
      rfl
    have opened := s.state.2.opensRoot here (watching.attentive.opens _ hand) ok
    exact ⟨opened.keepsFlow, fun _ _ _ => opened⟩

def firstStart : SoundState :=
  ⟨initialState ⟨Unit, fun _ => (), fun roots _ => (roots, ()), fun _ => LimbId.spire.index⟩ .A 0,
    inv_initialState fun _ _ => .rfl⟩

def ascii : Unicode := ⟨Char.isAlphanum, Text.lower⟩

/-- Crown sets the sun on one more limb, and the agent is about to open its root. -/
def secondSun : List (AgentSessionAction greatTree) :=
  [.run {}, .run {}, .submit (GreatTreeAction.setSun .hook true) true, .notify, .run {}, .run {}]

theorem root_bot_keeps_flow_secondSun : ∃ s t : RootBotSession ascii,
    (agentSessionMachine (rootBot ascii) .B 3).exec (rootBotSession ascii firstStart .B) secondSun =
      some s ∧ (agentSessionMachine (rootBot ascii) .B 3).step s (.run {}) = some t ∧
    t.state.1.waterHolds = [.hand, .knot] ∧ KeepsFlow s.state.1 t.state.1 ∧
    ∀ transition, t.accepted = s.accepted ++ [transition] → transition.actor = .B →
      Opened s.state.1 t.state.1 := by
  obtain ⟨s, ran⟩ : ∃ s, (agentSessionMachine (rootBot ascii) .B 3).exec
    (rootBotSession ascii firstStart .B) secondSun = some s := ⟨_, rfl⟩
  obtain ⟨t, step⟩ : ∃ t, (agentSessionMachine (rootBot ascii) .B 3).step s (.run {}) = some t := by
    cases ran
    exact ⟨_, rfl⟩
  have seat : rootRole firstStart.1 = .B := rfl
  refine ⟨s, t, ran, step, ?_, root_bot_keeps_flow seat (.of_exec_unguarded ran) step⟩
  cases ran
  cases step
  rfl

/-- An agent with an empty inbox has been told of everything. -/
theorem Watching.toldAll (watching : Watching role start s) (told : s.inbox.queue = [])
    (sent : s.notice = none) (registered : s.inbox.dropped = false) :
    s.accepted.length ≤ s.told.length := by
  have whole := watching.delivered.whole registered
  rw [← AgentSession.told_append_queue, told, sent, List.filter_nil, Option.toList_none,
    List.append_nil, List.append_nil] at whole
  rw [whole, List.length_map]

theorem Watching.rests (watching : Watching role start s) (seat : rootRole start.1 = role)
    (waits : s.place = .receiving) (told : s.inbox.queue = []) (sent : s.notice = none)
    (registered : s.inbox.dropped = false) (going : s.interaction ≠ .ended) :
    wanted (rootViews s.state.1) = none := by
  have all := watching.toldAll told sent registered
  have view := lastView_current watching.delivered seat all
  obtain stopped | awaits | settled | hand | more := watching.attentive.attentive
  · rw [waits] at stopped
    cases stopped
  · exact absurd (watching.attentive.awaiting awaits).1 going
  · rwa [view] at settled
  · rw [view, inHand_of_rests (by rw [waits]; rfl)] at hand
    exact hand.symm
  · exact absurd more (Nat.not_lt_of_le all)

/-- Once the agent waits with nothing left to be told, every thawed root runs. -/
theorem root_bot_rests (seat : rootRole start.1 = role)
    (run : (agentSessionMachine (rootBot unicode) role limit).Run guard
      (rootBotSession unicode start role) s)
    (waits : s.place = .receiving) (told : s.inbox.queue = []) (sent : s.notice = none)
    (registered : s.inbox.dropped = false) (going : s.interaction ≠ .ended)
    (warm : thawed s.state.1 root = some true) : running s.state.1 root = true :=
  running_of_wanted ((watching_of_run seat run).rests seat waits told sent registered going) warm

def secondOpen : List (AgentSessionAction greatTree) :=
  secondSun ++ [.run {}, .notify, .run {}, .run {}, .run {}]

theorem root_bot_rests_secondOpen : ∃ s : RootBotSession ascii,
    (agentSessionMachine (rootBot ascii) .B 3).exec (rootBotSession ascii firstStart .B) secondOpen =
      some s ∧ running s.state.1 .knot = true := by
  obtain ⟨s, ran⟩ : ∃ s, (agentSessionMachine (rootBot ascii) .B 3).exec
    (rootBotSession ascii firstStart .B) secondOpen = some s := ⟨_, rfl⟩
  have seat : rootRole firstStart.1 = .B := rfl
  refine ⟨s, ran, root_bot_rests seat (.of_exec_unguarded ran) ?_ ?_ ?_ ?_ ?_ ?_⟩
  · cases ran
    rfl
  · cases ran
    rfl
  · cases ran
    rfl
  · cases ran
    rfl
  · cases ran
    exact fun h => by cases h
  · cases ran
    rfl

end Parlando.GreatTree
