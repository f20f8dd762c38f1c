import Parlando.Proofs.RootBot

namespace Parlando.GreatTree

open Concurrency
open Headless (otherRole)
open AgentSession (Concluded noticeOf deliver_cases)

variable {unicode : Unicode} {role : PlayerRole} {limit : Nat} {start : SoundState}
  {s t : RootBotSession unicode}

def suggestion (observation : AgentObservation greatTree) : Option GreatTreeAction :=
  (viewOf observation).bind wanted

def suggestions (s : RootBotSession unicode) : List GreatTreeAction :=
  (inHand s).toList ++ (s.inbox.queue ++ s.notice.toList).filterMap suggestion

def frozen (s : GreatTreeState) : GreatTreeAction → Bool
  | .setFlow root true => thawed s root == some false
  | _ => false

/-- The failures that the agent has had, and those it is going to have. -/
def strikes (s : RootBotSession unicode) : Nat :=
  s.invalidActions + (suggestions s).countP (frozen s.state.1)

def placeRank (bot : RootBotAgent) : AgentPlace GreatTreeAction → Nat
  | .deciding => if bot.pendingAction.isSome then 4 else 2
  | .submitting .. => 3
  | .notifying _ => 2
  | .saying _ => 1
  | .receiving | .stopped => 0

def rank (s : RootBotSession unicode) : Nat := placeRank s.agent s.place

theorem placeRank_goesTo (bot after : RootBotAgent) :
    placeRank after bot.goesTo < placeRank bot .deciding := by
  unfold RootBotAgent.goesTo
  cases action : bot.pendingAction with
  | none =>
    cases bot.pendingMessage with
    | none => simp [placeRank, action]
    | some message => simp [placeRank, action]
  | some action' => simp [placeRank, action]

/-- What each step of a waiting session lowers: most of all a root that opens counts, then an action
that is of no use, an observation, and a notification. -/
def distance (s : RootBotSession unicode) : Nat :=
  1200 * (3 - s.state.1.waterHolds.length) + 12 * (suggestions s).countP (!useful s.state.1 ·) +
    6 * (s.inbox.queue.length + s.notice.toList.length) + s.notice.toList.length + rank s

/-- Crown holds the sun on three limbs, and the agent can still be told of it. -/
structure Hopeful (role : PlayerRole) (limit : Nat) (start : SoundState)
    (s : RootBotSession unicode) : Prop where
  watching : Watching role start s
  active : s.interaction = .active
  playing : s.place ≠ .stopped
  registered : s.inbox.dropped = false
  suns : s.state.1.sunHolds.length = 3
  unfinished : completion s.state.1 = none
  room : s.inbox.queue.length + s.notice.toList.length + (inHand s).toList.length ≤ agentInboxCapacity
  patient : strikes s < limit

structure Won (role : PlayerRole) (start : SoundState) (s : RootBotSession unicode) : Prop where
  watching : Watching role start s
  complete : (completion s.state.1).isSome = true
  ended : s.interaction = .ended

/-- What only the server's own tasks do. -/
def Waits (action : AgentSessionAction greatTree) : Prop :=
  action = .notify ∨ action = .run {}

theorem Won.step (won : Won role start s) (seat : rootRole start.1 = role)
    {action : AgentSessionAction greatTree} (done : s.step role limit action = some t) :
    Won role start t := by
  have played := AgentSession.played_step won.watching.delivered done
  refine ⟨won.watching.step seat done, ?_, played.ended won.ended⟩
  obtain ⟨same, -⟩ | ⟨transition, active, -⟩ := played.state
  · rw [same]
    exact won.complete
  · rw [won.ended] at active
    cases active

/-- A step that plays nothing keeps the session as it is, and comes closer with what it does. -/
theorem Hopeful.moved (hopeful : Hopeful role limit start s) (watching : Watching role start t)
    (state : t.state = s.state) (interaction : t.interaction = s.interaction)
    (invalid : t.invalidActions = s.invalidActions) (dropped : t.inbox.dropped = s.inbox.dropped)
    (same : suggestions t = suggestions s) (playing : t.place ≠ .stopped)
    (room : t.inbox.queue.length + t.notice.toList.length + (inHand t).toList.length ≤
      s.inbox.queue.length + s.notice.toList.length + (inHand s).toList.length)
    (less : 6 * (t.inbox.queue.length + t.notice.toList.length) + t.notice.toList.length + rank t <
      6 * (s.inbox.queue.length + s.notice.toList.length) + s.notice.toList.length + rank s) :
    Hopeful role limit start t ∧ distance t < distance s := by
  refine ⟨⟨watching, interaction.trans hopeful.active, playing, dropped.trans hopeful.registered,
    ?_, ?_, room.trans hopeful.room, ?_⟩, ?_⟩
  · rw [state]
    exact hopeful.suns
  · rw [state]
    exact hopeful.unfinished
  · rw [strikes, invalid, same, state]
    exact hopeful.patient
  · rw [distance, distance, state, same]
    omega

theorem Hopeful.working (hopeful : Hopeful role limit start s) : s.awaitingCompletion = false := by
  by_contra waits
  have ended := (hopeful.watching.attentive.awaiting (Bool.not_eq_false _ ▸ waits)).1
  rw [hopeful.active] at ended
  cases ended

theorem Hopeful.idle (hopeful : Hopeful role limit start s) (deciding : s.place ≠ .deciding) :
    RootBotAgent.pendingAction s.agent = none :=
  hopeful.watching.attentive.settled hopeful.working deciding hopeful.playing

theorem Hopeful.decide (hopeful : Hopeful role limit start s) (seat : rootRole start.1 = role)
    (deciding : s.place = .deciding) (done : s.step role limit (.run {}) = some (s.decide role)) :
    Hopeful role limit start (s.decide role) ∧ distance (s.decide role) < distance s := by
  have next := decide_eq role s
  have hand : inHand (s.decide role) = inHand s := by
    rw [inHand_decide, inHand, deciding]
  have queue : (s.decide role).inbox = s.inbox := by rw [next]
  have notice : (s.decide role).notice = s.notice := by rw [next]
  have less : rank (s.decide role) < rank s := by
    rw [rank, rank, deciding, next]
    exact placeRank_goesTo s.agent _
  refine hopeful.moved (hopeful.watching.step seat done) (by rw [next]) (by rw [next])
    (by rw [next]) (by rw [next]) ?_ ?_ ?_ ?_
  · rw [suggestions, suggestions, hand, queue, notice]
  · rw [next]
    exact (goesTo_ne s.agent).2.1
  · rw [hand, queue, notice]
  · rw [queue, notice]
    omega

theorem Hopeful.say (hopeful : Hopeful role limit start s) (seat : rootRole start.1 = role)
    {message : String} (saying : s.place = .saying message)
    (done : s.step role limit (.run {}) = some t) (next : t = { s with place := .receiving }) :
    Hopeful role limit start t ∧ distance t < distance s := by
  have hand : inHand t = inHand s := by
    rw [inHand_of_rests (by rw [next]; rfl), inHand_of_rests (by rw [saying]; rfl)]
  refine hopeful.moved (hopeful.watching.step seat done) (by rw [next]) (by rw [next])
    (by rw [next]) (by rw [next]) ?_ ?_ ?_ ?_
  · rw [suggestions, suggestions, hand, next]
  · simp [next]
  · rw [hand, next]
  · rw [rank, rank, next, saying]
    simp [placeRank]

theorem afterNotice_rank (bot : RootBotAgent) (place : AgentPlace GreatTreeAction) :
    placeRank bot place.afterNotice ≤ placeRank bot place ∧
    (place ≠ .stopped → place.afterNotice ≠ .stopped) := by
  cases place with
  | notifying message =>
    cases message with
    | none => simp [AgentPlace.afterNotice, placeRank]
    | some text => simp [AgentPlace.afterNotice, placeRank]
  | _ => simp [AgentPlace.afterNotice]

theorem inHand_afterNotice (place : t.place = s.place.afterNotice) (agent : t.agent = s.agent) :
    inHand t = inHand s := by
  unfold inHand
  rw [place, agent]
  cases s.place with
  | notifying message =>
    cases message with
    | none => rfl
    | some text => rfl
  | _ => rfl

theorem Hopeful.notify (hopeful : Hopeful role limit start s) (seat : rootRole start.1 = role)
    (done : s.step role limit .notify = some t) :
    Hopeful role limit start t ∧ distance t < distance s := by
  have delivered := hopeful.watching.delivered
  have watching := hopeful.watching.step seat done
  obtain ⟨observation, held, done⟩ := Option.bind_eq_some_iff.mp done
  obtain ⟨sent, delivers, same⟩ := Option.map_eq_some_iff.mp done
  obtain ⟨gone, -⟩ | ⟨-, rfl⟩ := deliver_cases delivered delivers
  · rw [hopeful.registered] at gone
    cases gone
  have place : t.place = s.place.afterNotice := by rw [← same]
  have agent : t.agent = s.agent := by rw [← same]
  have hand := inHand_afterNotice place agent
  have sent : t.notice = none := by rw [← same]
  have queue : t.inbox.queue = s.inbox.queue ++ [observation] := by
    rw [← same]
    exact List.drop_append_of_le_length delivered.received
  have moves := afterNotice_rank s.agent s.place
  have closer : rank t ≤ rank s := by
    rw [rank, rank, place, agent]
    exact moves.1
  have less : t.inbox.queue.length + t.notice.toList.length =
      s.inbox.queue.length + s.notice.toList.length := by
    rw [queue, sent, held, List.length_append]
    rfl
  refine hopeful.moved watching (by rw [← same]) (by rw [← same]) (by rw [← same]) (by rw [← same])
    ?_ (place ▸ moves.2 hopeful.playing) ?_ ?_
  · rw [suggestions, suggestions, hand, queue, sent, held]
    simp
  · rw [hand, less]
  · have fewer : t.notice.toList.length < s.notice.toList.length := by
      rw [sent, held]
      exact Nat.zero_lt_one
    omega

/-- Nothing that the agent is told of yet has completed the game. -/
theorem Hopeful.goesOn (hopeful : Hopeful role limit start s)
    {observation : AgentObservation greatTree} (received : s.inbox.receive = .message observation) :
    ¬((∃ actor action resulting completion, observation =
      .action actor action resulting (some completion)) ∨ limit ≤ s.invalidActions) := by
  rintro (⟨actor, action, resulting, completion, rfl⟩ | many)
  · have sent := List.mem_of_getElem? (Channel.receive_message received)
    have reported := hopeful.watching.delivered.reported.subset (List.mem_filter.mpr ⟨sent, rfl⟩)
    obtain ⟨transition, member, same⟩ := List.mem_map.mp reported
    have going := hopeful.watching.concluded.going (by simp [hopeful.active]) transition member
    simp only [noticeOf, AgentObservation.action.injEq] at same
    have completes := same.2.2.2
    rw [going] at completes
    cases completes
  · have patient := hopeful.patient
    rw [strikes] at patient
    omega

/-- The agent has in hand what the observation suggests, and the inbox has one less. -/
theorem Hopeful.observe (hopeful : Hopeful role limit start s) (seat : rootRole start.1 = role)
    {observation : AgentObservation greatTree} (receiving : s.place = .receiving)
    (received : s.inbox.receive = .message observation)
    (done : s.step role limit (.run {}) = some ((taken s).observe limit observation)) :
    Hopeful role limit start ((taken s).observe limit observation) ∧
      distance ((taken s).observe limit observation) < distance s := by
  have delivered := hopeful.watching.delivered
  have watching := hopeful.watching.step seat done
  have shown := shown_of_received delivered seat received
  have next : s.inbox.sent[s.inbox.received]? = some observation :=
    Channel.receive_message received
  have queue : s.inbox.queue = observation :: s.inbox.take.queue := by
    obtain ⟨bound, same⟩ := List.getElem?_eq_some_iff.mp next
    rw [Channel.queue, List.drop_eq_getElem_cons bound, same]
    rfl
  have idle := hopeful.idle (by simp [receiving])
  have pending := hears_pendingAction unicode shown idle
  have hand : inHand s = none := inHand_of_rests (by rw [receiving]; rfl)
  obtain ⟨ends, -⟩ | same := observe_cases limit (taken s) observation
  · exact absurd ends (hopeful.goesOn received)
  rw [AgentSession.continueLoop, if_neg (by rw [Bool.not_eq_true]; exact hopeful.working)] at same
  have holds : inHand ((taken s).observe limit observation) = suggestion observation := by
    rw [same]
    exact pending
  refine hopeful.moved watching (by rw [same]) (by rw [same]) (by rw [same])
    (by rw [same]; rfl) ?_ ?_ ?_ ?_
  · rw [suggestions, suggestions, holds, hand, queue, same]
    cases wants : suggestion observation with
    | none => simp [wants]
    | some action => simp [wants]
  · simp [same]
  · rw [holds, hand, queue, same]
    have one : (suggestion observation).toList.length ≤ 1 := by
      cases suggestion observation <;> simp
    simp only [List.length_cons, Option.toList_none, List.length_nil]
    omega
  · rw [queue, rank, rank, same, receiving]
    simp only [placeRank, List.length_cons]
    split <;> omega

theorem Inv.frozen_rootOf {s : GreatTreeState} (inv : Inv s) (limb : LimbId) :
    frozen s (.setFlow (rootOf s limb) true) = true ↔ limb ∉ s.sunHolds := by
  rw [frozen, inv.thawed_rootOf, beq_iff_eq, Option.some.injEq, Bool.eq_false_iff, ne_eq, sun_iff]

theorem Inv.frozen_of_useful {s : GreatTreeState} (inv : Inv s) {action : GreatTreeAction}
    (uses : useful s action = true) : frozen s action = false := by
  cases action with
  | setSun limb lit => rfl
  | setFlow root isOpen =>
    cases isOpen with
    | false => rfl
    | true =>
      obtain ⟨limb, rfl⟩ := inv.paired.2 root
      rw [Bool.eq_false_iff, ne_eq, inv.frozen_rootOf, not_not]
      exact ((inv.useful_rootOf limb).mp uses).1

/-- A rejected open was of a frozen root. -/
theorem frozen_of_rejected {state : SoundState} {action : GreatTreeAction}
    (seat : rootRole state.1 = role) (opens : ∃ root, action = .setFlow root true)
    {rejection : ActionRejection} (rejected : state.applyAction action role = .error rejection) :
    frozen state.1 action = true ∧ useful state.1 action = false := by
  have useless : useful state.1 action = false := by
    by_contra uses
    exact useful_accepted seat (Bool.not_eq_false _ ▸ uses) rejected
  obtain ⟨root, rfl⟩ := opens
  obtain ⟨limb, rfl⟩ := state.2.paired.2 root
  refine ⟨(state.2.frozen_rootOf limb).mpr fun warm => ?_, useless⟩
  have accepts := state.2.applyAction_open limb
  rw [seat, if_pos warm] at accepts
  have ok : ∃ after, GreatTree.applyAction state.1 (.setFlow (rootOf state.1 limb) true) role =
      some (.ok after) := by
    rw [accepts]
    split
    · exact ⟨_, rfl⟩
    · exact ⟨_, rfl⟩
  obtain ⟨after, ok⟩ := ok
  have sound := (state.2.applyAction_ok ok).1
  have accepted : state.applyAction _ role = .ok ⟨after, sound⟩ := SoundState.applyAction_ok.mpr ok
  rw [accepted] at rejected
  cases rejected

theorem frozen_openRoot (s : GreatTreeState) (limb : LimbId) : frozen (openRoot s limb) = frozen s := by
  funext action
  cases action with
  | setSun limb lit => rfl
  | setFlow root isOpen => rfl

theorem Opened.frozen {s t : GreatTreeState} (opened : Opened s t) :
    GreatTree.frozen t = GreatTree.frozen s := by
  cases opened with
  | nothing _ _ same => rw [same]
  | root limb warm closed room opens => rw [opens, frozen_openRoot]

theorem Opened.sunHolds {s t : GreatTreeState} (opened : Opened s t) : t.sunHolds = s.sunHolds := by
  cases opened with
  | nothing _ _ same => rw [same]
  | root limb warm closed room opens => rw [opens, openRoot]

/-- An accepted open has opened a root, or it was of no use. -/
theorem Opened.progress {s t : GreatTreeState} (opened : Opened s t) (inv : Inv s)
    {action : GreatTreeAction} (opens : ∃ root, action = .setFlow root true)
    (accepted : applyAction s action (rootRole s) = some (.ok t)) :
    t = s ∧ useful s action = false ∨ t.waterHolds.length = s.waterHolds.length + 1 := by
  cases opened with
  | root limb warm closed room opens =>
    rw [opens, openRoot, List.length_append, List.length_singleton]
    exact .inr rfl
  | nothing _ _ same =>
    refine .inl ⟨same, ?_⟩
    obtain ⟨root, rfl⟩ := opens
    obtain ⟨limb, rfl⟩ := inv.paired.2 root
    rw [Bool.eq_false_iff, ne_eq, inv.useful_rootOf]
    rintro ⟨warm, closed⟩
    rw [inv.applyAction_open, if_neg closed, if_pos warm, Option.some.injEq, same] at accepted
    have grown := congrArg (fun s => s.waterHolds.length) (Except.ok.inj accepted)
    simp [openRoot] at grown

/-- What the agent makes of its own notification is of use. -/
theorem suggestion_own (transition : Accepted greatTree)
    (seat : rootRole transition.after.1 = role) :
    (suggestion (noticeOf role transition)).toList.countP (frozen transition.after.1) = 0 ∧
    (suggestion (noticeOf role transition)).toList.countP (!useful transition.after.1 ·) = 0 := by
  have uses : ∀ action ∈ (suggestion (noticeOf role transition)).toList,
      useful transition.after.1 action = true := by
    intro action wants
    rw [suggestion, viewOf_noticeOf seat, Option.bind_some, Option.mem_toList] at wants
    exact transition.after.2.useful_of_wanted wants
  constructor
  · refine List.countP_eq_zero.mpr fun action wants => ?_
    simp [transition.after.2.frozen_of_useful (uses action wants)]
  · refine List.countP_eq_zero.mpr fun action wants => ?_
    simp [uses action wants]

theorem Hopeful.reject (hopeful : Hopeful role limit start s) (seat : rootRole start.1 = role)
    {action : GreatTreeAction} {message : Option String}
    (submitting : s.place = .submitting action message) {rejection : ActionRejection}
    (rejected : s.state.applyAction action role = .error rejection)
    (done : s.step role limit (.run {}) =
      some (s.submitOwn role limit action message {})) :
    Hopeful role limit start (s.submitOwn role limit action message {}) ∧
      distance (s.submitOwn role limit action message {}) < distance s := by
  have watching := hopeful.watching.step seat done
  have here := hopeful.watching.seat seat
  have hand : inHand s = some action := by
    rw [inHand, submitting]
  have idle := hopeful.idle (by simp [submitting])
  obtain ⟨isFrozen, useless⟩ :=
    frozen_of_rejected here (hopeful.watching.attentive.opens action hand) rejected
  have split : suggestions s =
      action :: (s.inbox.queue ++ s.notice.toList).filterMap suggestion := by
    rw [suggestions, hand]
    rfl
  have patient := hopeful.patient
  rw [strikes, split, List.countP_cons_of_pos isFrozen] at patient
  have next : s.submitOwn role limit action message {} =
      { s with invalidActions := s.invalidActions + 1, place := .deciding } := by
    have rejected : greatTree.applyAction s.state action role = .error rejection := rejected
    unfold AgentSession.submitOwn
    rw [if_neg (by simp [hopeful.active]), rejected]
    dsimp only
    rw [if_pos (by omega)]
  have holds : inHand (s.submitOwn role limit action message {}) = none := by
    rw [next]
    exact idle
  have rest : suggestions (s.submitOwn role limit action message {}) =
      (s.inbox.queue ++ s.notice.toList).filterMap suggestion := by
    rw [suggestions, holds, next]
    rfl
  have room := hopeful.room
  refine ⟨⟨watching, ?_, ?_, ?_, ?_, ?_, ?_, ?_⟩, ?_⟩
  · rw [next]
    exact hopeful.active
  · simp [next]
  · rw [next]
    exact hopeful.registered
  · rw [next]
    exact hopeful.suns
  · rw [next]
    exact hopeful.unfinished
  · rw [holds, next]
    exact (Nat.le_add_right _ _).trans room
  · rw [strikes, rest, next]
    dsimp only
    omega
  · have before : rank s = 3 := by rw [rank, submitting]; rfl
    have after : rank (s.submitOwn role limit action message {}) = 2 := by
      rw [next]
      exact if_neg (by simp [idle])
    rw [distance, distance, before, after, split, rest, List.countP_cons_of_pos (by simp [useless]),
      next]
    dsimp only
    omega

theorem Hopeful.commit (hopeful : Hopeful role limit start s) (seat : rootRole start.1 = role)
    {action : GreatTreeAction} {message : Option String}
    (submitting : s.place = .submitting action message) (free : s.notice = none)
    {after : SoundState} (ok : s.state.applyAction action role = .ok after)
    (done : s.step role limit (.run {}) =
      some (s.submitOwn role limit action message {})) :
    Won role start (s.submitOwn role limit action message {}) ∨
    Hopeful role limit start (s.submitOwn role limit action message {}) ∧
      distance (s.submitOwn role limit action message {}) < distance s := by
  have watching := hopeful.watching.step seat done
  have here := hopeful.watching.seat seat
  have hand : inHand s = some action := by
    rw [inHand, submitting]
  have opens := hopeful.watching.attentive.opens action hand
  have accepted := SoundState.applyAction_ok.mp ok
  have opened := s.state.2.opensRoot here opens accepted
  have next : s.submitOwn role limit action message {} =
      { s.commit role role action after with
        place := .notifying message
        awaitingCompletion := (completion after.1).isSome } := by
    have ok : greatTree.applyAction s.state action role = .ok after := ok
    unfold AgentSession.submitOwn
    rw [if_neg (by simp [hopeful.active]), ok]
    rfl
  cases complete : completion after.1 with
  | some flowered =>
    refine .inl ⟨watching, ?_, ?_⟩
    · rw [next]
      exact Option.isSome_iff_exists.mpr ⟨flowered, complete⟩
    · rw [next]
      exact if_pos (Option.isSome_iff_exists.mpr ⟨flowered, complete⟩)
  | none =>
    have seated : rootRole after.1 = role := by
      rw [← here, rootRole, rootRole, (s.state.2.applyAction_ok accepted).2.1.crownSeat]
    let own : Accepted greatTree := ⟨role, action, after⟩
    have queue : (s.submitOwn role limit action message {}).inbox.queue = s.inbox.queue := by
      rw [next]
      rfl
    have notice : (s.submitOwn role limit action message {}).notice = some (noticeOf role own) := by
      rw [next]
      rfl
    have state : (s.submitOwn role limit action message {}).state = after := by
      rw [next]
      rfl
    have holds : inHand (s.submitOwn role limit action message {}) = none := by
      rw [next]
      rfl
    have before : suggestions s = action :: s.inbox.queue.filterMap suggestion := by
      rw [suggestions, hand, free, Option.toList_none, List.append_nil]
      rfl
    have now : suggestions (s.submitOwn role limit action message {}) =
        s.inbox.queue.filterMap suggestion ++ (suggestion (noticeOf role own)).toList := by
      rw [suggestions, holds, queue, notice, List.filterMap_append]
      cases wants : suggestion (noticeOf role own) with
      | none => simp [wants]
      | some action => simp [wants]
    obtain ⟨noneFrozen, noneUseless⟩ := suggestion_own own seated
    have room := hopeful.room
    have patient := hopeful.patient
    rw [free, hand, Option.toList_none, Option.toList_some, List.length_nil,
      List.length_singleton] at room
    refine .inr ⟨⟨watching, ?_, ?_, ?_, ?_, ?_, ?_, ?_⟩, ?_⟩
    · have unfinished : (greatTree.completion after).isSome = false := by
        change (completion after.1).isSome = false
        rw [complete]
        rfl
      rw [next]
      change (if (greatTree.completion after).isSome then _ else s.interaction) = _
      rw [unfinished]
      exact hopeful.active
    · simp [next]
    · rw [next]
      exact hopeful.registered
    · rw [state, opened.sunHolds]
      exact hopeful.suns
    · rw [state]
      exact complete
    · rw [queue, notice, holds, Option.toList_some, Option.toList_none, List.length_singleton,
        List.length_nil]
      exact room
    · have invalid : (s.submitOwn role limit action message {}).invalidActions = s.invalidActions := by
        rw [next]
        rfl
      rw [strikes, before] at patient
      rw [strikes, invalid, state, now, List.countP_append, noneFrozen, opened.frozen]
      have fewer := List.countP_cons (p := frozen s.state.1) (a := action)
        (l := s.inbox.queue.filterMap suggestion)
      omega
    · have short := (s.inbox.queue.filterMap suggestion).countP_le_length (p := (!useful after.1 ·))
      have shorter := List.length_filterMap_le suggestion s.inbox.queue
      have rankBefore : rank s = 3 := by rw [rank, submitting]; rfl
      have rankNow : rank (s.submitOwn role limit action message {}) = 2 := by
        rw [next]
        rfl
      rw [distance, distance, rankBefore, rankNow, state, now, before, queue, notice, free,
        List.countP_append, noneUseless]
      simp only [Option.toList_some, Option.toList_none, List.length_singleton, List.length_nil]
      obtain ⟨same, useless⟩ | grown :=
        opened.progress s.state.2 opens (here.symm ▸ accepted)
      · rw [same, List.countP_cons_of_pos (by simp [useless])]
        omega
      · have fits := after.2.waterShort
        have room : s.inbox.queue.length + 0 + 1 ≤ 64 := room
        omega

theorem Hopeful.opened (hopeful : Hopeful role limit start s) : s.inbox.closed = false := by
  by_contra closed
  have gone := hopeful.watching.delivered.closed (Bool.not_eq_false _ ▸ closed)
  rw [hopeful.registered] at gone
  cases gone

/-- The agent gets its next observation, or waits for it. -/
theorem Hopeful.receive (hopeful : Hopeful role limit start s) :
    (∃ observation, s.inbox.receive = .message observation) ∨
      s.inbox.queue = [] ∧ s.inbox.receive = .pending := by
  unfold Channel.receive
  cases next : s.inbox.sent[s.inbox.received]? with
  | some observation => exact .inl ⟨observation, rfl⟩
  | none =>
    refine .inr ⟨List.drop_eq_nil_of_le (List.getElem?_eq_none_iff.mp next), ?_⟩
    simp [hopeful.opened, hopeful.registered]

theorem Hopeful.step (hopeful : Hopeful role limit start s) (seat : rootRole start.1 = role)
    {action : AgentSessionAction greatTree} (waits : Waits action)
    (done : s.step role limit action = some t) :
    Won role start t ∨ Hopeful role limit start t ∧ distance t < distance s := by
  obtain rfl | rfl := waits
  · exact .inr (hopeful.notify seat done)
  have ran : s.runTask role limit {} = some t := done
  unfold AgentSession.runTask at ran
  cases place : s.place with
  | deciding =>
    simp only [place, if_true, Option.some.injEq] at ran
    subst ran
    exact .inr (hopeful.decide seat place done)
  | submitting action message =>
    simp only [place, if_true] at ran
    split at ran
    · cases ran
    rename_i free
    rw [Option.not_isSome_iff_eq_none] at free
    rw [Option.some.injEq] at ran
    subst ran
    cases outcome : s.state.applyAction action role with
    | error rejection => exact .inr (hopeful.reject seat place outcome done)
    | ok after => exact hopeful.commit seat place free outcome done
  | saying message =>
    simp only [place, Option.some.injEq] at ran
    exact .inr (hopeful.say seat place done ran.symm)
  | receiving =>
    simp only [place] at ran
    split at ran
    · rename_i observation received
      rw [Option.some.injEq] at ran
      subst ran
      exact .inr (hopeful.observe seat place received done)
    · rename_i ended
      obtain ⟨observation, received⟩ | ⟨-, pending⟩ := hopeful.receive
      · rw [received] at ended
        cases ended
      · rw [pending] at ended
        cases ended
    · cases ran
  | notifying message => simp [place] at ran
  | stopped => simp [place] at ran

/-- The lock holder's notification finds a place in the inbox. -/
theorem Hopeful.notifies (hopeful : Hopeful role limit start s) (sends : s.notice.isSome = true) :
    (s.step role limit .notify).isSome = true := by
  obtain ⟨observation, held⟩ := Option.isSome_iff_exists.mp sends
  have room := hopeful.room
  rw [held, Option.toList_some, List.length_singleton] at room
  have fits : s.inbox.queue.length + s.inbox.reserved < s.inbox.capacity := by
    rw [hopeful.watching.delivered.unreserved, hopeful.watching.capacity]
    omega
  have delivers : (s.deliver observation).isSome = true := by
    unfold AgentSession.deliver Channel.reserve
    simp [hopeful.registered, hopeful.opened, fits]
  change (s.sendNotice).isSome = true
  rw [AgentSession.sendNotice, held, Option.bind_some, Option.isSome_map]
  exact delivers

/-- With the sun on three limbs and all their roots open, the tree has flowered. -/
theorem Inv.completion_of_wanted {s : GreatTreeState} (inv : Inv s)
    (suns : s.sunHolds.length = 3) (wants : wanted (rootViews s) = none) :
    (GreatTree.completion s).isSome = true := by
  rw [inv.completion]
  have subset : s.sunHolds.map (rootOf s) ⊆ s.waterHolds := by
    intro root member
    obtain ⟨limb, warm, rfl⟩ := List.mem_map.mp member
    refine running_iff.mp (running_of_wanted wants ?_)
    rw [inv.thawed_rootOf, sun_iff.mpr warm]
  have nodup : (s.sunHolds.map (rootOf s)).Nodup := inv.sunNodup.map inv.paired.1
  have fits := (List.subperm_of_subset nodup subset).length_le
  rw [List.length_map, suns] at fits
  exact Nat.le_antisymm inv.waterShort fits

/-- Until the tree has flowered, one of the server's tasks can go on. -/
theorem Hopeful.progress (hopeful : Hopeful role limit start s) (seat : rootRole start.1 = role) :
    ∃ action, Waits action ∧ (s.step role limit action).isSome = true := by
  by_cases sends : s.notice.isSome = true
  · exact ⟨.notify, .inl rfl, hopeful.notifies sends⟩
  refine ⟨.run {}, .inr rfl, ?_⟩
  change (s.runTask role limit {}).isSome = true
  unfold AgentSession.runTask
  cases place : s.place with
  | deciding => rfl
  | submitting action message =>
    dsimp only
    rw [if_neg sends]
    rfl
  | saying message => rfl
  | notifying message => exact absurd (hopeful.watching.attentive.held message place) sends
  | stopped => exact absurd place hopeful.playing
  | receiving =>
    rw [Option.not_isSome_iff_eq_none] at sends
    obtain ⟨observation, received⟩ | ⟨told, -⟩ := hopeful.receive
    · simp only [received]
      rfl
    have going : s.interaction ≠ .ended := by simp [hopeful.active]
    have wants := hopeful.watching.rests seat place told sends hopeful.registered going
    have complete := s.state.2.completion_of_wanted hopeful.suns wants
    rw [hopeful.unfinished] at complete
    cases complete

theorem Watching.unfinished (watching : Watching role start s) (active : s.interaction = .active)
    (fresh : completion start.1 = none) : completion s.state.1 = none := by
  have last := Replay.last watching.delivered.replay
  cases final : s.accepted.getLast? with
  | none =>
    rw [final] at last
    rwa [← last]
  | some transition =>
    rw [final] at last
    rw [← last]
    exact watching.concluded.going (by simp [active]) transition (List.mem_of_getLast? final)

theorem Hopeful.distance_lt (hopeful : Hopeful role limit start s) : distance s < 5000 := by
  have room : _ ≤ 64 := hopeful.room
  have useless := (suggestions s).countP_le_length (p := (!useful s.state.1 ·))
  have shorter := List.length_filterMap_le suggestion (s.inbox.queue ++ s.notice.toList)
  have near : rank s ≤ 4 := by
    unfold rank placeRank
    split
    · split <;> decide
    all_goals decide
  rw [suggestions, List.length_append] at useless
  rw [List.length_append] at shorter
  rw [distance, suggestions]
  omega

/-- Where Crown holds the sun on three limbs and waits, the tree flowers within a bounded number of
the server's own steps, in whatever order they are taken, and until then they never get stuck. -/
theorem root_bot_wins {guard : RootBotSession unicode → AgentSessionAction greatTree → Prop}
    (seat : rootRole start.1 = role) (fresh : completion start.1 = none)
    (run : (agentSessionMachine (rootBot unicode) role limit).Run guard
      (rootBotSession unicode start role) s)
    (active : s.interaction = .active) (playing : s.place ≠ .stopped)
    (registered : s.inbox.dropped = false) (suns : s.state.1.sunHolds.length = 3)
    (room : s.inbox.queue.length + s.notice.toList.length < agentInboxCapacity)
    (patient : strikes s < limit) {as : List (AgentSessionAction greatTree)}
    (waits : ∀ action ∈ as, Waits action)
    (ran : (agentSessionMachine (rootBot unicode) role limit).exec s as = some t) :
    (completion t.state.1).isSome = true ∨ as.length < 5000 ∧ ∃ action, Waits action ∧
      ((agentSessionMachine (rootBot unicode) role limit).step t action).isSome = true := by
  have watching := watching_of_run seat run
  have one : (inHand s).toList.length ≤ 1 := by cases inHand s <;> simp
  have hopeful : Hopeful role limit start s := ⟨watching, active, playing, registered, suns,
    watching.unfinished active fresh, by omega, patient⟩
  obtain won | ⟨later, short⟩ := Machine.exec_variant distance
    (fun hopeful allowed step => Hopeful.step hopeful seat allowed step)
    (fun won _ step => Won.step won seat step) waits hopeful ran
  · exact .inl won.complete
  · have near := hopeful.distance_lt
    exact .inr ⟨by omega, later.progress seat⟩

/-- Crown sets the sun on two more limbs, and the agent is told of both. -/
def threeSuns : List (AgentSessionAction greatTree) :=
  [.run {}, .run {}, .submit (GreatTreeAction.setSun .hook true) true, .notify,
    .submit (GreatTreeAction.setSun .nub true) true, .notify]

def firstOpen : List (AgentSessionAction greatTree) := [.run {}, .run {}, .run {}, .notify]

theorem root_bot_wins_firstOpen : ∃ s t : RootBotSession ascii,
    (agentSessionMachine (rootBot ascii) .B 3).exec (rootBotSession ascii firstStart .B) threeSuns =
      some s ∧ (agentSessionMachine (rootBot ascii) .B 3).exec s firstOpen = some t ∧
    ((completion t.state.1).isSome = true ∨ firstOpen.length < 5000 ∧ ∃ action, Waits action ∧
      ((agentSessionMachine (rootBot ascii) .B 3).step t action).isSome = true) := by
  obtain ⟨s, ran⟩ : ∃ s, (agentSessionMachine (rootBot ascii) .B 3).exec
    (rootBotSession ascii firstStart .B) threeSuns = some s := ⟨_, rfl⟩
  obtain ⟨t, opens⟩ : ∃ t, (agentSessionMachine (rootBot ascii) .B 3).exec s firstOpen = some t := by
    cases ran
    exact ⟨_, rfl⟩
  have seat : rootRole firstStart.1 = .B := rfl
  refine ⟨s, t, ran, opens,
    root_bot_wins seat rfl (.of_exec_unguarded ran) ?_ ?_ ?_ ?_ ?_ ?_ ?_ opens⟩
  · cases ran
    rfl
  · cases ran
    exact fun h => by cases h
  · cases ran
    rfl
  · cases ran
    rfl
  · cases ran
    decide
  · cases ran
    decide
  · simp [firstOpen, Waits]

end Parlando.GreatTree
