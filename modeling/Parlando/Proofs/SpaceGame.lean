import Parlando.SpaceGame.StateEngine
import Mathlib.Data.List.Nodup
import Mathlib.Tactic.SplitIfs

namespace Parlando.SpaceGame

open Concurrency

variable {s t : SpaceGameState} {before : Systems} {player : String} {action : SpaceAction}
  {actor : PlayerRole}

structure PlayerState.Grounded (p : PlayerState) : Prop where
  room : roomAtPosition p.position = some p.room
  plate : p.plateHeld = true ↔ p.position = ⟨7, 2⟩

structure Battery.Sound (battery : Battery) : Prop where
  located : battery.location = "charger" ∨ battery.location = "signal"
  charged : battery.location = "signal" → battery.charged = true
  spent : battery.spent = true → battery.location = "signal"

/-- What is known later: lists that start with the earlier ones, without new duplicates. -/
structure Knowledge.Grows (k k' : Knowledge) : Prop where
  a : k.a <+: k'.a
  b : k.b <+: k'.b
  nodupA : k.a.Nodup → k'.a.Nodup
  nodupB : k.b.Nodup → k'.b.Nodup

theorem Knowledge.Grows.refl (k : Knowledge) : k.Grows k :=
  ⟨List.prefix_rfl, List.prefix_rfl, id, id⟩

theorem Knowledge.Grows.trans {k k' k'' : Knowledge} (first : k.Grows k') (second : k'.Grows k'') :
    k.Grows k'' :=
  ⟨first.a.trans second.a, first.b.trans second.b,
    second.nodupA ∘ first.nodupA, second.nodupB ∘ first.nodupB⟩

/-- What an action of the station keeps of the players, the battery and what they know. -/
structure Kept (s t : SpaceGameState) : Prop where
  players : t.players = s.players
  battery : s.battery.Sound → t.battery.Sound
  knowledge : s.knowledge.Grows t.knowledge
  beacon : t.beaconLaunched = s.beaconLaunched

theorem Kept.trans {u : SpaceGameState} (first : Kept s t) (second : Kept t u) : Kept s u :=
  ⟨second.players.trans first.players, second.battery ∘ first.battery,
    first.knowledge.trans second.knowledge, second.beacon.trans first.beacon⟩

def Knowledge.learn (k : Knowledge) (player text : String) : Knowledge :=
  (reveal { initialState with knowledge := k } player text).knowledge

/-- Revealing changes nothing else. -/
theorem reveal_eq (s : SpaceGameState) (player text : String) :
    reveal s player text = { s with knowledge := s.knowledge.learn player text } := by
  unfold reveal Knowledge.learn reveal
  split <;> rfl

theorem Knowledge.grows_learn (k : Knowledge) (player text : String) :
    k.Grows (k.learn player text) := by
  have learned (items : List String) :
      items <+: (if items.contains text then items else items ++ [text]) ∧
        (items.Nodup → (if items.contains text then items else items ++ [text]).Nodup) := by
    split
    · exact ⟨List.prefix_rfl, id⟩
    · rename_i new
      refine ⟨List.prefix_append .., fun nodup => ?_⟩
      rw [← List.concat_eq_append]
      exact nodup.concat (by simpa using new)
  unfold learn reveal
  split
  · exact ⟨List.prefix_rfl, (learned k.b).1, id, (learned k.b).2⟩
  · exact ⟨(learned k.a).1, List.prefix_rfl, (learned k.a).2, id⟩

theorem Kept.reveal {text : String} (kept : Kept s t) :
    Kept s (SpaceGame.reveal t player text) := by
  refine kept.trans ?_
  rw [reveal_eq]
  exact ⟨rfl, id, t.knowledge.grows_learn player text, rfl⟩

theorem Kept.ite {u : SpaceGameState} {c : Prop} [Decidable c] (yes : c → Kept s t)
    (no : Kept s u) : Kept s (if c then t else u) := by
  split
  · rename_i holds
    exact yes holds
  · exact no

/-- A battery that is not at the signal array may lose its charge. -/
theorem Kept.discharge (kept : Kept s t) (away : t.battery.location ≠ "signal") :
    Kept s { t with battery.charged := false } :=
  kept.trans ⟨rfl, fun sound => ⟨sound.located, (absurd · away), sound.spent⟩, .refl _, rfl⟩

def toggleFuseAlone (s : SpaceGameState) : String → SpaceGameState
  | "yellow" => { s with fuses.yellow := !s.fuses.yellow }
  | "red" => { s with fuses.red := !s.fuses.red }
  | _ => { s with fuses.blue := !s.fuses.blue }

theorem kept_toggleFuse (s : SpaceGameState) (player color : String) :
    Kept s (toggleFuse s player color).1 := by
  have toggled : Kept s (toggleFuseAlone s color) := by
    unfold toggleFuseAlone
    split <;> exact ⟨rfl, id, .refl _, rfl⟩
  unfold toggleFuse
  dsimp only
  refine .ite (fun _ => .reveal (.ite (fun _ => .reveal (.reveal ?_)) toggled))
    (.ite (fun _ => .reveal (.reveal ?_)) toggled)
  all_goals exact toggled.trans ⟨rfl, id, .refl _, rfl⟩

theorem kept_toggleBreaker (s : SpaceGameState) (breaker : String) :
    Kept s (toggleBreaker s breaker).1 := by
  have toggled : Kept s (if breaker = "aux" then { s with breakers.aux := !s.breakers.aux }
      else { s with breakers.main := !s.breakers.main }) :=
    .ite (fun _ => ⟨rfl, id, .refl _, rfl⟩) ⟨rfl, id, .refl _, rfl⟩
  unfold toggleBreaker
  dsimp only
  refine .ite (fun off => .discharge (.ite (fun _ => .reveal (.reveal ?_)) toggled) off.2.2)
    (.ite (fun _ => .reveal (.reveal ?_)) toggled)
  all_goals exact toggled.trans ⟨rfl, id, .refl _, rfl⟩

def setValveAlone (s : SpaceGameState) (isOpen : Bool) : String → SpaceGameState
  | "C" => { s with valves.c := isOpen }
  | "floodgate" => { s with valves.floodgate := isOpen }
  | _ => { s with valves.a := isOpen }

theorem kept_setValve (s : SpaceGameState) (before : Systems) (valve : String) (isOpen : Bool) :
    Kept s (setValve s before valve isOpen).1 := by
  have turned : Kept s (setValveAlone s isOpen valve) := by
    unfold setValveAlone
    split <;> exact ⟨rfl, id, .refl _, rfl⟩
  unfold setValve
  dsimp only
  refine .ite (fun _ => .reveal ?_) (.ite (fun _ => ?_) (.ite (fun _ => turned.reveal) turned))
  all_goals exact turned.trans ⟨rfl, id, .refl _, rfl⟩

theorem kept_chargeBattery (s : SpaceGameState) (before : Systems) (player : String) :
    Kept s (chargeBattery s before player) := by
  unfold chargeBattery
  dsimp only
  refine .ite (fun _ => .reveal (.reveal ⟨rfl, fun sound => ?_, .refl _, rfl⟩))
    (.reveal ⟨rfl, id, .refl _, rfl⟩)
  exact ⟨sound.located, fun _ => rfl, nofun⟩

theorem kept_moveBattery (s : SpaceGameState) (player : String) :
    Kept s (moveBattery s player) := by
  unfold moveBattery
  dsimp only
  refine .ite (fun _ => .ite (fun charged => ?_) (.reveal ⟨rfl, id, .refl _, rfl⟩)) ?_
  · have moved : Kept s { s with battery.location := "signal" } :=
      ⟨rfl, fun _ => ⟨.inr rfl, fun _ => charged, fun _ => rfl⟩, .refl _, rfl⟩
    exact .ite (fun _ => moved.reveal) moved
  · refine ⟨rfl, fun _ => ⟨.inl rfl, fun signal => ?_, nofun⟩, .refl _, rfl⟩
    simp at signal

theorem kept_setRelay (s : SpaceGameState) (before : Systems) (mode : String) :
    Kept s (setRelay s before mode).1 := by
  have turned : Kept s { s with relay := mode } := ⟨rfl, id, .refl _, rfl⟩
  unfold setRelay
  exact .ite (fun _ => turned.reveal.reveal) turned

/-- A launch that is not ready costs the battery its pulse. -/
theorem launchBeacon_cases (s : SpaceGameState) (before : Systems) (player : String) :
    (before.readyToLaunch = true ∧
      launchBeacon s before player = { s with beaconLaunched := true }) ∨
    Kept s (launchBeacon s before player) := by
  unfold launchBeacon
  split
  · rename_i ready
    exact .inl ⟨ready, rfl⟩
  · refine .inr (.ite (fun early => .reveal ?_) ⟨rfl, id, .refl _, rfl⟩)
    exact ⟨rfl, fun sound => ⟨sound.located, sound.charged, fun _ => early.1⟩, .refl _, rfl⟩

/-- Every action but a move leaves the players where they are; one of them may launch. -/
theorem perform_cases (s : SpaceGameState) (before : Systems) (action : SpaceAction)
    (stays : ∀ player direction, action ≠ .moveStep player direction) :
    (∃ player, action = .launchBeacon player ∧ before.readyToLaunch = true ∧
      (perform s before action).1 = { s with beaconLaunched := true }) ∨
    Kept s (perform s before action).1 := by
  cases action with
  | moveStep player direction => exact absurd rfl (stays player direction)
  | toggleFuse player color => exact .inr (kept_toggleFuse ..)
  | toggleBreaker player breaker => exact .inr (kept_toggleBreaker ..)
  | setValve player valve isOpen => exact .inr (kept_setValve ..)
  | holdOverride player held =>
    exact .inr (.ite (fun _ => .reveal ⟨rfl, id, .refl _, rfl⟩) ⟨rfl, id, .refl _, rfl⟩)
  | chargeBattery player => exact .inr (kept_chargeBattery ..)
  | moveBattery player => exact .inr (kept_moveBattery ..)
  | cycleRelay player => exact .inr (kept_setRelay ..)
  | launchBeacon player =>
    exact (launchBeacon_cases s before player).imp_left fun ⟨ready, launched⟩ =>
      ⟨player, rfl, ready, launched⟩

def setKnowledge (s : SpaceGameState) (player : String) (items : List String) : SpaceGameState :=
  if player = "B" then { s with knowledge.b := items } else { s with knowledge.a := items }

structure PlayerState.Enters (p next : PlayerState) (before : Systems) : Prop where
  grounded : next.Grounded
  crossing : p.room ≠ next.room → doorKindForStep p.position next.position ≠ none
  airlock : next.room = "airlock" → p.room ≠ "airlock" → before.doorAccess = true

theorem isPlate_iff (position : Position) :
    (position.x == 7 && position.y == 2) = true ↔ position = ⟨7, 2⟩ := by
  cases position
  simp

theorem setKnowledge_self (s : SpaceGameState) (player : String) : ∃ items,
    s = setKnowledge s player items := by
  unfold setKnowledge
  split
  · exact ⟨s.knowledge.b, rfl⟩
  · exact ⟨s.knowledge.a, rfl⟩

theorem reveal_eq_setKnowledge (s : SpaceGameState) (player text : String) : ∃ items,
    reveal s player text = setKnowledge s player items := by
  unfold reveal setKnowledge
  split <;> exact ⟨_, rfl⟩

/-- A move is refused, possibly with a hint, or it leads one step further. -/
theorem applyMoveStep_cases (s : SpaceGameState) (before : Systems) (player direction : String) :
    (∃ items, applyMoveStep s before player direction = setKnowledge s player items ∧
      Kept s (setKnowledge s player items)) ∨
    ∃ next, applyMoveStep s before player direction = setPlayerState s player next ∧
      (playerState s player).Enters next before := by
  have refused : ∃ items, s = setKnowledge s player items ∧
      Kept s (setKnowledge s player items) := by
    obtain ⟨items, same⟩ := setKnowledge_self s player
    exact ⟨items, same, same ▸ ⟨rfl, id, .refl _, rfl⟩⟩
  have hinted (text : String) : ∃ items, reveal s player text = setKnowledge s player items ∧
      Kept s (setKnowledge s player items) := by
    obtain ⟨items, same⟩ := reveal_eq_setKnowledge s player text
    exact ⟨items, same, same ▸ .reveal ⟨rfl, id, .refl _, rfl⟩⟩
  unfold applyMoveStep
  dsimp only
  split
  · exact .inl refused
  rename_i room here
  split
  · exact .inl refused
  rename_i passable
  split
  · exact .inl (hinted _)
  rename_i hatch
  split
  · refine .inr ⟨_, rfl, ⟨here, isPlate_iff _⟩, ?_, ?_⟩
    · exact fun other closed => passable ⟨other, closed⟩
    · intro airlock outside
      by_contra shut
      exact hatch ⟨airlock, outside, by simpa using shut⟩
  · exact .inl refused

theorem validateAction_eq_ok (s : SpaceGameState) (action : SpaceAction) (player : String) :
    validateAction s action player = .ok () ↔ action.player = player ∧
      ((∃ player direction, action = .moveStep player direction) ∨
        action ∈ availableActions s player) := by
  unfold validateAction
  by_cases own : action.player = player
  · rw [if_neg (not_not.mpr own)]
    cases action <;> simp [own]
  · simp [own]

theorem spaceGameApplyAction_eq_ok : spaceGameApplyAction s action actor = .ok t ↔
    validateAction s action actor.asStr = .ok () ∧ t = applyAction s action := by
  unfold spaceGameApplyAction
  cases validateAction s action actor.asStr with
  | error text => simp
  | ok => simp [eq_comm]

def withEffects (s : SpaceGameState) (effects : List String) : SpaceGameState :=
  { s with visualEffects := effects }

/-- What an action does apart from the effects it shows. -/
theorem applyAction_eq (s : SpaceGameState) (action : SpaceAction) : ∃ effects,
    applyAction s action = withEffects (perform s (deriveSystems s) action).1 effects :=
  ⟨_, rfl⟩

@[simp] theorem playerState_setPlayerState (s : SpaceGameState) (role role' : PlayerRole)
    (value : PlayerState) : playerState (setPlayerState s role.asStr value) role'.asStr =
      if role' = role then value else playerState s role'.asStr := by
  cases role <;> cases role' <;> rfl

/-- What every reachable state satisfies. -/
structure Sound (s : SpaceGameState) : Prop where
  grounded : ∀ role : PlayerRole, (playerState s role.asStr).Grounded
  battery : s.battery.Sound
  nodupA : s.knowledge.a.Nodup
  nodupB : s.knowledge.b.Nodup

/-- What an accepted move changes, and where it leads. -/
structure Moved (s t : SpaceGameState) (actor : PlayerRole) : Prop where
  frame : ∃ player items effects,
    t = withEffects (setKnowledge (setPlayerState s actor.asStr player) actor.asStr items) effects
  crossing : (playerState s actor.asStr).room ≠ (playerState t actor.asStr).room →
    doorKindForStep (playerState s actor.asStr).position (playerState t actor.asStr).position ≠ none
  airlock : (playerState t actor.asStr).room = "airlock" →
    (playerState s actor.asStr).room ≠ "airlock" → (deriveSystems s).doorAccess = true

theorem setPlayerState_self (s : SpaceGameState) (player : String) :
    setPlayerState s player (playerState s player) = s := by
  unfold setPlayerState playerState
  split <;> rfl

theorem playerState_of_players (same : t.players = s.players) (player : String) :
    playerState t player = playerState s player := by
  unfold playerState
  rw [same]

/-- An accepted move: who is grounded, what is known, and what has changed. -/
theorem move_spec (s : SpaceGameState) (actor : PlayerRole) (direction : String) :
    Moved s (applyAction s (.moveStep actor.asStr direction)) actor ∧
    (∀ role : PlayerRole, (playerState s role.asStr).Grounded →
      (playerState (applyAction s (.moveStep actor.asStr direction)) role.asStr).Grounded) ∧
    s.knowledge.Grows (applyAction s (.moveStep actor.asStr direction)).knowledge := by
  obtain ⟨effects, after⟩ := applyAction_eq s (.moveStep actor.asStr direction)
  rw [after]
  change Moved s (withEffects (applyMoveStep s _ _ _) effects) actor ∧
    (∀ role : PlayerRole, _ → (playerState (applyMoveStep s _ _ _) _).Grounded) ∧
    s.knowledge.Grows (applyMoveStep s _ _ _).knowledge
  obtain ⟨items, stays, kept⟩ | ⟨next, moves, enters⟩ :=
    applyMoveStep_cases s (deriveSystems s) actor.asStr direction
  · have same (role : PlayerRole) : playerState (setKnowledge s actor.asStr items) role.asStr =
        playerState s role.asStr := playerState_of_players kept.players _
    rw [stays]
    refine ⟨⟨⟨playerState s actor.asStr, items, effects, ?_⟩, ?_, ?_⟩, ?_, kept.knowledge⟩
    · rw [setPlayerState_self]
    · exact fun crossed => absurd (congrArg _ (same actor)).symm crossed
    · exact fun inside outside => absurd (same actor ▸ inside) outside
    · exact fun role grounded => same role ▸ grounded
  · have here : playerState (setPlayerState s actor.asStr next) actor.asStr = next := by simp
    obtain ⟨items, same⟩ := setKnowledge_self (setPlayerState s actor.asStr next) actor.asStr
    rw [moves]
    refine ⟨⟨⟨next, items, effects, ?_⟩, ?_, ?_⟩, ?_, ?_⟩
    · rw [← same]
    · change _ ≠ (playerState (setPlayerState s _ next) _).room →
        doorKindForStep _ (playerState (setPlayerState s _ next) _).position ≠ none
      rw [here]
      exact enters.crossing
    · change (playerState (setPlayerState s _ next) _).room = _ → _
      rw [here]
      exact enters.airlock
    · intro role grounded
      rw [playerState_setPlayerState]
      split
      · exact enters.grounded
      · exact grounded
    · unfold setPlayerState
      split <;> exact .refl _

theorem sound_initialState : Sound initialState where
  grounded role := by cases role <;> exact ⟨by decide, by decide⟩
  battery := ⟨.inl rfl, fun signal => absurd signal (by decide), nofun⟩
  nodupA := by decide
  nodupB := by decide

theorem Moved.battery (moved : Moved s t actor) : t.battery = s.battery := by
  obtain ⟨player, items, effects, rfl⟩ := moved.frame
  cases actor <;> rfl

theorem Moved.beacon (moved : Moved s t actor) : t.beaconLaunched = s.beaconLaunched := by
  obtain ⟨player, items, effects, rfl⟩ := moved.frame
  cases actor <;> rfl

/-- What an accepted action is: a move, a launch, or something that changes the station. -/
theorem accepted_cases (accepted : spaceGameApplyAction s action actor = .ok t) :
    (∃ direction, action = .moveStep actor.asStr direction ∧
      t = applyAction s (.moveStep actor.asStr direction)) ∨
    (action ∈ availableActions s actor.asStr ∧ action = .launchBeacon actor.asStr ∧
      (deriveSystems s).readyToLaunch = true ∧
      ∃ effects, t = withEffects { s with beaconLaunched := true } effects) ∨
    (∀ player direction, action ≠ .moveStep player direction) ∧ Kept s t := by
  obtain ⟨valid, rfl⟩ := spaceGameApplyAction_eq_ok.mp accepted
  obtain ⟨own, offered⟩ := (validateAction_eq_ok ..).mp valid
  by_cases move : ∃ player direction, action = .moveStep player direction
  · obtain ⟨_, direction, rfl⟩ := move
    cases own
    exact .inl ⟨direction, rfl, rfl⟩
  · have stays : ∀ player direction, action ≠ .moveStep player direction :=
      fun player direction same => move ⟨player, direction, same⟩
    obtain ⟨effects, after⟩ := applyAction_eq s action
    obtain ⟨player, rfl, ready, launched⟩ | kept := perform_cases s (deriveSystems s) action stays
    · cases own
      exact .inr (.inl ⟨offered.resolve_left move, rfl, ready, effects, launched ▸ after⟩)
    · rw [after]
      exact .inr (.inr ⟨stays, kept.trans ⟨rfl, id, .refl _, rfl⟩⟩)

theorem grows_of_accepted (accepted : spaceGameApplyAction s action actor = .ok t) :
    s.knowledge.Grows t.knowledge := by
  obtain ⟨direction, -, rfl⟩ | ⟨-, -, -, effects, rfl⟩ | ⟨-, kept⟩ := accepted_cases accepted
  · exact (move_spec s actor direction).2.2
  · exact .refl _
  · exact kept.knowledge

theorem Sound.step (sound : Sound s) (accepted : spaceGameApplyAction s action actor = .ok t) :
    Sound t := by
  have grows := grows_of_accepted accepted
  have nodupA := grows.nodupA sound.nodupA
  have nodupB := grows.nodupB sound.nodupB
  obtain ⟨direction, -, rfl⟩ | ⟨-, -, -, effects, rfl⟩ | ⟨-, kept⟩ := accepted_cases accepted
  · obtain ⟨moved, grounded, -⟩ := move_spec s actor direction
    exact ⟨fun role => grounded role (sound.grounded role), moved.battery ▸ sound.battery,
      nodupA, nodupB⟩
  · exact ⟨sound.grounded, sound.battery, nodupA, nodupB⟩
  · exact ⟨fun role => playerState_of_players kept.players _ ▸ sound.grounded role,
      kept.battery sound.battery, nodupA, nodupB⟩

theorem Sound.of_run {guard : SpaceGameState → SpaceAction × PlayerRole → Prop}
    (run : spaceMachine.Run guard initialState s) : Sound s := by
  refine run.invariant sound_initialState ?_
  intro t u submitted sound _ step
  cases accepted : spaceGameApplyAction t submitted.1 submitted.2 with
  | error rejection => simp [spaceMachine, accepted, Except.toOption] at step
  | ok next =>
    simp only [spaceMachine, accepted, Except.toOption, Option.some.injEq] at step
    exact step ▸ sound.step accepted

/-- Only the beacon offers its launch. -/
theorem launch_position (offered : .launchBeacon player ∈ availableActions s player) :
    (playerState s player).position = ⟨6, 8⟩ := by
  obtain ⟨device, here, offers⟩ := List.mem_filterMap.mp offered
  have beacon : device = "beacon" := by
    unfold deviceAction at offers
    split at offers <;> first | rfl | cases offers
  subst beacon
  simp only [devicesAtPosition, List.mem_append, List.mem_map, List.mem_filter] at here
  obtain ⟨⟨_, x, y⟩, ⟨listed, placed⟩, rfl⟩ | battery := here
  · simp only [deviceCells, List.mem_cons, Prod.mk.injEq, String.reduceEq, false_and, false_or,
      true_and, List.not_mem_nil, or_false] at listed
    obtain ⟨rfl, rfl⟩ := listed
    simp only [Bool.and_eq_true, beq_iff_eq] at placed
    cases h : (playerState s player).position
    simp_all
  · split at battery <;> simp at battery

/-- A launch that is ready has someone on the plate: the other player. -/
theorem Sound.plate (sound : Sound s) (ready : (deriveSystems s).readyToLaunch = true)
    (here : (playerState s actor.asStr).position = ⟨6, 8⟩) (other : PlayerRole)
    (distinct : other ≠ actor) : (playerState s other.asStr).position = ⟨7, 2⟩ := by
  have held : (s.players.a.plateHeld || s.players.b.plateHeld) = true := by
    simp only [deriveSystems, Bool.and_eq_true] at ready
    exact ready.1.2.2
  have free : (playerState s actor.asStr).plateHeld = false := by
    rw [← Bool.not_eq_true, (sound.grounded actor).plate, here]
    decide
  rw [← (sound.grounded other).plate]
  cases actor <;> cases other
  · exact absurd rfl distinct
  · exact (Bool.or_eq_true_iff.mp held).resolve_left (Bool.eq_false_iff.mp free)
  · exact (Bool.or_eq_true_iff.mp held).resolve_right (Bool.eq_false_iff.mp free)
  · exact absurd rfl distinct

/-- In every reachable state, and for every action accepted in it. -/
theorem space_game_invariants (run : spaceMachine.Run Machine.unguarded initialState s) :
    Sound s ∧ ∀ action actor t, spaceGameApplyAction s action actor = .ok t →
      (∀ player direction, action = .moveStep player direction → Moved s t actor) ∧
      s.knowledge.Grows t.knowledge ∧
      (s.beaconLaunched = true → t.beaconLaunched = true) ∧
      (s.beaconLaunched = false → t.beaconLaunched = true →
        (deriveSystems s).readyToLaunch = true ∧ ∀ other : PlayerRole, other ≠ actor →
          (playerState s other.asStr).position = ⟨7, 2⟩) := by
  have sound := Sound.of_run run
  refine ⟨sound, fun action actor t accepted => ?_⟩
  have grows := grows_of_accepted accepted
  obtain ⟨direction, rfl, rfl⟩ | ⟨offered, rfl, ready, effects, rfl⟩ | ⟨stays, kept⟩ :=
    accepted_cases accepted
  · obtain ⟨moved, -, -⟩ := move_spec s actor direction
    refine ⟨fun _ _ _ => moved, grows, fun launched => moved.beacon ▸ launched, ?_⟩
    intro idle launched
    rw [moved.beacon, idle] at launched
    cases launched
  · exact ⟨nofun, grows, fun _ => rfl, fun _ _ => ⟨ready, sound.plate ready (launch_position offered)⟩⟩
  · refine ⟨fun player direction same => absurd same (stays player direction), grows,
      fun launched => kept.beacon ▸ launched, ?_⟩
    intro idle launched
    rw [kept.beacon, idle] at launched
    cases launched

theorem space_game_invariants_first_move : ∃ t,
    spaceGameApplyAction initialState (.moveStep "A" "right") .A = .ok t ∧ Moved initialState t .A :=
  have accepted : spaceGameApplyAction initialState (.moveStep "A" "right") .A =
      .ok (applyAction initialState (.moveStep "A" "right")) := rfl
  ⟨_, accepted, ((space_game_invariants .refl).2 _ _ _ accepted).1 _ _ rfl⟩

end Parlando.SpaceGame
