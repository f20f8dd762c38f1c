import Parlando.Proofs.SpaceGame

namespace Parlando.SpaceGame

open Concurrency

variable {s t : SpaceGameState} {actor : PlayerRole} {p q : Position} {direction : String}

/-- Where a move leads from a cell, given whether the airlock lets players in. -/
def walk (access : Bool) (p : Position) (direction : String) : Option Position :=
  match roomAtPosition (step p direction) with
  | none => none
  | some target =>
    if roomAtPosition p ≠ some target ∧ doorKindForStep p (step p direction) = none then none
    else if target = "airlock" ∧ roomAtPosition p ≠ some "airlock" ∧ !access then none
    else some (step p direction)

def hub : Position := ⟨6, 2⟩

def column (p : Position) : Int :=
  if p.y ≤ 3 then 6 else if p.x ≤ 4 then 2 else if p.x ≤ 7 then 6 else 10

/-- In the upper rooms first to the row of their doors, in the others to the column of the door up. -/
def homeward (p : Position) : String :=
  if p.y ≤ 3 ∧ p.y ≠ 2 then if p.y < 2 then "down" else "up"
  else if p.x < column p then "right" else if p.x > column p then "left" else "up"

def distance (p : Position) : Nat :=
  (p.x - column p).natAbs + (p.y - 2).natAbs + (column p - 6).natAbs

def back : String → String
  | "down" => "up"
  | "left" => "right"
  | "right" => "left"
  | _ => "down"

/-- The step towards the hub is open, and back again where it does not leave the airlock. -/
structure OnTheWay (p : Position) : Prop where
  open_ : walk false p (homeward p) = some (step p (homeward p))
  closer : distance (step p (homeward p)) < distance p
  back : roomAtPosition p ≠ some "airlock" →
    roomAtPosition (step p (homeward p)) ≠ some "airlock" ∧
    walk false (step p (homeward p)) (back (homeward p)) = some p

instance (p : Position) : Decidable (OnTheWay p) :=
  decidable_of_iff (walk false p (homeward p) = some (step p (homeward p)) ∧
      distance (step p (homeward p)) < distance p ∧
      (roomAtPosition p ≠ some "airlock" →
        roomAtPosition (step p (homeward p)) ≠ some "airlock" ∧
        walk false (step p (homeward p)) (SpaceGame.back (homeward p)) = some p))
    ⟨fun ⟨a, b, c⟩ => ⟨a, b, c⟩, fun ⟨a, b, c⟩ => ⟨a, b, c⟩⟩

theorem onTheWay_cells : ∀ x < 13, ∀ y < 10, isWalkable ⟨(x : Nat), (y : Nat)⟩ = true →
    (⟨x, y⟩ : Position) ≠ hub → OnTheWay ⟨x, y⟩ := by
  decide +kernel

/-- Every room lies in the first twelve columns and nine rows. -/
theorem rooms_inside : (∀ room ∈ rooms, 0 ≤ room.2.1 ∧ room.2.2.1 < 13 ∧ 0 ≤ room.2.2.2.1 ∧
    room.2.2.2.2 < 10) ∧ ∀ cell ∈ doorCells, 0 ≤ cell.2.1 ∧ cell.2.1 < 13 ∧ 0 ≤ cell.2.2 ∧
    cell.2.2 < 10 := by
  decide

theorem isWalkable_inside (walkable : isWalkable p = true) :
    ∃ x y : Nat, x < 13 ∧ y < 10 ∧ p = ⟨x, y⟩ := by
  have bounds : 0 ≤ p.x ∧ p.x < 13 ∧ 0 ≤ p.y ∧ p.y < 10 := by
    unfold isWalkable roomAtPosition at walkable
    dsimp only at walkable
    split at walkable
    · rename_i room sides here
      obtain ⟨left, right, top, bottom⟩ := sides
      have inside := List.find?_some here
      have sides := rooms_inside.1 _ (List.mem_of_find?_eq_some here)
      simp only [Bool.and_eq_true, decide_eq_true_eq] at inside sides
      omega
    · rw [Option.isSome_map, Option.isSome_iff_exists] at walkable
      obtain ⟨⟨room, x, y⟩, here⟩ := walkable
      have inside := List.find?_some here
      have sides := rooms_inside.2 _ (List.mem_of_find?_eq_some here)
      simp only [Bool.and_eq_true, beq_iff_eq] at inside sides
      omega
  refine ⟨p.x.toNat, p.y.toNat, by omega, by omega, ?_⟩
  rw [Int.toNat_of_nonneg bounds.1, Int.toNat_of_nonneg bounds.2.2.1]

theorem onTheWay (walkable : isWalkable p = true) (away : p ≠ hub) : OnTheWay p := by
  obtain ⟨x, y, width, height, rfl⟩ := isWalkable_inside walkable
  exact onTheWay_cells x width y height walkable away

theorem isWalkable_of_walk {access : Bool} (way : walk access p direction = some q) :
    isWalkable q = true := by
  unfold walk at way
  split at way
  · cases way
  · rename_i target inside
    split at way
    · cases way
    · split at way <;> cases way
      unfold isWalkable
      rw [inside, Option.isSome_some]

/-- What is open without access is open with it. -/
theorem walk_of_shut {access : Bool} (shut : walk false p direction = some q) :
    walk access p direction = some q := by
  unfold walk at shut ⊢
  split
  · rename_i outside
    rw [outside] at shut
    exact shut
  · rename_i target inside
    rw [inside] at shut
    dsimp only at shut
    split at shut
    · cases shut
    · rename_i passable
      rw [if_neg passable]
      split at shut
      · cases shut
      · rename_i hatch
        rw [if_neg fun all => hatch ⟨all.1, all.2.1, rfl⟩]
        exact shut

/-- What both players work on: the state without the players, what they know, and what is shown. -/
structure Station where
  fuses : Fuses
  breakers : Breakers
  valves : Valves
  overrideHeld : Bool
  battery : Battery
  relay : String
  pressureDrained : Bool
  oxygenFanTripped : Bool

def station (s : SpaceGameState) : Station where
  fuses := s.fuses
  breakers := s.breakers
  valves := s.valves
  overrideHeld := s.overrideHeld
  battery := s.battery
  relay := s.relay
  pressureDrained := s.pressureDrained
  oxygenFanTripped := s.oxygenFanTripped

abbrev Leads (s t : SpaceGameState) : Prop := spaceMachine.Run Machine.unguarded s t

theorem Leads.of_valid {action : SpaceAction} (valid : validateAction s action actor.asStr = .ok ()) :
    Leads s (applyAction s action) := by
  have accepted := spaceGameApplyAction_eq_ok.mpr ⟨valid, rfl⟩
  refine .tail .refl trivial (a := (action, actor)) ?_
  simp [spaceMachine, accepted, Except.toOption]

/-- One player has gone somewhere, and nothing else has happened to the station or the other. -/
structure Strolled (s t : SpaceGameState) (actor : PlayerRole) : Prop where
  leads : Leads s t
  sound : Sound t
  station : station t = station s
  other : ∀ other : PlayerRole, other ≠ actor → playerState t other.asStr = playerState s other.asStr

theorem Strolled.refl (sound : Sound s) : Strolled s s actor :=
  ⟨.refl, sound, rfl, fun _ _ => rfl⟩

theorem Strolled.trans {u : SpaceGameState} (first : Strolled s t actor)
    (second : Strolled t u actor) : Strolled s u actor :=
  ⟨first.leads.trans second.leads, second.sound, second.station.trans first.station,
    fun other distinct => (second.other other distinct).trans (first.other other distinct)⟩

/-- An open step moves the player there. -/
theorem applyMoveStep_of_walk {before : Systems} (sound : Sound s)
    (way : walk before.doorAccess (playerState s actor.asStr).position direction = some q) :
    ∃ next, applyMoveStep s before actor.asStr direction = setPlayerState s actor.asStr next ∧
      next.position = q := by
  unfold walk at way
  rw [(sound.grounded actor).room] at way
  unfold applyMoveStep isWalkable
  dsimp only at way ⊢
  split at way
  · cases way
  rename_i target inside
  simp only [ne_eq, Option.some.injEq] at way
  simp only [inside]
  split at way
  · cases way
  rename_i passable
  split at way
  · cases way
  rename_i hatch
  cases way
  rw [if_neg passable, if_neg hatch, Option.isSome_some, if_pos rfl]
  exact ⟨_, rfl, rfl⟩

theorem stroll_of_walk (sound : Sound s)
    (way : walk (deriveSystems s).doorAccess (playerState s actor.asStr).position direction =
      some q) : ∃ t, Strolled s t actor ∧ (playerState t actor.asStr).position = q := by
  have valid : validateAction s (.moveStep actor.asStr direction) actor.asStr = .ok () :=
    (validateAction_eq_ok ..).mpr ⟨rfl, .inl ⟨_, _, rfl⟩⟩
  have accepted := spaceGameApplyAction_eq_ok.mpr ⟨valid, rfl⟩
  obtain ⟨effects, after⟩ := applyAction_eq s (.moveStep actor.asStr direction)
  obtain ⟨next, moves, here⟩ := applyMoveStep_of_walk sound way
  change _ = withEffects (applyMoveStep s _ _ _) effects at after
  rw [moves] at after
  refine ⟨_, ⟨.of_valid valid, sound.step accepted, ?_, ?_⟩, ?_⟩
  · rw [after]
    cases actor <;> rfl
  · intro other distinct
    rw [after]
    change playerState (setPlayerState s _ next) _ = _
    rw [playerState_setPlayerState, if_neg distinct]
  · rw [after]
    change (playerState (setPlayerState s _ next) _).position = q
    rw [playerState_setPlayerState, if_pos rfl, here]

theorem Sound.isWalkable (sound : Sound s) (actor : PlayerRole) :
    isWalkable (playerState s actor.asStr).position = true := by
  unfold SpaceGame.isWalkable
  rw [(sound.grounded actor).room, Option.isSome_some]

/-- Whoever is anywhere can go to the hub. -/
theorem stroll_home (sound : Sound s) (actor : PlayerRole) :
    ∃ t, Strolled s t actor ∧ (playerState t actor.asStr).position = hub := by
  have home : ∃ t, Leads s t ∧ Strolled s t actor ∧ (playerState t actor.asStr).position = hub := by
    refine Machine.Run.of_variant (fun t => distance (playerState t actor.asStr).position) ?_
      (.refl sound)
    intro t strolled away
    have way := onTheWay (strolled.sound.isWalkable actor) away
    obtain ⟨u, further, here⟩ := stroll_of_walk strolled.sound (walk_of_shut way.open_)
    exact ⟨u, further.leads, strolled.trans further, here ▸ way.closer⟩
  obtain ⟨t, -, strolled, there⟩ := home
  exact ⟨t, strolled, there⟩

/-- Whoever is at the hub can go anywhere outside the airlock. -/
theorem stroll_out (sound : Sound s) (home : (playerState s actor.asStr).position = hub)
    (walkable : isWalkable p = true) (outside : roomAtPosition p ≠ some "airlock") :
    ∃ t, Strolled s t actor ∧ (playerState t actor.asStr).position = p := by
  induction far : distance p using Nat.strongRecOn generalizing p with
  | ind n ih =>
    by_cases away : p = hub
    · exact ⟨s, .refl sound, away ▸ home⟩
    have way := onTheWay walkable away
    obtain ⟨outside', back⟩ := way.back outside
    obtain ⟨t, strolled, here⟩ :=
      ih _ (far ▸ way.closer) (isWalkable_of_walk way.open_) outside' rfl
    obtain ⟨u, further, there⟩ := stroll_of_walk strolled.sound (walk_of_shut (here ▸ back))
    exact ⟨u, strolled.trans further, there⟩

theorem stroll (sound : Sound s) (actor : PlayerRole) (walkable : isWalkable p = true)
    (outside : roomAtPosition p ≠ some "airlock") :
    ∃ t, Strolled s t actor ∧ (playerState t actor.asStr).position = p := by
  obtain ⟨t, first, home⟩ := stroll_home sound actor
  obtain ⟨u, second, there⟩ := stroll_out first.sound home walkable outside
  exact ⟨u, first.trans second, there⟩

namespace Station

variable {x y z : Station} {action : SpaceAction} {device : String}

/-- Wherever the players stand, some accepted actions lead from one station to the other. -/
def Leads (x y : Station) : Prop :=
  ∀ s, Sound s → station s = x → ∃ t, SpaceGame.Leads s t ∧ Sound t ∧ station t = y

theorem Leads.refl (x : Station) : x.Leads x := fun s sound here => ⟨s, .refl, sound, here⟩

theorem Leads.trans (first : x.Leads y) (second : y.Leads z) : x.Leads z := by
  intro s sound here
  obtain ⟨t, toT, sound, here⟩ := first s sound here
  obtain ⟨u, toU, sound, here⟩ := second t sound here
  exact ⟨u, toT.trans toU, sound, here⟩

/-- The battery's invariant may be assumed. -/
theorem Leads.of_sound (leads : x.battery.Sound → x.Leads y) : x.Leads y :=
  fun s sound here => leads (here ▸ sound.battery) s sound here

/-- Player A goes to a cell and does what a device there offers. -/
theorem leads_of_offer (p : Position) (walkable : isWalkable p = true)
    (outside : roomAtPosition p ≠ some "airlock") (own : action.player = "A")
    (offer : ∀ s, station s = x → ∃ device ∈ devicesAtPosition p s.battery.location,
      deviceAction s "A" device = some action)
    (effect : ∀ s, station s = x → station (perform s (deriveSystems s) action).1 = y) :
    x.Leads y := by
  intro s sound here
  obtain ⟨t, strolled, at_⟩ := stroll sound .A walkable outside
  have here := strolled.station.trans here
  have offered : action ∈ availableActions t "A" := by
    obtain ⟨device, placed, offers⟩ := offer t here
    exact List.mem_filterMap.mpr ⟨device, at_ ▸ placed, offers⟩
  have valid : validateAction t action (PlayerRole.asStr .A) = .ok () :=
    (validateAction_eq_ok ..).mpr ⟨own, .inr offered⟩
  have accepted := spaceGameApplyAction_eq_ok.mpr ⟨valid, rfl⟩
  exact ⟨_, strolled.leads.trans (SpaceGame.Leads.of_valid valid), strolled.sound.step accepted, effect t here⟩

theorem deviceCells_outside : ∀ cell ∈ deviceCells, cell.1 ≠ "beacon" →
    isWalkable ⟨cell.2.1, cell.2.2⟩ = true ∧
    roomAtPosition ⟨cell.2.1, cell.2.2⟩ ≠ some "airlock" := by
  decide +kernel

/-- Player A uses a device that stays in its place. -/
theorem leads_of_device (device : String) (p : Position) (action : SpaceAction)
    (placed : (device, p.x, p.y) ∈ deviceCells ∧ device ≠ "battery" ∧ device ≠ "beacon" ∧
      action.player = "A")
    (offers : ∀ s, station s = x → deviceAction s "A" device = some action)
    (effect : ∀ s, station s = x → station (perform s (deriveSystems s) action).1 = y) :
    x.Leads y := by
  obtain ⟨listed, fixed, outside, own⟩ := placed
  obtain ⟨walkable, outside⟩ := deviceCells_outside _ listed outside
  refine leads_of_offer p walkable outside own (fun s here => ⟨device, ?_, offers s here⟩) effect
  refine List.mem_append_left _ (List.mem_map.mpr ⟨_, List.mem_filter.mpr ⟨listed, ?_⟩, rfl⟩)
  simp [fixed]

/-- What is so already needs nothing to be done. -/
theorem Leads.unless (c : Prop) (same : c → y = x) (leads : ¬c → x.Leads y) : x.Leads y := by
  by_cases so : c
  · exact same so ▸ .refl x
  · exact leads so

attribute [local simp] perform deviceAction station reveal_eq

theorem leads_blue (x : Station) : x.Leads { x with fuses.blue := true } := by
  refine .unless (x.fuses.blue = true) (fun blue => by rw [← blue]) fun blue => ?_
  refine leads_of_device "fuse-blue" ⟨1, 1⟩ (.toggleFuse "A" "blue") (by decide)
    (fun _ _ => rfl) ?_
  rintro s rfl
  change ¬s.fuses.blue = true at blue
  simp [toggleFuse, blue]

/-- With the aux breaker off, the yellow fuse trips nothing. -/
theorem leads_yellow (aux : x.breakers.aux = false) : x.Leads { x with fuses.yellow := true } := by
  refine .unless (x.fuses.yellow = true) (fun yellow => by rw [← yellow]) fun yellow => ?_
  refine leads_of_device "fuse-yellow" ⟨2, 1⟩ (.toggleFuse "A" "yellow") (by decide)
    (fun _ _ => rfl) ?_
  rintro s rfl
  change ¬s.fuses.yellow = true at yellow
  change s.breakers.aux = false at aux
  simp [toggleFuse, yellow, aux]

theorem leads_main (x : Station) : x.Leads { x with breakers.main := true } := by
  refine .unless (x.breakers.main = true) (fun main => by rw [← main]) fun main => ?_
  refine leads_of_device "breaker-main" ⟨1, 3⟩ (.toggleBreaker "A" "main") (by decide)
    (fun _ _ => rfl) ?_
  rintro s rfl
  change ¬s.breakers.main = true at main
  simp [toggleBreaker, main]

theorem leads_aux (x : Station) : x.Leads { x with breakers.aux := false } := by
  refine .unless (x.breakers.aux = false) (fun aux => by rw [← aux]) fun aux => ?_
  refine leads_of_device "breaker-aux" ⟨2, 3⟩ (.toggleBreaker "A" "aux") (by decide)
    (fun _ _ => rfl) ?_
  rintro s rfl
  change ¬s.breakers.aux = false at aux
  simp [toggleBreaker, aux]

theorem leads_override (x : Station) : x.Leads { x with overrideHeld := true } := by
  refine .unless (x.overrideHeld = true) (fun held => by rw [← held]) fun held => ?_
  refine leads_of_device "bypass" ⟨5, 2⟩ (.holdOverride "A" true) (by decide) ?_ ?_
  all_goals
    rintro s rfl
    change ¬s.overrideHeld = true at held
  · simp [held]
  · simp

/-- Opening valve C, or closing it. -/
theorem leads_valveC (x : Station) (isOpen : Bool) : x.Leads { x with valves.c := isOpen } := by
  refine .unless (x.valves.c = isOpen) (fun here => by rw [← here]) fun here => ?_
  refine leads_of_device "valve-c" ⟨9, 5⟩ (.setValve "A" "C" isOpen)
    ⟨by decide, by decide, by decide, rfl⟩ ?_ ?_
  all_goals
    rintro s rfl
    change ¬s.valves.c = isOpen at here
  · simpa using Bool.not_eq.mpr here
  · cases isOpen <;> simp [setValve]

/-- Opening valve A refills the cabin and resets the fan; an open one is closed first. -/
theorem leads_refill (x : Station) :
    x.Leads { x with valves.a := true, pressureDrained := false, oxygenFanTripped := false } := by
  have shuts : x.Leads { x with valves.a := false } := by
    refine .unless (x.valves.a = false) (fun shut => by rw [← shut]) fun shut => ?_
    refine leads_of_device "valve-a" ⟨8, 5⟩ (.setValve "A" "A" false) (by decide) ?_ ?_
    all_goals
      rintro s rfl
      change ¬s.valves.a = false at shut
    · simpa using shut
    · simp [setValve]
  have opens {y : Station} (shut : y.valves.a = false) : y.Leads
      { y with valves.a := true, pressureDrained := false, oxygenFanTripped := false } := by
    refine leads_of_device "valve-a" ⟨8, 5⟩ (.setValve "A" "A" true) (by decide) ?_ ?_
    all_goals
      rintro s rfl
      change s.valves.a = false at shut
    · simp [shut]
    · simp [setValve]
  exact shuts.trans (opens rfl)

theorem leads_floodgate_shut (x : Station) : x.Leads { x with valves.floodgate := false } := by
  refine .unless (x.valves.floodgate = false) (fun shut => by rw [← shut]) fun shut => ?_
  refine leads_of_device "valve-floodgate" ⟨11, 5⟩ (.setValve "A" "floodgate" false) (by decide)
    ?_ ?_
  all_goals
    rintro s rfl
    change ¬s.valves.floodgate = false at shut
  · simpa using shut
  · simp [setValve]

def Stable (x : Station) : Prop :=
  x.fuses.yellow = true ∧ x.breakers.main = true ∧ x.valves.a = true ∧
    x.pressureDrained = false ∧ x.oxygenFanTripped = false

def Fed (x : Station) : Prop :=
  x.fuses.blue = true ∧ x.fuses.yellow = true ∧ x.breakers.main = true ∧ x.valves.c = true ∧
    x.valves.floodgate = false ∧ x.oxygenFanTripped = false ∧ x.battery.spent = false

/-- Opening the floodgate of a stable station drains its pressure. -/
theorem leads_floodgate_open (shut : x.valves.floodgate = false) (stable : x.Stable) :
    x.Leads { x with valves.floodgate := true, pressureDrained := true } := by
  refine leads_of_device "valve-floodgate" ⟨11, 5⟩ (.setValve "A" "floodgate" true) (by decide)
    ?_ ?_
  all_goals
    rintro s rfl
    obtain ⟨yellow, main, open_, full, running⟩ := stable
    change s.valves.floodgate = false at shut
    simp only [station] at yellow main open_ full running
  · simp [shut]
  · simp [setValve, deriveSystems, *]

/-- A battery at the signal array comes back, spent or not. -/
theorem leads_battery_back (x : Station) :
    x.Leads { x with battery.location := "charger", battery.spent := false } := by
  refine .of_sound fun sound => ?_
  obtain home | away := sound.located
  · have whole : x.battery.spent = false := by
      cases spent : x.battery.spent with
      | true => exact absurd (home.symm.trans (sound.spent spent)) (by decide)
      | false => rfl
    have same : ({ x with battery.location := "charger", battery.spent := false } : Station) = x := by
      rw [← home, ← whole]
    exact same ▸ .refl x
  · refine leads_of_offer ⟨8, 8⟩ (by decide) (by decide)
      (rfl : (SpaceAction.moveBattery "A").player = "A") ?_ ?_
    all_goals
      rintro s rfl
      change s.battery.location = "signal" at away
    · exact ⟨"battery", by simp [devicesAtPosition, away], rfl⟩
    · simp [moveBattery, away]

theorem leads_charge (home : x.battery.location = "charger") (fed : x.Fed) :
    x.Leads { x with battery.charged := true } := by
  refine leads_of_device "charger" ⟨5, 5⟩ (.chargeBattery "A") (by decide) (fun _ _ => rfl) ?_
  rintro s rfl
  obtain ⟨blue, yellow, main, water, shut, running, whole⟩ := fed
  change s.battery.location = "charger" at home
  simp only [station] at blue yellow main water shut running whole
  simp [chargeBattery, deriveSystems, *]

theorem leads_transfer (home : x.battery.location = "charger") (charged : x.battery.charged = true) :
    x.Leads { x with battery.location := "signal" } := by
  refine leads_of_offer ⟨6, 6⟩ (by decide) (by decide)
    (rfl : (SpaceAction.moveBattery "A").player = "A") ?_ ?_
  all_goals
    rintro s rfl
    change s.battery.location = "charger" at home
    change s.battery.charged = true at charged
  · exact ⟨"battery", by simp [devicesAtPosition, deviceCells, home], rfl⟩
  · simp only [perform, moveBattery, home, charged, if_true]
    split <;> simp [charged]

theorem leads_cycle (x : Station) : x.Leads { x with relay := nextRelay x.relay } := by
  refine leads_of_device "relay" ⟨9, 8⟩ (.cycleRelay "A") (by decide) (fun _ _ => rfl) ?_
  rintro s rfl
  simp only [perform, setRelay]
  split <;> simp

/-- From any mode, the relay comes to the array. -/
theorem leads_array (x : Station) : x.Leads { x with relay := "array" } := by
  refine .unless (x.relay = "array") (fun array => by rw [← array]) fun array => ?_
  have loops {y : Station} (loop : y.relay = "loop") : y.Leads { y with relay := "array" } := by
    have next := leads_cycle y
    rwa [loop] at next
  have bypasses {y : Station} (bypass : y.relay = "bypass") :
      y.Leads { y with relay := "array" } := by
    have next := leads_cycle y
    rw [bypass] at next
    exact next.trans (loops rfl)
  have next := leads_cycle x
  unfold nextRelay at next
  split at next
  · rename_i bypass
    exact bypasses bypass
  · rename_i loop
    exact loops loop
  · exact next.trans (bypasses rfl)

/-- The station at launch; the red fuse is for the reserve lamps only. -/
def launchable (red : Bool) : Station where
  fuses := { blue := true, yellow := true, red }
  breakers := { main := true, aux := false }
  valves := { a := true, c := false, floodgate := true }
  overrideHeld := true
  battery := { location := "signal", charged := true, spent := false }
  relay := "array"
  pressureDrained := false
  oxygenFanTripped := false

/-- Power, water and pressure: fuses and breakers first, then the valves. -/
theorem leads_fed (x : Station) : x.Leads { x with
    fuses.blue := true
    fuses.yellow := true
    breakers := { main := true, aux := false }
    valves := { a := true, c := true, floodgate := false }
    pressureDrained := false
    oxygenFanTripped := false } := by
  have powered := (leads_aux x).trans <| (leads_main _).trans <| (leads_blue _).trans
    (leads_yellow rfl)
  exact powered.trans <| (leads_floodgate_shut _).trans <| (leads_valveC _ true).trans
    (leads_refill _)

/-- Whatever has been done to a station, it can be made launchable. -/
theorem leads_launchable (x : Station) : x.Leads (launchable x.fuses.red) := by
  have charged := (leads_battery_back x).trans <| (leads_fed _).trans
    (leads_charge rfl ⟨rfl, rfl, rfl, rfl, rfl, rfl, rfl⟩)
  have transferred := charged.trans <| (leads_override _).trans (leads_transfer rfl rfl)
  have cooled := transferred.trans <| (leads_valveC _ false).trans <|
    (leads_floodgate_open rfl ⟨rfl, rfl, rfl, rfl, rfl⟩).trans (leads_refill _)
  exact cooled.trans (leads_array _)

end Station

/-- With player B on the plate, the airlock lets player A in, and the beacon is ready. -/
theorem ready_of_launchable {red : Bool} (here : station s = .launchable red)
    (plate : s.players.b.plateHeld = true) :
    (deriveSystems s).doorAccess = true ∧ (deriveSystems s).readyToLaunch = true := by
  cases s
  cases here
  simp_all [deriveSystems]

theorem Sound.plateHeld (sound : Sound s)
    (here : (playerState s (PlayerRole.asStr .B)).position = ⟨7, 2⟩) :
    s.players.b.plateHeld = true :=
  (sound.grounded .B).plate.mpr here

/-- Player B goes to the plate and player A to the beacon. -/
theorem leads_positions {red : Bool} (sound : Sound s) (here : station s = .launchable red) :
    ∃ t, Leads s t ∧ Sound t ∧ (playerState t "A").position = ⟨6, 8⟩ ∧
      (deriveSystems t).readyToLaunch = true := by
  obtain ⟨t, b, plate⟩ := @stroll s ⟨7, 2⟩ sound .B (by decide) (by decide)
  obtain ⟨u, a, hatch⟩ := @stroll t ⟨6, 7⟩ b.sound .A (by decide) (by decide)
  have kept : station u = .launchable red := a.station.trans (b.station.trans here)
  have plate' : (playerState u (PlayerRole.asStr .B)).position = ⟨7, 2⟩ := by
    rw [a.other .B (by decide), plate]
  have access := (ready_of_launchable kept (a.sound.plateHeld plate')).1
  have way : walk (deriveSystems u).doorAccess (playerState u (PlayerRole.asStr .A)).position
      "down" = some ⟨6, 8⟩ := by
    rw [access, hatch]
    decide
  obtain ⟨v, down, beacon⟩ := stroll_of_walk a.sound way
  have plate'' : (playerState v (PlayerRole.asStr .B)).position = ⟨7, 2⟩ := by
    rw [down.other .B (by decide), plate']
  exact ⟨v, b.leads.trans (a.leads.trans down.leads), down.sound, beacon,
    (ready_of_launchable (down.station.trans kept) (down.sound.plateHeld plate'')).2⟩

theorem leads_launch (here : (playerState s "A").position = ⟨6, 8⟩)
    (ready : (deriveSystems s).readyToLaunch = true) :
    ∃ t, Leads s t ∧ t.beaconLaunched = true := by
  have offered : .launchBeacon "A" ∈ availableActions s "A" := by
    refine List.mem_filterMap.mpr ⟨"beacon", ?_, rfl⟩
    rw [here]
    simp [devicesAtPosition, deviceCells]
  have valid : validateAction s (.launchBeacon "A") (PlayerRole.asStr .A) = .ok () :=
    (validateAction_eq_ok ..).mpr ⟨rfl, .inr offered⟩
  refine ⟨_, .of_valid valid, ?_⟩
  change (launchBeacon s (deriveSystems s) "A").beaconLaunched = true
  unfold launchBeacon
  rw [if_pos ready]

/-- From every reachable state some accepted actions lead to the launch of the beacon. -/
theorem space_game_no_dead_end (run : spaceMachine.Run Machine.unguarded initialState s) :
    ∃ actions t, spaceMachine.exec s actions = some t ∧ t.beaconLaunched = true := by
  obtain ⟨t, toT, sound, launchable⟩ :=
    Station.leads_launchable (station s) s (Sound.of_run run) rfl
  obtain ⟨u, toU, -, here, ready⟩ := leads_positions sound launchable
  obtain ⟨v, toV, launched⟩ := leads_launch here ready
  obtain ⟨actions, ran⟩ := (toT.trans (toU.trans toV)).exists_exec
  exact ⟨actions, v, ran, launched⟩

theorem space_game_no_dead_end_start : ∃ actions t,
    spaceMachine.exec initialState actions = some t ∧ t.beaconLaunched = true :=
  space_game_no_dead_end .refl

end Parlando.SpaceGame
