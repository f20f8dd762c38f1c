import Parlando.Concurrency.Machine
import Parlando.Data.Text
import Parlando.Game
import Parlando.SpaceGame.Level

namespace Parlando.SpaceGame

open Concurrency

/-- Typed Space Game action accepted by the reusable Parlando server boundary. -/
inductive SpaceAction where
  | moveStep (player direction : String)
  | toggleFuse (player color : String)
  | toggleBreaker (player breaker : String)
  | setValve (player valve : String) (isOpen : Bool)
  | holdOverride (player : String) (held : Bool)
  | chargeBattery (player : String)
  | moveBattery (player : String)
  | cycleRelay (player : String)
  | launchBeacon (player : String)
  deriving DecidableEq, Repr

def SpaceAction.player : SpaceAction → String
  | moveStep player _ | toggleFuse player _ | toggleBreaker player _ | setValve player _ _
  | holdOverride player _ | chargeBattery player | moveBattery player | cycleRelay player
  | launchBeacon player => player

structure PlayerState where
  room : String
  position : Position
  plateHeld : Bool

structure Players where
  a : PlayerState
  b : PlayerState

structure Fuses where
  blue : Bool
  yellow : Bool
  red : Bool

structure Breakers where
  main : Bool
  aux : Bool

structure Valves where
  a : Bool
  c : Bool
  floodgate : Bool

/-- Battery sled state across charger and signal-array locations. -/
structure Battery where
  location : String
  charged : Bool
  spent : Bool

/-- Role-private facts discovered while playing the Space Game. -/
structure Knowledge where
  a : List String
  b : List String

structure SpaceGameState where
  players : Players
  fuses : Fuses
  breakers : Breakers
  valves : Valves
  overrideHeld : Bool
  battery : Battery
  relay : String
  pressureDrained : Bool
  oxygenFanTripped : Bool
  knowledge : Knowledge
  visualEffects : List String
  beaconLaunched : Bool

/-- Derived system booleans used for launch prerequisites. -/
structure Systems where
  pumpPowered : Bool
  chargerFed : Bool
  coolingRestored : Bool
  oxygenStable : Bool
  powerStable : Bool
  doorAccess : Bool
  signalRouted : Bool
  batteryReady : Bool
  readyToLaunch : Bool

/-- The state used for every new session. -/
def initialState : SpaceGameState where
  players := {
    a := { room := "power", position := ⟨2, 2⟩, plateHeld := false }
    b := { room := "valve", position := ⟨9, 6⟩, plateHeld := false } }
  fuses := { blue := false, yellow := false, red := false }
  breakers := { main := false, aux := false }
  valves := { a := false, c := false, floodgate := false }
  overrideHeld := false
  battery := { location := "charger", charged := false, spent := false }
  relay := "bypass"
  pressureDrained := false
  oxygenFanTripped := false
  knowledge := {
    a := ["Blue fuse wakes the bus feed.",
      "Yellow fuse is marked PUMP, but the aux breaker warning is scratched."]
    b := ["Valve A is drawn beside cabin pressure.",
      "Valve C is drawn beside charger water and coolant, depending on floodgate state."] }
  visualEffects := []
  beaconLaunched := false

/-- Computes derived system readiness from the stored game state. -/
def deriveSystems (state : SpaceGameState) : Systems :=
  let pumpPowered := state.fuses.yellow && state.breakers.main && !state.oxygenFanTripped
  let powerStable := state.fuses.blue && state.breakers.main && !state.battery.spent
  let chargerFed := powerStable && pumpPowered && state.valves.c && !state.valves.floodgate
  let coolingRestored := state.valves.floodgate && !state.valves.c
  let oxygenStable :=
    pumpPowered && state.valves.a && !state.pressureDrained && !state.oxygenFanTripped
  let doorMotorPowered := powerStable && (state.battery.location == "charger" || state.overrideHeld)
  let doorAccess := doorMotorPowered && oxygenStable &&
    (state.players.a.plateHeld || state.players.b.plateHeld)
  let signalRouted := state.relay == "array" && state.battery.location == "signal" &&
    state.battery.charged && !state.battery.spent && coolingRestored
  { pumpPowered, chargerFed, coolingRestored, oxygenStable, powerStable, doorAccess, signalRouted
    batteryReady := state.battery.charged && !state.battery.spent
    readyToLaunch := powerStable && oxygenStable && doorAccess && signalRouted }

/-- The state of this player; every other name than `B` is taken for `A`. -/
def playerState (state : SpaceGameState) (player : String) : PlayerState :=
  if player = "B" then state.players.b else state.players.a

def setPlayerState (state : SpaceGameState) (player : String) (value : PlayerState) :
    SpaceGameState :=
  if player = "B" then { state with players.b := value } else { state with players.a := value }

/-- Adds a role-private knowledge item once. -/
def reveal (state : SpaceGameState) (player text : String) : SpaceGameState :=
  let learn (items : List String) := if items.contains text then items else items ++ [text]
  if player = "B" then { state with knowledge.b := learn state.knowledge.b }
  else { state with knowledge.a := learn state.knowledge.a }

def deviceAction (state : SpaceGameState) (player : String) : String → Option SpaceAction
  | "fuse-blue" => some (.toggleFuse player "blue")
  | "fuse-yellow" => some (.toggleFuse player "yellow")
  | "fuse-red" => some (.toggleFuse player "red")
  | "breaker-main" => some (.toggleBreaker player "main")
  | "breaker-aux" => some (.toggleBreaker player "aux")
  | "bypass" => some (.holdOverride player !state.overrideHeld)
  | "valve-a" => some (.setValve player "A" !state.valves.a)
  | "valve-c" => some (.setValve player "C" !state.valves.c)
  | "valve-floodgate" => some (.setValve player "floodgate" !state.valves.floodgate)
  | "charger" => some (.chargeBattery player)
  | "battery" => some (.moveBattery player)
  | "relay" => some (.cycleRelay player)
  | "beacon" => some (.launchBeacon player)
  | _ => none

def availableActions (state : SpaceGameState) (player : String) : List SpaceAction :=
  (devicesAtPosition (playerState state player).position state.battery.location).filterMap
    (deviceAction state player)

def validateAction (state : SpaceGameState) (action : SpaceAction) (player : String) :
    Except String Unit :=
  if action.player ≠ player then
    .error s!"Cannot submit an action for Player {action.player} as Player {player}."
  else if action matches .moveStep .. then .ok ()
  else if action ∉ availableActions state player then
    .error "Action is not available at the player's current position."
  else .ok ()

/-- Computes a one-cell grid step for movement actions. -/
def step (position : Position) (direction : String) : Position :=
  let (dx, dy) : Int × Int := match direction with
    | "down" => (0, 1)
    | "left" => (-1, 0)
    | "right" => (1, 0)
    | _ => (0, -1)
  ⟨position.x + dx, position.y + dy⟩

def applyMoveStep (state : SpaceGameState) (before : Systems) (player direction : String) :
    SpaceGameState :=
  let current := (playerState state player).position
  let target := step current direction
  match roomAtPosition target with
  | none => state
  | some targetRoom =>
    let currentRoom := (playerState state player).room
    if currentRoom ≠ targetRoom ∧ doorKindForStep current target = none then state
    else if targetRoom = "airlock" ∧ currentRoom ≠ "airlock" ∧ !before.doorAccess then
      reveal state player
        "The airlock hatch needs oxygen pressure, door power, and the floor plate."
    else if isWalkable target then
      setPlayerState state player
        { room := targetRoom, position := target, plateHeld := target.x == 7 && target.y == 2 }
    else state

def toggleFuse (state : SpaceGameState) (player color : String) : SpaceGameState × List String :=
  let state := match color with
    | "yellow" => { state with fuses.yellow := !state.fuses.yellow }
    | "red" => { state with fuses.red := !state.fuses.red }
    | _ => { state with fuses.blue := !state.fuses.blue }
  let effects := ["device:fuse-" ++ color, "room:power"]
  let state :=
    if color = "yellow" ∧ state.fuses.yellow ∧ state.breakers.aux then
      let state := { state with oxygenFanTripped := true }
      let state := reveal state "A"
        "Yellow pump surge trips the oxygen fan when AUX is already live."
      reveal state "B" "The fan trip is electrical, not a valve failure."
    else state
  let state :=
    if color = "red" ∧ state.fuses.red then
      reveal state player "The red fuse only feeds the reserve lamps in this prototype."
    else state
  (state, effects)

def toggleBreaker (state : SpaceGameState) (breaker : String) : SpaceGameState × List String :=
  let state :=
    if breaker = "aux" then { state with breakers.aux := !state.breakers.aux }
    else { state with breakers.main := !state.breakers.main }
  let effects := ["device:breaker-" ++ breaker, "room:power"]
  let state :=
    if breaker = "aux" ∧ state.breakers.aux ∧ state.fuses.yellow then
      let state := { state with oxygenFanTripped := true }
      let state := reveal state "A" "AUX and the yellow pump fuse together trip the fan relay."
      reveal state "B" "If oxygen dies while valves look right, ask about the aux breaker."
    else state
  let state :=
    if breaker = "main" ∧ !state.breakers.main ∧ state.battery.location ≠ "signal" then
      { state with battery.charged := false }
    else state
  (state, effects)

/-- Applies a valve change and records pressure/cooling side effects. -/
def setValve (state : SpaceGameState) (before : Systems) (valve : String) (isOpen : Bool) :
    SpaceGameState × List String :=
  let state := match valve with
    | "C" => { state with valves.c := isOpen }
    | "floodgate" => { state with valves.floodgate := isOpen }
    | _ => { state with valves.a := isOpen }
  let effects := ["device:valve-" ++ Text.lower valve, "room:valve"]
  let state :=
    if valve = "floodgate" ∧ isOpen ∧ before.oxygenStable then
      let state := { state with pressureDrained := true }
      reveal state "B" "Opening the floodgate restores coolant but drains cabin pressure first."
    else if valve = "A" ∧ isOpen then
      { state with pressureDrained := false, oxygenFanTripped := false }
    else if valve = "C" ∧ !isOpen then
      reveal state "A"
        "Valve C closed starves the charger but helps cooling after floodgate opens."
    else state
  (state, effects)

/-- Chooses the current diagnostic report for a player from derived system state. -/
def diagnosticFor (state : SpaceGameState) (player : String) : String :=
  let systems := deriveSystems state
  if !systems.powerStable then
    if player = "A" then "Bus feed dark: blue fuse and MAIN breaker must both be live."
    else "Node Lantern has no stable feed; ask for the blue bus and main line."
  else if state.oxygenFanTripped then
    if player = "A" then "Fan relay tripped by AUX backfeed through yellow pump leg."
    else "Oxygen fault is electrical; valve positions are not the first problem."
  else if !systems.pumpPowered then
    if player = "A" then "Pump leg idle: yellow fuse needs MAIN, but not AUX surge."
    else "Cabin pressure cannot refill until the pump leg is live."
  else if !systems.chargerFed && state.battery.location == "charger" && !state.battery.charged then
    if player = "A" then "Charger starved: check yellow pump and valve C water return."
    else "Water return is missing; floodgate and valve C fight over the charger."
  else if !systems.oxygenStable then
    if player = "A" then "Pressure is not holding; valve A must refill after any floodgate drain."
    else "Cabin pressure drained through the flood path; use valve A to refill."
  else if !systems.doorAccess then
    if player = "A" then "Door motor wants bypass during battery transfer and a latch plate signal."
    else "The hatch needs oxygen pressure, motor feed, and someone on the plate."
  else if !systems.signalRouted then
    if player = "A" then "Signal path missing: battery at array, relay ARRAY, and coolant restored."
    else "Relay map is not locked: coolant plus charged array battery required."
  else "All launch prerequisites are green at this instant."

def chargeBattery (state : SpaceGameState) (before : Systems) (player : String) : SpaceGameState :=
  if before.chargerFed ∧ state.battery.location = "charger" then
    let state := { state with battery.charged := true, battery.spent := false }
    let state := reveal state "A"
      "The charger needs blue bus, yellow pump, main breaker, and valve C water."
    reveal state "B" "Floodgate open steals the water return from the charger."
  else reveal state player (diagnosticFor state player)

/-- Transfers the battery between the charger and the signal array. -/
def moveBattery (state : SpaceGameState) (player : String) : SpaceGameState :=
  if state.battery.location = "charger" then
    if state.battery.charged then
      let state := { state with battery.location := "signal" }
      if !state.overrideHeld then
        reveal state "B"
          "Battery transfer removes the door motor supply unless the bypass is held."
      else state
    else reveal state player "Charge the battery before moving it to the signal array."
  else { state with battery.location := "charger", battery.spent := false }

/-- Advances the relay through its client-visible cycle. -/
def nextRelay : String → String
  | "bypass" => "loop"
  | "loop" => "array"
  | _ => "bypass"

/-- Points the signal relay and reveals early ARRAY-mode diagnostics. -/
def setRelay (state : SpaceGameState) (before : Systems) (mode : String) :
    SpaceGameState × List String :=
  let state := { state with relay := mode }
  let effects := ["device:relay", "room:signal"]
  let state :=
    if state.relay = "array" ∧ !before.signalRouted then
      let state := reveal state "A"
        "ARRAY mode should wait until charged battery and coolant are both ready."
      reveal state "B"
        "A loop fault means relay mode was changed before the physical path was ready."
    else state
  (state, effects)

def launchBeacon (state : SpaceGameState) (before : Systems) (player : String) : SpaceGameState :=
  if before.readyToLaunch then { state with beaconLaunched := true }
  else if state.battery.location = "signal" ∧ state.battery.charged then
    let state := { state with battery.spent := true }
    reveal state player "Early launch attempts consume the signal battery pulse."
  else state

/-- Applies shared post-action visual-effect bookkeeping. -/
def finalize (state : SpaceGameState) (before : Systems) (effects : List String) :
    SpaceGameState :=
  let after := deriveSystems state
  let changed := [
    (before.powerStable != after.powerStable, "room:power"),
    (before.oxygenStable != after.oxygenStable, "room:oxygen"),
    (before.doorAccess != after.doorAccess, "room:airlock"),
    (before.signalRouted != after.signalRouted, "room:signal"),
    (before.coolingRestored != after.coolingRestored, "room:valve")]
  { state with visualEffects := effects ++ (changed.filter Prod.fst).map Prod.snd }

/-- What an action does, before the bookkeeping: the next state and the effects to show. -/
def perform (state : SpaceGameState) (before : Systems) :
    SpaceAction → SpaceGameState × List String
  | .moveStep player direction => (applyMoveStep state before player direction, [])
  | .toggleFuse player color => toggleFuse state player color
  | .toggleBreaker _ breaker => toggleBreaker state breaker
  | .setValve _ valve isOpen => setValve state before valve isOpen
  | .holdOverride player held =>
    let state := { state with overrideHeld := held }
    let state :=
      if state.overrideHeld then
        reveal state player "The bypass keeps the door motor powered during battery transfer."
      else state
    (state, ["device:bypass", "room:junction"])
  | .chargeBattery player => (chargeBattery state before player, [])
  | .moveBattery player => (moveBattery state player, [])
  | .cycleRelay _ => setRelay state before (nextRelay state.relay)
  | .launchBeacon player => (launchBeacon state before player, [])

/-- Applies one typed action and returns the next immutable game state. -/
def applyAction (state : SpaceGameState) (action : SpaceAction) : SpaceGameState :=
  let before := deriveSystems state
  let (next, effects) := perform state before action
  finalize next before effects

/-- `SpaceGame::apply_action`: the rules for an action that this role submits. -/
def spaceGameApplyAction (state : SpaceGameState) (action : SpaceAction) (actor : PlayerRole) :
    Except ActionRejection SpaceGameState :=
  match validateAction state action actor.asStr with
  | .error _ =>
    .error ⟨if action.player ≠ actor.asStr then "wrong_role" else "action_unavailable"⟩
  | .ok () => .ok (applyAction state action)

/-- Sessions take the actions that are accepted for their actors. -/
def spaceMachine : Machine SpaceGameState (SpaceAction × PlayerRole) where
  step state submitted := (spaceGameApplyAction state submitted.1 submitted.2).toOption

end Parlando.SpaceGame
