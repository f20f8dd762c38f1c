import Parlando.Concurrency.Machine
import Parlando.Game

namespace Parlando.GreatTree

open Concurrency

/-- The five limb shapes in Crown's domain. -/
inductive LimbId where
  | spire
  | hook
  | fork
  | cradle
  | nub
  deriving DecidableEq, Repr

namespace LimbId

def all : Vector LimbId 5 := #v[spire, hook, fork, cradle, nub]

/-- The place of a limb among all. -/
def index : LimbId → Fin 5
  | spire => 0
  | hook => 1
  | fork => 2
  | cradle => 3
  | nub => 4

end LimbId

inductive RootId where
  | hand
  | knot
  | tip
  | swollen
  | deep
  deriving DecidableEq, Repr

def RootId.all : Vector RootId 5 := #v[.hand, .knot, .tip, .swollen, .deep]

inductive CrownSeat where
  | A
  | B
  deriving DecidableEq, Repr

def CrownSeat.role : CrownSeat → PlayerRole
  | A => .A
  | B => .B

structure GreatTreeState where
  crownSeat : CrownSeat
  /-- Limbs Crown currently holds sun on, oldest first. -/
  sunHolds : List LimbId
  /-- Roots Root currently holds open, oldest first. -/
  waterHolds : List RootId
  /-- Per-limb flag that water has reached the limb. -/
  limbWater : Vector Bool 5
  /-- The one root that each limb both warms and is fed by. -/
  bijection : Vector RootId 5
  deriving DecidableEq

inductive GreatTreeAction where
  | setSun (limb : LimbId) (lit : Bool)
  | setFlow (root : RootId) (isOpen : Bool)
  deriving DecidableEq, Repr

structure GreatTreeCompletion where
  floweredLimbs : List LimbId

/-- The source expects the search to succeed; `none` is where it would panic. -/
def limbForRoot (state : GreatTreeState) (root : RootId) : Option LimbId :=
  LimbId.all.toList.find? fun limb => state.bijection[limb.index] == root

/-- The root that is paired with a limb. -/
def rootOf (s : GreatTreeState) (limb : LimbId) : RootId := s.bijection[limb.index]

def sun (state : GreatTreeState) (limb : LimbId) : Bool := state.sunHolds.contains limb

def water (state : GreatTreeState) (limb : LimbId) : Bool := state.limbWater[limb.index]

def flowered (state : GreatTreeState) (limb : LimbId) : Bool := sun state limb && water state limb

def thawed (state : GreatTreeState) (root : RootId) : Option Bool :=
  (limbForRoot state root).map (sun state)

/-- Membership alone is sufficient, as only thawed roots are held. -/
def running (state : GreatTreeState) (root : RootId) : Bool := state.waterHolds.contains root

def forceClosePairedRoot (state : GreatTreeState) (limb : LimbId) : GreatTreeState :=
  let root := state.bijection[limb.index]
  { state with
    waterHolds := state.waterHolds.filter (· != root)
    limbWater := state.limbWater.set limb.index false }

/-- Crown's `SetSun` action: a fourth limb evicts the oldest hold. -/
def applySetSun (state : GreatTreeState) (limb : LimbId) (lit : Bool) : GreatTreeState :=
  if lit then
    if state.sunHolds.contains limb then state
    else
      let next := match state.sunHolds with
        | evicted :: rest =>
          if state.sunHolds.length = 3 then
            forceClosePairedRoot { state with sunHolds := rest } evicted
          else state
        | [] => state
      { next with sunHolds := next.sunHolds ++ [limb] }
  else if state.sunHolds.contains limb then
    forceClosePairedRoot { state with sunHolds := state.sunHolds.filter (· != limb) } limb
  else state

inductive FlowRejection where
  | rootFrozen
  deriving DecidableEq, Repr

/-- Drops the oldest open root when three are held. -/
def evictRoot (state : GreatTreeState) : Option GreatTreeState :=
  match state.waterHolds with
  | evictedRoot :: rest =>
    if state.waterHolds.length = 3 then do
      let evictedLimb ← limbForRoot state evictedRoot
      return { state with
        waterHolds := rest
        limbWater := state.limbWater.set evictedLimb.index false }
    else some state
  | [] => some state

/-- Root's `SetFlow` action: only thawed roots open, and a fourth evicts the oldest hold. -/
def applySetFlow (state : GreatTreeState) (root : RootId) (isOpen : Bool) :
    Option (Except FlowRejection GreatTreeState) :=
  if isOpen then
    if state.waterHolds.contains root then some (.ok state)
    else do
      if !(← thawed state root) then return .error .rootFrozen
      let next ← evictRoot state
      let limb ← limbForRoot next root
      return .ok { next with
        waterHolds := next.waterHolds ++ [root]
        limbWater := next.limbWater.set limb.index true }
  else if state.waterHolds.contains root then do
    let limb ← limbForRoot state root
    return .ok { state with
      waterHolds := state.waterHolds.filter (· != root)
      limbWater := state.limbWater.set limb.index false }
  else some (.ok state)

/-- Root is whichever seat `state.crownSeat` isn't. -/
def rootRole (state : GreatTreeState) : PlayerRole :=
  match state.crownSeat.role with
  | .A => .B
  | .B => .A

def roleForAction (state : GreatTreeState) : GreatTreeAction → PlayerRole
  | .setSun .. => state.crownSeat.role
  | .setFlow .. => rootRole state

/-- What a session uses of the seeded random number generator. -/
structure StdRng where
  State : Type
  seedFromU64 : UInt64 → State
  shuffle : Vector RootId 5 → State → Vector RootId 5 × State
  genRange : State → Fin 5

/-- The limb that starts flowered, and the roots paired with the limbs. -/
def generate (rng : StdRng) (seed : UInt64) : LimbId × Vector RootId 5 :=
  let (roots, state) := rng.shuffle RootId.all (rng.seedFromU64 seed)
  let startingIndex := rng.genRange state
  (LimbId.all[startingIndex], roots)

def initialState (rng : StdRng) (crownSeat : CrownSeat) (seed : UInt64) : GreatTreeState :=
  let (startingLimb, bijection) := generate rng seed
  { crownSeat
    sunHolds := [startingLimb]
    waterHolds := [bijection[startingLimb.index]]
    limbWater := (Vector.replicate 5 false).set startingLimb.index true
    bijection }

/-- `GreatTree::apply_action`, or `none` where it panics. -/
def applyAction (state : GreatTreeState) (action : GreatTreeAction) (actor : PlayerRole) :
    Option (Except ActionRejection GreatTreeState) :=
  if actor ≠ roleForAction state action then some (.error ⟨"wrong_role"⟩)
  else
    match action with
    | .setSun limb lit => some (.ok (applySetSun state limb lit))
    | .setFlow root isOpen =>
      (applySetFlow state root isOpen).map (Except.mapError fun .rootFrozen => ⟨"root_frozen"⟩)

def completion (state : GreatTreeState) : Option GreatTreeCompletion :=
  let floweredLimbs := LimbId.all.toList.filter (flowered state)
  if floweredLimbs.length ≥ 3 then some { floweredLimbs } else none

/-- Sessions take the actions that are accepted for their actors. -/
def greatTreeMachine : Machine GreatTreeState (GreatTreeAction × PlayerRole) where
  step state submitted :=
    match applyAction state submitted.1 submitted.2 with
    | some (.ok next) => some next
    | _ => none

def openRoot (s : GreatTreeState) (limb : LimbId) : GreatTreeState :=
  { s with
    waterHolds := s.waterHolds ++ [rootOf s limb]
    limbWater := s.limbWater.set limb.index true }

theorem index_injective : Function.Injective LimbId.index := by
  intro a b
  cases a <;> cases b <;> decide

theorem getElem_set {α : Type} (v : Vector α 5) (limb other : LimbId) (x : α) :
    (v.set limb.index x)[other.index] = if other = limb then x else v[other.index] := by
  rw [Fin.getElem_fin, Vector.getElem_set, Fin.getElem_fin]
  by_cases same : other = limb
  · rw [if_pos same, if_pos (by rw [same])]
  · rw [if_neg same, if_neg fun places => same (index_injective (Fin.ext places)).symm]

end Parlando.GreatTree
