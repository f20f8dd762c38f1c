import Parlando.AgentTask
import Parlando.Proofs.GreatTree

namespace Parlando.GreatTree

open Headless (AgentResponse)

structure LimbView where
  id : LimbId
  sun : Bool
  water : Bool
  deriving DecidableEq

structure RootView where
  id : RootId
  thawed : Bool
  running : Bool
  deriving DecidableEq

/-- One type for both roles' observations; each carries only that role's own five items. -/
inductive GreatTreeObservation where
  | crown (limbs : Vector LimbView 5)
  | root (roots : Vector RootView 5)
  deriving DecidableEq

def limbView (state : GreatTreeState) (limb : LimbId) : LimbView :=
  ⟨limb, sun state limb, water state limb⟩

def rootView (state : GreatTreeState) (root : RootId) : Option RootView :=
  (thawed state root).map fun thawed => ⟨root, thawed, running state root⟩

/-- `GreatTree::observation`, or `none` where it panics. -/
def observation (state : GreatTreeState) (role : PlayerRole) : Option GreatTreeObservation :=
  if role = state.crownSeat.role then
    some (.crown #v[limbView state .spire, limbView state .hook, limbView state .fork,
      limbView state .cradle, limbView state .nub])
  else do
    return .root #v[← rootView state .hand, ← rootView state .knot, ← rootView state .tip,
      ← rootView state .swollen, ← rootView state .deep]

def viewRoot (s : GreatTreeState) (root : RootId) : RootView :=
  ⟨root, (thawed s root).getD false, running s root⟩

def rootViews (s : GreatTreeState) : Vector RootView 5 :=
  #v[viewRoot s .hand, viewRoot s .knot, viewRoot s .tip, viewRoot s .swollen, viewRoot s .deep]

variable {s : GreatTreeState}

theorem toList_rootViews : (rootViews s).toList = RootId.all.toList.map (viewRoot s) := rfl

theorem Inv.rootView (inv : Inv s) (root : RootId) : rootView s root = some (viewRoot s root) := by
  obtain ⟨limb, rfl⟩ := inv.paired.2 root
  rw [GreatTree.rootView, viewRoot, inv.thawed_rootOf, Option.map_some, Option.getD_some]

theorem Inv.observation_root (inv : Inv s) {role : PlayerRole} (seat : role ≠ s.crownSeat.role) :
    observation s role = some (.root (rootViews s)) := by
  unfold observation
  simp only [if_neg seat, inv.rootView]
  rfl

theorem Inv.observation_isSome (inv : Inv s) (role : PlayerRole) :
    (observation s role).isSome = true := by
  by_cases seat : role = s.crownSeat.role
  · rw [observation, if_pos seat]
    rfl
  · rw [inv.observation_root seat]
    rfl

namespace LimbId

def name : LimbId → String
  | spire => "spire"
  | hook => "hook"
  | fork => "fork"
  | cradle => "cradle"
  | nub => "nub"

def json (limb : LimbId) : Value := .string limb.name

end LimbId

namespace RootId

def debug : RootId → String
  | hand => "Hand"
  | knot => "Knot"
  | tip => "Tip"
  | swollen => "Swollen"
  | deep => "Deep"

def name : RootId → String
  | hand => "hand"
  | knot => "knot"
  | tip => "tip"
  | swollen => "swollen"
  | deep => "deep"

def json (root : RootId) : Value := .string root.name

end RootId

def CrownSeat.json : CrownSeat → Value
  | A => .string "a"
  | B => .string "b"

def GreatTreeState.json (state : GreatTreeState) : Value :=
  .object [("bijection", .array (state.bijection.toList.map RootId.json)),
    ("crown_seat", state.crownSeat.json),
    ("limb_water", .array (state.limbWater.toList.map .bool)),
    ("sun_holds", .array (state.sunHolds.map LimbId.json)),
    ("water_holds", .array (state.waterHolds.map RootId.json))]

def GreatTreeAction.json : GreatTreeAction → Value
  | setSun limb lit => .object [("limb", limb.json), ("lit", .bool lit), ("type", .string "setSun")]
  | setFlow root isOpen =>
    .object [("open", .bool isOpen), ("root", root.json), ("type", .string "setFlow")]

def LimbView.json (view : LimbView) : Value :=
  .object [("id", view.id.json), ("sun", .bool view.sun), ("water", .bool view.water)]

def RootView.json (view : RootView) : Value :=
  .object [("id", view.id.json), ("running", .bool view.running), ("thawed", .bool view.thawed)]

def GreatTreeObservation.json : GreatTreeObservation → Value
  | crown limbs =>
    .object [("limbs", .array (limbs.toList.map LimbView.json)), ("role", .string "crown")]
  | root roots =>
    .object [("role", .string "root"), ("roots", .array (roots.toList.map RootView.json))]

def GreatTreeCompletion.json (completion : GreatTreeCompletion) : Value :=
  .object [("floweredLimbs", .array (completion.floweredLimbs.map LimbId.json))]

/-- A state that the game's own actions lead to and never leave. -/
abbrev SoundState := { s : GreatTreeState // Inv s }

namespace SoundState

/-- On sound states, actions never panic and lead to sound states. -/
def applyAction (s : SoundState) (action : GreatTreeAction) (actor : PlayerRole) :
    Except ActionRejection SoundState :=
  match result : GreatTree.applyAction s.1 action actor with
  | some (.ok next) => .ok ⟨next, (s.2.applyAction_ok result).1⟩
  | some (.error rejection) => .error rejection
  | none => absurd result (s.2.applyAction_error action actor).1

def observation (s : SoundState) (role : PlayerRole) : GreatTreeObservation :=
  (GreatTree.observation s.1 role).get (s.2.observation_isSome role)

end SoundState

def greatTree : Game where
  State := SoundState
  Action := GreatTreeAction
  Observation := GreatTreeObservation
  Completion := GreatTreeCompletion
  applyAction := SoundState.applyAction
  observation := SoundState.observation
  completion s := completion s.1
  stateJson s := .ok s.1.json
  actionJson action := .ok action.json
  observationJson observation := .ok observation.json
  completionJson completion := .ok completion.json

structure Unicode where
  isAlphanumeric : Char → Bool
  toLowercase : String → String

/-- Non-LLM agent that plays Root by reacting only to its own observation. -/
structure RootBotAgent where
  latestRoots : Option (Vector RootView 5) := none
  pendingAction : Option GreatTreeAction := none
  pendingMessage : Option String := none

def rootBotOrientation : String :=
  "I'll open any root that warms up on my side, and keep it open once it's flowing."

namespace RootBotAgent

variable (unicode : Unicode) (bot : RootBotAgent)

/-- Opens the first thawed-but-not-running root found; a no-op if nothing needs opening. -/
def react (roots : Vector RootView 5) : RootBotAgent :=
  let bot := { bot with latestRoots := some roots }
  match roots.toList.find? fun view => view.thawed && !view.running with
  | some view =>
    { bot with
      pendingAction := some (.setFlow view.id true)
      pendingMessage := some ("Opened " ++ view.id.debug ++ " — it's running now.") }
  | none => bot

/-- The words of a text in lower case. -/
def words (text : String) : List String :=
  ((text.toList.splitOnP fun c => !unicode.isAlphanumeric c).filter fun word => !word.isEmpty).map
    fun word => unicode.toLowercase (.ofList word)

/-- What the agent says of a root's current status. -/
def statusReply (root : RootId) : String :=
  match bot.latestRoots.bind fun roots => roots.toList.find? fun view => view.id == root with
  | some view =>
    if view.running then root.debug ++ " is thawed and I've got it open."
    else root.debug ++ " isn't thawed yet."
  | none => "I don't have a reading on " ++ root.debug ++ " yet."

/-- Replies to the partner's chat using plain keyword matching. -/
def handleMessage (text : String) : RootBotAgent :=
  let words := words unicode text
  match RootId.all.toList.find? fun root => words.contains (unicode.toLowercase root.debug) with
  | some root => { bot with pendingMessage := some (bot.statusReply root) }
  | none =>
    if words.any (fun w => w == "help" || w == "stuck") || text.toList.contains '?' then
      { bot with pendingMessage := some rootBotOrientation }
    else if words.any fun w => w == "hi" || w == "hello" || w == "hey" then
      { bot with pendingMessage := some "Hey! Ready when you are." }
    else bot

def observeTransition : GreatTreeObservation → RootBotAgent
  | .root roots => bot.react roots
  | .crown _ => bot

def start (initialObservation : GreatTreeObservation) : RootBotAgent :=
  { bot with pendingMessage := some rootBotOrientation }.observeTransition initialObservation

def respond : Option (AgentResponse GreatTreeAction) × RootBotAgent :=
  let response := match bot.pendingAction, bot.pendingMessage with
    | some action, some message => some (.actionAndMessage action message)
    | some action, none => some (.action action)
    | none, some message => some (.message message)
    | none, none => none
  (response, { bot with pendingAction := none, pendingMessage := none })

end RootBotAgent

/-- The agent as its task sees it. -/
def rootBot (unicode : Unicode) : Agent greatTree where
  State := RootBotAgent
  observeTransition bot _ _ observation := (.returned (), bot.observeTransition observation)
  observeMessage bot _ text := (.returned (), bot.handleMessage unicode text)
  finish bot _ := (.returned (), bot)
  respond bot _ := (.returned bot.respond.1, bot.respond.2)

/-- A session that has just been activated with this agent at one of its seats. -/
def rootBotSession (unicode : Unicode) (start : SoundState) (role : PlayerRole) :
    AgentSession greatTree (rootBot unicode) where
  state := start
  agent := RootBotAgent.start {} (start.observation role)

end Parlando.GreatTree
