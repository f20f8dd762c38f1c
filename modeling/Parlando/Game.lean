import Parlando.Protocol

namespace Parlando

/-- Machine-readable reason why a game rule rejected a typed action. -/
structure ActionRejection where
  code : String
  deriving DecidableEq, Repr

/--
A game as the runtime sees it: its types, its rules, and how its values serialize.
Serialization answers an error text where the game's own serializer fails.
-/
structure Game where
  State : Type
  Action : Type
  Observation : Type
  Completion : Type
  applyAction : State → Action → PlayerRole → Except ActionRejection State
  observation : State → PlayerRole → Observation
  availableActions : State → PlayerRole → Option (List Action) := fun _ _ => none
  transitionMetadata : State → State → Action → PlayerRole → Option Value := fun _ _ _ _ => none
  completion : State → Option Completion
  stateJson : State → Except String Value
  actionJson : Action → Except String Value
  observationJson : Observation → Except String Value
  completionJson : Completion → Except String Value

end Parlando
