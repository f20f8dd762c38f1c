import Parlando.AgentConfig

namespace Parlando

/-- A configuration field as an implementation registers it, with the texts of the dashboard. -/
inductive RegisteredField where
  | mk (key label help : String) (value : AgentConfigValue RegisteredField) (required : Bool)
      (defaultValue : Value)

/-- An agent implementation as it is registered, with the texts of the dashboard. -/
structure RegisteredAgent where
  id : String
  name : String
  description : String
  configFields : List RegisteredField

mutual

def RegisteredField.field : RegisteredField → AgentConfigField
  | .mk key _ _ .json required defaultValue => .mk key .json required defaultValue
  | .mk key _ _ (.string format) required defaultValue =>
    .mk key (.string format) required defaultValue
  | .mk key _ _ .boolean required defaultValue => .mk key .boolean required defaultValue
  | .mk key _ _ (.integer minimum maximum) required defaultValue =>
    .mk key (.integer minimum maximum) required defaultValue
  | .mk key _ _ (.number minimum maximum) required defaultValue =>
    .mk key (.number minimum maximum) required defaultValue
  | .mk key _ _ (.choice choices) required defaultValue =>
    .mk key (.choice choices) required defaultValue
  | .mk key _ _ (.object fields) required defaultValue =>
    .mk key (.object (registeredFields fields)) required defaultValue
  | .mk key _ _ (.secretReference purpose) required defaultValue =>
    .mk key (.secretReference purpose) required defaultValue

def registeredFields : List RegisteredField → List AgentConfigField
  | [] => []
  | field :: fields => field.field :: registeredFields fields

end

def RegisteredAgent.definition (agent : RegisteredAgent) : AgentDefinition :=
  ⟨agent.id, registeredFields agent.configFields⟩

def StringFormat.toValue : StringFormat → Value
  | plain => .string "plain"
  | uri => .string "uri"
  | yaml => .string "yaml"

def SecretPurpose.toValue : SecretPurpose → Value
  | factory => .string "factory"
  | agentInstance => .string "agent_instance"

def AgentConfigChoice.toValue (choice : AgentConfigChoice) : Value :=
  .json [("value", .string choice.value), ("label", .string choice.label)]

def Bound.toValue : Bound → Value
  | finite value => .float value
  | notFinite => .null

mutual

def valueMembers : AgentConfigValue RegisteredField → List (String × Value)
  | .json => [("type", .string "json")]
  | .string format => [("type", .string "string"), ("format", format.toValue)]
  | .boolean => [("type", .string "boolean")]
  | .integer minimum maximum =>
    [("type", .string "integer"), ("minimum", .ofOption (minimum.map .int)),
      ("maximum", .ofOption (maximum.map .int))]
  | .number minimum maximum =>
    [("type", .string "number"), ("minimum", .ofOption (minimum.map Bound.toValue)),
      ("maximum", .ofOption (maximum.map Bound.toValue))]
  | .choice choices =>
    [("type", .string "choice"), ("choices", .array (choices.map AgentConfigChoice.toValue))]
  | .object fields => [("type", .string "object"), ("fields", .array (fieldValues fields))]
  | .secretReference purpose =>
    [("type", .string "secret_reference"), ("purpose", purpose.toValue)]

def RegisteredField.toValue : RegisteredField → Value
  | .mk key label help value required defaultValue =>
    .json ([("key", .string key), ("label", .string label), ("help", .string help)] ++
      valueMembers value ++ [("required", .bool required), ("default_value", defaultValue)])

def fieldValues : List RegisteredField → List Value
  | [] => []
  | field :: fields => field.toValue :: fieldValues fields

end

def RegisteredAgent.toValue (agent : RegisteredAgent) : Value :=
  .json [("id", .string agent.id), ("name", .string agent.name),
    ("description", .string agent.description), ("config_fields", .array (fieldValues agent.configFields))]

def derivedAgentSecretKey (factoryId path : String) : String :=
  .ofList ((("agent_" ++ factoryId ++ "_" ++ path).toList.map fun c =>
    if isKeyChar c then c else '_').take 128)

/-- The path of a field beneath its parent; the first level has no prefix. -/
def fieldPath (parentPath key : String) : String :=
  if parentPath.toList.isEmpty then key else parentPath ++ "." ++ key

mutual

/-- Adds server-owned default secret references to one serialized agent field descriptor. -/
def decorateField (factoryId parentPath : String) : Value → Value
  | .object members =>
    match (Value.member? members "key").bind Value.asStr? with
    | none => .object members
    | some key =>
      let path := fieldPath parentPath key
      match (Value.member? members "type").bind Value.asStr? with
      | some "secret_reference" => .object (Value.insertMember "secret_reference"
          (.string ("game." ++ derivedAgentSecretKey factoryId path)) members)
      | some "object" => .object (decorateChildren factoryId path members)
      | _ => .object members
  | value => value

def decorateChildren (factoryId path : String) : List (String × Value) → List (String × Value)
  | [] => []
  | (name, child) :: members =>
    (name, if name = "fields" then decorateArray factoryId path child else child) ::
      decorateChildren factoryId path members

def decorateArray (factoryId path : String) : Value → Value
  | .array fields => .array (decorateFields factoryId path fields)
  | value => value

def decorateFields (factoryId parentPath : String) : List Value → List Value
  | [] => []
  | field :: fields =>
    decorateField factoryId parentPath field :: decorateFields factoryId parentPath fields

end

def decorateDefinition : Value → Value
  | .object members =>
    match (Value.member? members "id").bind Value.asStr? with
    | none => .object members
    | some factoryId => .object (members.map fun member =>
        (member.1, if member.1 = "config_fields" then decorateArray factoryId "" member.2
          else member.2))
  | value => value

def dashboardAgentDefinitions (agents : List RegisteredAgent) : Value :=
  .array (agents.map fun agent => decorateDefinition agent.toValue)

end Parlando
