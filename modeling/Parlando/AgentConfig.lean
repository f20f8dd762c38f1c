import Parlando.Data.Except
import Parlando.Data.Json
import Parlando.Secrets

namespace Parlando

inductive StringFormat where
  | plain
  | uri
  | yaml
  deriving DecidableEq

structure AgentConfigChoice where
  value : String
  label : String

/-- Determines which consumer may receive a referenced secret value. -/
inductive SecretPurpose where
  | factory
  | agentInstance
  deriving DecidableEq

/-- A bound of a number field as compiled code writes it: not every float is a finite number. -/
inductive Bound where
  | finite (value : Rat)
  | notFinite

namespace Bound

def isFinite : Bound → Bool
  | finite _ => true
  | notFinite => false

def value? : Bound → Option Rat
  | finite value => some value
  | notFinite => none

end Bound

inductive AgentConfigValue (Field : Type) where
  | json
  | string (format : StringFormat)
  | boolean
  | integer (minimum maximum : Option Int)
  | number (minimum maximum : Option Bound)
  | choice (choices : List AgentConfigChoice)
  | object (fields : List Field)
  | secretReference (purpose : SecretPurpose)

inductive AgentConfigField where
  | mk (key : String) (value : AgentConfigValue AgentConfigField) (required : Bool)
      (defaultValue : Value)

namespace AgentConfigField

def key : AgentConfigField → String
  | mk key _ _ _ => key

def required : AgentConfigField → Bool
  | mk _ _ required _ => required

def defaultValue : AgentConfigField → Value
  | mk _ _ _ defaultValue => defaultValue

end AgentConfigField

/-- Describes one agent implementation registered with a game server. -/
structure AgentDefinition where
  id : String
  configFields : List AgentConfigField

structure UriParts where
  scheme : Option String
  authority : Option String
  host : Option String
  path : String
  query : Option String

/-- The outside parsers that settings pass through. -/
structure TextFormats where
  parseUri : String → Option UriParts
  parseYaml : String → Option Value

/-- The blanks of Unicode, which `str::trim` removes. -/
def isBlankChar (c : Char) : Bool :=
  let n := c.toNat
  (9 ≤ n && n ≤ 13) || n == 0x20 || n == 0x85 || n == 0xA0 || n == 0x1680 ||
    (0x2000 ≤ n && n ≤ 0x200A) || n == 0x2028 || n == 0x2029 || n == 0x202F || n == 0x205F ||
    n == 0x3000

def isBlank (text : String) : Bool := text.toList.all isBlankChar

/-- The reference's key is one of `game.<key>`, however often the prefix stands before it. -/
def isSecretReference (reference : String) : Bool :=
  Text.startsWith "game." reference && validKey (Text.trimStartMatches "game." reference)

section Normalization

variable (formats : TextFormats)

def normalizeString (format : StringFormat) (required : Bool) (value : Value) (path : String) :
    Except String Value := do
  let text ← orError value.asStr? (path ++ " must be a string")
  if required && isBlank text then throw (path ++ " must not be empty")
  match format with
  | .plain => return value
  | .uri =>
    let uri ← orError (formats.parseUri text) (path ++ " must be a URI")
    if !(uri.scheme == some "http" || uri.scheme == some "https") || uri.host.isNone then
      throw (path ++ " must be an absolute HTTP or HTTPS URI")
    return value
  | .yaml =>
    if isBlank text then return value
    let document ← orError (formats.parseYaml text) (path ++ " must be valid YAML")
    if document.asObject?.isNone then throw (path ++ " must be a YAML mapping")
    return value

def normalizeInteger (minimum maximum : Option Int) (value : Value) (path : String) :
    Except String Value := do
  let number ← orError (value.asI64?.bind asI64) (path ++ " must be an integer")
  if minimum.any (fun bound => number < bound) || maximum.any (fun bound => number > bound) then
    throw (path ++ " is outside its bounds")
  return .int number

def normalizeNumber (minimum maximum : Option Bound) (value : Value) (path : String) :
    Except String Value := do
  let number ← orError value.asF64? (path ++ " must be a finite number")
  if (minimum.bind Bound.value?).any (fun bound => number < bound) ||
      (maximum.bind Bound.value?).any (fun bound => number > bound) then
    throw (path ++ " is outside its bounds")
  return .float number

def normalizeChoice (choices : List AgentConfigChoice) (value : Value) (path : String) :
    Except String Value := do
  let selected ← orError value.asStr? (path ++ " must be a choice string")
  if !choices.any (fun choice => choice.value == selected) then
    throw (path ++ " is not a declared choice")
  return value

def normalizeSecretReference (value : Value) (path : String) : Except String Value := do
  let reference ← orError value.asStr? (path ++ " must be a secret reference")
  if !isSecretReference reference then throw (path ++ " must reference a game.<key> secret")
  return value

theorem normalizeSecretReference_string {reference : String}
    (isReference : isSecretReference reference = true) (path : String) :
    normalizeSecretReference (.string reference) path = .ok (.string reference) :=
  if_neg (by simp [isReference])

/-- Settings may name declared fields only. -/
def rejectUnknown (fields : List AgentConfigField) (object : List (String × Value))
    (path : String) : Except String Unit :=
  match object.find? fun member => !fields.any fun field => field.key == member.1 with
  | some (key, _) => .error ("unknown agent setting " ++ path ++ "." ++ key)
  | none => .ok ()

mutual

def normalizeValue : AgentConfigField → Value → String → Except String Value
  | .mk _ .json _ _, value, _ => .ok value
  | .mk _ (.string format) required _, value, path =>
    normalizeString formats format required value path
  | .mk _ .boolean _ _, value, path =>
    (orError value.asBool? (path ++ " must be a boolean")).map .bool
  | .mk _ (.integer minimum maximum) _ _, value, path =>
    normalizeInteger minimum maximum value path
  | .mk _ (.number minimum maximum) _ _, value, path => normalizeNumber minimum maximum value path
  | .mk _ (.choice choices) _ _, value, path => normalizeChoice choices value path
  | .mk _ (.object fields) _ _, value, path => do
    let object ← orError value.asObject? (path ++ " must be an object")
    rejectUnknown fields object path
    return .object (← normalizeFields fields object path [])
  | .mk _ (.secretReference _) _ _, value, path => normalizeSecretReference value path

def normalizeFields : List AgentConfigField → List (String × Value) → String →
    List (String × Value) → Except String (List (String × Value))
  | [], _, _, normalized => .ok normalized
  | field :: fields, object, path, normalized => do
    let given := (Value.member? object field.key).or
      (if field.defaultValue.isNull then none else some field.defaultValue)
    match given with
    | some value =>
      let value ← normalizeValue field value (path ++ "." ++ field.key)
      normalizeFields fields object path (Value.insertMember field.key value normalized)
    | none =>
      if field.required then
        throw ("required agent setting " ++ path ++ "." ++ field.key ++ " is missing")
      normalizeFields fields object path normalized

end

def normalizeObject (fields : List AgentConfigField) (object : List (String × Value))
    (path : String) : Except String Value := do
  rejectUnknown fields object path
  return .object (← normalizeFields formats fields object path [])

def validateInteger : Option Int → Option Int → String → Except String Unit
  | some minimum, some maximum, path =>
    if minimum > maximum then .error ("impossible bounds for " ++ path) else .ok ()
  | _, _, _ => .ok ()

def validateNumber (minimum maximum : Option Bound) (path : String) : Except String Unit :=
  let crossed := match minimum.bind Bound.value?, maximum.bind Bound.value? with
    | some a, some b => decide (a > b)
    | _, _ => false
  if minimum.any (fun bound => !bound.isFinite) || maximum.any (fun bound => !bound.isFinite) ||
      crossed then .error ("invalid bounds for " ++ path)
  else .ok ()

def validateChoices (choices : List AgentConfigChoice) (path : String) : Except String Unit :=
  if choices.isEmpty || choices.any (fun choice =>
      choice.value.toList.isEmpty || isBlank choice.label) ||
      decide ¬(choices.map AgentConfigChoice.value).Nodup then
    .error ("invalid choices for " ++ path)
  else .ok ()

mutual

/-- What a field's own type asks of it, at the field's path. -/
def validateValue : AgentConfigField → String → Except String Unit
  | .mk _ (.integer minimum maximum) _ _, path => validateInteger minimum maximum path
  | .mk _ (.number minimum maximum) _ _, path => validateNumber minimum maximum path
  | .mk _ (.choice choices) _ _, path => validateChoices choices path
  | .mk _ (.object fields) _ _, path => validateFields fields path []
  | _, _ => .ok ()

/-- Checks the fields one after the other; `seen` holds the keys of the earlier ones. -/
def validateFields : List AgentConfigField → String → List String → Except String Unit
  | [], _, _ => .ok ()
  | field :: fields, path, seen => do
    let here := path ++ "." ++ field.key
    if !validKey field.key then throw ("invalid agent configuration key " ++ here)
    if seen.contains field.key then throw ("duplicate agent configuration key " ++ here)
    validateValue field here
    if !field.defaultValue.isNull then
      match normalizeValue formats field field.defaultValue here with
      | .ok _ => pure ()
      | .error _ => throw "invalid agent configuration default"
    validateFields fields path (field.key :: seen)

end

namespace AgentDefinition

/-- Validates field keys, recursive definitions, defaults, and numeric constraints. -/
def validate (definition : AgentDefinition) : Except String Unit :=
  if isBlank definition.id then .error "agent definition id must not be empty"
  else validateFields formats definition.configFields "config" []

/-- Validates and normalizes stored settings, inserting declared defaults. -/
def normalizeSettings (definition : AgentDefinition) (settings : Value) : Except String Value :=
  if settings.isNull && definition.configFields.isEmpty then .ok (.object [])
  else do
    let object ← orError settings.asObject? "agent settings must be an object"
    normalizeObject formats definition.configFields object "config"

end AgentDefinition

end Normalization

structure SecretSets where
  factory : Map String String := ∅
  agentInstance : Map String String := ∅

namespace SecretSets

def get (sets : SecretSets) : SecretPurpose → Map String String
  | .factory => sets.factory
  | .agentInstance => sets.agentInstance

def insert (sets : SecretSets) (purpose : SecretPurpose) (path secret : String) : SecretSets :=
  match purpose with
  | .factory => { sets with factory := AList.insert path secret sets.factory }
  | .agentInstance => { sets with agentInstance := AList.insert path secret sets.agentInstance }

theorem lookup_insert (sets : SecretSets) (purpose purpose' : SecretPurpose)
    (path path' secret : String) :
    ((sets.insert purpose path secret).get purpose').lookup path' =
      if purpose' = purpose ∧ path' = path then some secret
      else (sets.get purpose').lookup path' := by
  cases purpose <;> cases purpose' <;> simp [insert, get, Map.lookup_insert_eq]

end SecretSets

mutual

def resolveFieldSecret (secrets : Map String String) : AgentConfigField → Value → String →
    SecretSets → Except String SecretSets
  | .mk _ (.secretReference purpose) _ _, value, path, sets => do
    let reference ← orError value.asStr? "validated secret reference was not a string"
    let key ← orError (Text.stripPrefix "game." reference)
      "validated secret reference lost game prefix"
    let secret ← orError (secrets.lookup key)
      ("missing experiment secret reference " ++ reference)
    return sets.insert purpose path secret
  | .mk _ (.object fields) _ _, value, path, sets => do
    let values ← orError value.asObject? "validated object was not an object"
    resolveFieldSecrets secrets fields values path sets
  | _, _, _, sets => .ok sets

def resolveFieldSecrets (secrets : Map String String) : List AgentConfigField →
    List (String × Value) → String → SecretSets → Except String SecretSets
  | [], _, _, sets => .ok sets
  | field :: fields, values, path, sets =>
    match Value.member? values field.key with
    | none => resolveFieldSecrets secrets fields values path sets
    | some value => do
      let sets ← resolveFieldSecret secrets field value (path ++ "." ++ field.key) sets
      resolveFieldSecrets secrets fields values path sets

end

def AgentDefinition.resolveSecrets (definition : AgentDefinition) (settings : Value)
    (secrets : Map String String) : Except String SecretSets := do
  let values ← orError settings.asObject? "agent settings must be an object"
  resolveFieldSecrets secrets definition.configFields values "config" {}

end Parlando
