import Parlando.Data.Map
import Parlando.Data.Text
import Parlando.Protocol

namespace Parlando

def isKeyChar (c : Char) : Bool := c.isAlphanum || c == '_' || c == '-'

/-- The keys of agent configuration fields, and what a secret reference names. -/
def validKey (key : String) : Bool :=
  !key.toList.isEmpty && key.utf8ByteSize ≤ 128 && key.toList.all isKeyChar

/-- Validates one write-only secret name and value before opening a transaction. -/
def validateSecretUpdate (key : String) (value : Option String) : Except AppError Unit :=
  let game := (Text.stripPrefix "game." key).any fun name => !name.toList.isEmpty
  if key.toList.length > 128 || !game || !key.toList.all (fun c => isKeyChar c || c == '.') then
    .error ⟨.badRequest, "Experiment secret keys must use game.<name> with letters, digits, " ++
      "dots, dashes, and underscores"⟩
  else if value.any fun value => value.toList.isEmpty || value.utf8ByteSize > 65536 then
    .error ⟨.badRequest, "Secret values must contain 1 to 65536 bytes"⟩
  else .ok ()

/-- The `game_secrets` of a configuration: the experiment's secrets without their prefix. -/
def applyExperimentSecrets (secrets : Map String String) : Map String String :=
  secrets.filterMapKeys (Text.stripPrefix "game.")

theorem lookup_applyExperimentSecrets (secrets : Map String String) (name : String) :
    (applyExperimentSecrets secrets).lookup name = secrets.lookup ("game." ++ name) :=
  Map.lookup_filterMapKeys (fun _ => Text.stripPrefix_eq_some) secrets

/-- The patterns shared by the check of game configurations and by the redaction. -/
def isCredentialKey (key : String) : Bool :=
  let normalized := Text.lower key
  normalized == "private_key" || normalized == "client_secret" ||
    normalized == "access_token" || normalized == "auth_token" ||
    Text.endsWith "_api_key" normalized || Text.endsWith "_password" normalized ||
    Text.endsWith "_secret" normalized || Text.endsWith "_token" normalized ||
    ["api_key", "apikey", "password", "token", "secret"].contains normalized

/-- The keys whose values the redaction removes: the shared patterns and one more. -/
def isRedactedKey (key : String) : Bool :=
  isCredentialKey key || Text.lower key == "password_hash"

def isExperimentGameSecretReference (value : String) : Bool :=
  (Text.stripPrefix "game." value).any validKey

mutual

/-- Recursively removes credential-shaped fields as a defense-in-depth serialization boundary. -/
def redactSecretFields : Value → Value
  | .object members => .object (redactMembers members)
  | .array items => .array (redactItems items)
  | value => value

def redactMembers : List (String × Value) → List (String × Value)
  | [] => []
  | (key, child) :: members =>
    let kept := child.asStr?.any isExperimentGameSecretReference
    let child := if isRedactedKey key then (if kept then child else .string "")
      else redactSecretFields child
    (key, child) :: redactMembers members

def redactItems : List Value → List Value
  | [] => []
  | item :: items => redactSecretFields item :: redactItems items

end

mutual

/-- Rejects credentials embedded in revisioned game options instead of silently redacting them. -/
def visitCredentials : Value → List String → Except String Unit
  | .object members, path => visitMembers members path
  | .array items, path => visitItems items path
  | _, _ => .ok ()

def visitMembers : List (String × Value) → List String → Except String Unit
  | [], _ => .ok ()
  | (key, child) :: members, path => do
    let here := path ++ [key]
    if isCredentialKey key then
      throw ("game configuration field " ++ ".".intercalate here ++
        " looks like a credential; add it under Game secrets instead")
    visitCredentials child here
    visitMembers members path

def visitItems : List Value → List String → Except String Unit
  | [], _ => .ok ()
  | item :: items, path => do
    visitCredentials item path
    visitItems items path

end

def validateGameConfigContainsNoSecrets (value : Value) : Except String Unit :=
  visitCredentials value []

end Parlando
