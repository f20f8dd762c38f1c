import Parlando.Configuration
import Parlando.Data.Table

namespace Parlando

structure ExperimentRow where
  experimentId : String
  gameVersion : String
  config : Value
  configRevision : Int
  status : String

structure RevisionRow where
  experimentId : String
  revision : Int
  config : Value
  changeSummary : Option String

structure GameSettings where
  speechmaticsRealtimeUrl : String
  ttsBaseUrl : String

structure ConfigStore where
  experiments : List ExperimentRow
  revisions : List RevisionRow := []
  /-- `experiment_secrets` under their primary key. -/
  secrets : Map (String × String) String := ∅
  gameSettings : GameSettings
  gameSecrets : Map String String := ∅

namespace ConfigStore

def experimentDefinition (store : ConfigStore) (experimentId : String) : Option ExperimentRow :=
  Table.find? ExperimentRow.experimentId store.experiments experimentId

def experimentSecrets (store : ConfigStore) (experimentId : String) : Map String String :=
  store.secrets.filterMapKeys fun key => if key.1 = experimentId then some key.2 else none

/-- The transaction `save_experiment_configuration`; its secret updates precede its deletions. -/
def saveExperimentConfiguration (store : ConfigStore) (experimentId : String)
    (expectedRevision : Int) (config : Value) (changeSummary : Option String)
    (secretUpdates : Map String String) (secretDeletions : List String) :
    Except String (ConfigStore × Int) :=
  match store.experimentDefinition experimentId with
  | none => .error "experiment configuration changed concurrently or experiment is not inactive"
  | some experiment =>
    let nextRevision := expectedRevision + 1
    if experiment.configRevision ≠ expectedRevision ∨ experiment.status ≠ "inactive" then
      .error "experiment configuration changed concurrently or experiment is not inactive"
    else if store.revisions.any fun row =>
        row.experimentId == experimentId && row.revision == nextRevision then
      .error "UNIQUE constraint failed"
    else
      let updated := secretUpdates.entries.foldl
        (fun secrets entry => AList.insert (experimentId, entry.1) entry.2 secrets) store.secrets
      let secrets := secretDeletions.foldl
        (fun secrets key => AList.erase (experimentId, key) secrets) updated
      .ok ({ store with
        experiments := Table.update ExperimentRow.experimentId store.experiments experimentId
          fun row => { row with config, configRevision := nextRevision }
        revisions := store.revisions ++ [⟨experimentId, nextRevision, config, changeSummary⟩]
        secrets }, nextRevision)

end ConfigStore

structure AdminSaveExperimentConfigRequest where
  expectedRevision : Int
  config : Value
  gameYaml : Option String := none
  secretUpdates : Map String String := ∅
  secretDeletions : List String := []
  changeSummary : Option String := none

/-- What a server process and its game contribute to the administration of experiments. -/
structure AdminState where
  bootstrap : RuntimeConfig
  gameVersion : String
  formats : TextFormats
  /-- The game's own check of its options. -/
  parseGameConfig : Value → Except String Unit
  /-- What the JSON reader makes of the text of a double. -/
  readDouble : Rat → Rat

/-- A member of an object together with the object, with a new member where there is none. -/
def Value.entryOr (members : List (String × Value)) (key : String) (default : Value) : Value :=
  (Value.member? members key).getD default

/-- Materializes one game endpoint default without overriding choices. -/
def applyEndpointDefault (object : List (String × Value)) (sectionKey key default : String) :
    Except String (List (String × Value)) := do
  let provider ← orError (Value.entryOr object sectionKey (.object [])).asObject?
    (sectionKey ++ " configuration must be an object")
  let endpoint := Value.entryOr provider key (.string default)
  return Value.insertMember sectionKey (.object (Value.insertMember key endpoint provider)) object

def applyProviderEndpointDefaults (value : Value) (settings : GameSettings) :
    Except String Value := do
  let object ← orError value.asObject? "experiment configuration must be a JSON object"
  let object ← applyEndpointDefault object "speechmatics" "realtime_url"
    settings.speechmaticsRealtimeUrl
  let object ← applyEndpointDefault object "tts" "base_url" settings.ttsBaseUrl
  return .object object

def applyGameProviderSecrets (stored : Map String String) : ProviderCredentials where
  speechmaticsApiKey := (stored.lookup "speechmatics.api_key").getD ""
  ttsApiKey := (stored.lookup "tts.api_key").getD ""
  prolificApiToken := (stored.lookup "prolific.api_token").getD ""

def badRequest {α : Type} (result : Except String α) (start : String := "") : Except AppError α :=
  match result with
  | .ok value => .ok value
  | .error message => .error ⟨.badRequest, start ++ message⟩

namespace AdminState

variable (state : AdminState)

/-- The document a request submits: its configuration with the game options given as YAML. -/
def submittedDocument (request : AdminSaveExperimentConfigRequest) : Except AppError Value :=
  match request.gameYaml with
  | none => .ok request.config
  | some gameYaml => do
    let game ← badRequest (orError (state.formats.parseYaml gameYaml) "Invalid game YAML")
    badRequest (validateGameConfigContainsNoSecrets game)
    let members ← badRequest (orError request.config.asObject? "configuration must be an object")
    return .object (Value.insertMember "game" game members)

/-- Saves a structurally valid configuration revision; answers it with what was validated. -/
def adminSaveExperimentConfig (store : ConfigStore) (experimentId : String)
    (request : AdminSaveExperimentConfigRequest) :
    Except AppError (ConfigStore × RuntimeConfig × Int) := do
  let experiment ← orError (store.experimentDefinition experimentId)
    ⟨.notFound, "Experiment not found."⟩
  if experiment.status != "inactive" then
    throw ⟨.conflict,
      "Experiment configuration can only be edited while the experiment is inactive"⟩
  if experiment.gameVersion != state.gameVersion then
    throw ⟨.conflict, "Clone this experiment before editing it under the current game version"⟩
  request.secretUpdates.entries.forM fun entry => validateSecretUpdate entry.1 (some entry.2)
  request.secretDeletions.forM fun key => validateSecretUpdate key none
  let submitted ← state.submittedDocument request
  let document ← badRequest (applyProviderEndpointDefaults submitted store.gameSettings)
  let config ← badRequest
    (experimentConfigFromJson state.formats document state.bootstrap experimentId)
  let kept := request.secretDeletions.foldl (fun secrets key => AList.erase key secrets)
    (store.experimentSecrets experimentId)
  let secrets := request.secretUpdates.entries.foldl
    (fun secrets entry => AList.insert entry.1 entry.2 secrets) kept
  let config := { config with
    experimentId := some experimentId
    credentials := applyGameProviderSecrets store.gameSecrets
    gameSecrets := applyExperimentSecrets secrets }
  badRequest (config.validate state.formats)
  badRequest (validateGameConfigContainsNoSecrets config.stored.game)
  badRequest (state.parseGameConfig config.stored.game) "Invalid game configuration: "
  match store.saveExperimentConfiguration experimentId request.expectedRevision
    (persistableConfigJson config) request.changeSummary request.secretUpdates
    request.secretDeletions with
  | .ok (store, revision) => return (store, config, revision)
  | .error message => throw ⟨.conflict, message⟩

/-- Loads one stored revision with process bootstrap settings and effective credentials applied. -/
def hydratedExperimentConfig (store : ConfigStore) (experimentId : String) :
    Except AppError RuntimeConfig := do
  let experiment ← orError (store.experimentDefinition experimentId)
    ⟨.notFound, "Experiment not found."⟩
  let config ← badRequest
    (experimentConfigFromJson state.formats (experiment.config.readBack state.readDouble)
      state.bootstrap experimentId)
  return { config with
    gameSecrets := applyExperimentSecrets (store.experimentSecrets experimentId)
    credentials := applyGameProviderSecrets store.gameSecrets }

end AdminState

end Parlando
