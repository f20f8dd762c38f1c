import Parlando.Administration
import Parlando.Proofs.Redaction

namespace Parlando

section

variable (f : Rat → Rat)

@[simp] theorem restored_sessionConfig (c : SessionConfig) :
    restored f (SessionConfig.codec.encode c) = SessionConfig.codec.encode c :=
  Codec.restored_record (r := id) (by decide)
    (by simp [SessionConfig.fields, Field.of]) c

@[simp] theorem restored_progressConfig (c : ProgressConfig) :
    restored f (ProgressConfig.codec.encode c) = ProgressConfig.codec.encode c :=
  Codec.restored_record (r := id) (by decide)
    (by simpa [ProgressConfig.fields, Field.of] using
      fun s : ProgressConfig => restored_option_plain (restored_int f) s.plannedSessions) c

@[simp] theorem restored_consentItemConfig (c : ConsentItemConfig) :
    restored f (ConsentItemConfig.codec.encode c) = ConsentItemConfig.codec.encode c :=
  Codec.restored_record (r := id) (by decide)
    (by simp [ConsentItemConfig.fields, Field.of]) c

@[simp] theorem restored_directConfig (c : DirectConfig) :
    restored f (DirectConfig.codec.encode c) = DirectConfig.codec.encode c :=
  Codec.restored_record (r := id) (by decide)
    (by simp [DirectConfig.fields, Field.of, restored_list]) c

@[simp] theorem restored_prolificCompletionPaths (c : ProlificCompletionPaths) :
    restored f (ProlificCompletionPaths.codec.encode c) = ProlificCompletionPaths.codec.encode c :=
  Codec.restored_record (r := id) (by decide)
    (by simp [ProlificCompletionPaths.fields, Field.of]) c

@[simp] theorem restored_prolificConfig (c : ProlificConfig) :
    restored f (ProlificConfig.codec.encode c) = ProlificConfig.codec.encode c :=
  Codec.restored_record (r := id) (by decide)
    (by simp [ProlificConfig.fields, Field.of]) c

@[simp] theorem restored_recruitmentConfig (c : RecruitmentConfig) :
    restored f (RecruitmentConfig.codec.encode c) = RecruitmentConfig.codec.encode c :=
  Codec.restored_record (r := id) (by decide)
    (by simp [RecruitmentConfig.fields, Field.of]) c

@[simp] theorem restored_voiceConfig (c : VoiceConfig) :
    restored f (VoiceConfig.codec.encode c) = VoiceConfig.codec.encode c :=
  Codec.restored_record (r := id) (by decide)
    (by simp [VoiceConfig.fields, Field.of]) c

@[simp] theorem restored_transcriptionConfig (c : TranscriptionConfig) :
    restored f (TranscriptionConfig.codec.encode c) = TranscriptionConfig.codec.encode c :=
  Codec.restored_record (r := id) (by decide)
    (by simp [TranscriptionConfig.fields, Field.of]) c

@[simp] theorem restored_ttsConfig (c : TtsConfig) :
    restored f (TtsConfig.codec.encode c) = TtsConfig.codec.encode c :=
  Codec.restored_record (r := id) (by decide)
    (by simp [TtsConfig.fields, Field.of]) c

@[simp] theorem restored_capacityConfig (c : CapacityConfig) :
    restored f (CapacityConfig.codec.encode c) = CapacityConfig.codec.encode c :=
  Codec.restored_record (r := id) (by decide)
    (by simp [CapacityConfig.fields, Field.of]) c

@[simp] theorem restored_privacyConfig (c : PrivacyConfig) :
    restored f (PrivacyConfig.codec.encode c) = PrivacyConfig.codec.encode c :=
  Codec.restored_record (r := id) (by decide)
    (by simp [PrivacyConfig.fields, Field.of]) c

end

section

variable (f : Rat → Rat)

def SpeechmaticsConfig.restored (c : SpeechmaticsConfig) : SpeechmaticsConfig :=
  { c with maxDelay := f c.maxDelay
           endOfUtteranceSilenceTrigger := f c.endOfUtteranceSilenceTrigger }

def HumanVsAgentConfig.restored (c : HumanVsAgentConfig) : HumanVsAgentConfig :=
  { c with actTimeoutSeconds := f c.actTimeoutSeconds, config := Parlando.restored f c.config }

def AgentsConfig.restored (c : AgentsConfig) : AgentsConfig :=
  { c with humanVsAgent := c.humanVsAgent.map (HumanVsAgentConfig.restored f) }

def StoredExperimentConfig.restored (c : StoredExperimentConfig) : StoredExperimentConfig :=
  { c with speechmatics := c.speechmatics.restored f, agents := c.agents.restored f
           game := Parlando.restored f c.game }

theorem restored_speechmaticsConfig (c : SpeechmaticsConfig) :
    restored f (SpeechmaticsConfig.codec.encode c) =
      SpeechmaticsConfig.codec.encode (c.restored f) :=
  Codec.restored_record (r := SpeechmaticsConfig.restored f) (by decide)
    (by simp [SpeechmaticsConfig.fields, Field.of, SpeechmaticsConfig.restored]) c

theorem restored_humanVsAgentConfig (c : HumanVsAgentConfig) :
    restored f (HumanVsAgentConfig.codec.encode c) =
      HumanVsAgentConfig.codec.encode (c.restored f) := by
  refine Codec.restored_record (r := HumanVsAgentConfig.restored f) (by decide) ?_ c
  simp only [HumanVsAgentConfig.fields, Field.of, HumanVsAgentConfig.restored, restored_value,
    restored_float, restored_nat, List.forall_mem_cons, List.not_mem_nil, false_implies,
    implies_true, and_true, true_and]
  exact ⟨fun s => restored_option_plain (restored_string f) s.factory,
    fun s => restored_option_plain (restored_nat f) s.seed⟩

theorem restored_agentsConfig (c : AgentsConfig) :
    restored f (AgentsConfig.codec.encode c) = AgentsConfig.codec.encode (c.restored f) := by
  refine Codec.restored_record (r := AgentsConfig.restored f) (by decide) ?_ c
  simp only [AgentsConfig.fields, Field.of, AgentsConfig.restored, restored_enumeration,
    List.forall_mem_cons, List.not_mem_nil, false_implies, implies_true, and_true, true_and]
  exact fun s => restored_option (restored_humanVsAgentConfig f) s.humanVsAgent

theorem restored_storedExperimentConfig (c : StoredExperimentConfig) :
    restored f (StoredExperimentConfig.codec.encode c) =
      StoredExperimentConfig.codec.encode (c.restored f) :=
  Codec.restored_record (r := StoredExperimentConfig.restored f) (by decide)
    (by simp [StoredExperimentConfig.fields, Field.of, restored_speechmaticsConfig,
      restored_agentsConfig, StoredExperimentConfig.restored]) c

end

/-- The free-form settings hold nothing that redaction takes away. -/
def StoredExperimentConfig.redactionKeeps (c : StoredExperimentConfig) : Bool :=
  (c.agents.humanVsAgent.all fun agent => Parlando.redactionKeeps agent.config) &&
    Parlando.redactionKeeps c.game

/-- The doubles among the settings, those of the free-form settings included. -/
def StoredExperimentConfig.doubles (c : StoredExperimentConfig) : List Rat :=
  [c.speechmatics.maxDelay, c.speechmatics.endOfUtteranceSilenceTrigger] ++
    (c.agents.humanVsAgent.map fun agent =>
      agent.actTimeoutSeconds :: agent.config.doubles).getD [] ++ c.game.doubles

theorem StoredExperimentConfig.restored_eq_self (f : Rat → Rat) (c : StoredExperimentConfig) :
    c.restored f = c ↔ c.redactionKeeps = true ∧ ∀ x ∈ c.doubles, f x = x := by
  obtain ⟨session, progress, direct, recruitment, voice, ⟨realtimeUrl, maxDelay, enablePartials,
    trigger⟩, transcription, tts, ⟨mode, humanVsAgent⟩, capacity, privacy, game⟩ := c
  cases humanVsAgent with
  | none =>
    simp only [restored, SpeechmaticsConfig.restored, AgentsConfig.restored, redactionKeeps, doubles,
      StoredExperimentConfig.mk.injEq, SpeechmaticsConfig.mk.injEq, Parlando.restored_eq_self,
      List.forall_mem_append, List.forall_mem_cons, Option.map_none, Option.getD_none,
      Option.all_none, List.not_mem_nil, Bool.true_and]
    tauto
  | some agent =>
    obtain ⟨factory, actTimeoutSeconds, invalidActionLimit, seed, config⟩ := agent
    simp only [restored, SpeechmaticsConfig.restored, AgentsConfig.restored,
      HumanVsAgentConfig.restored, redactionKeeps, doubles, StoredExperimentConfig.mk.injEq,
      SpeechmaticsConfig.mk.injEq, AgentsConfig.mk.injEq, Option.map_some, Option.some.injEq,
      HumanVsAgentConfig.mk.injEq, Parlando.restored_eq_self, List.forall_mem_append,
      List.forall_mem_cons, Option.getD_some, Option.all_some, List.not_mem_nil, Bool.and_eq_true]
    tauto

/-- The settings a request submits, as they are read. -/
def AdminState.submittedConfig (state : AdminState) (settings : GameSettings)
    (request : AdminSaveExperimentConfigRequest) : Except AppError StoredExperimentConfig := do
  let submitted ← state.submittedDocument request
  let document ← badRequest (applyProviderEndpointDefaults submitted settings)
  badRequest (storedExperimentConfigFromJson document)

theorem badRequest_ok {α : Type} {result : Except String α} {start : String} {value : α}
    (h : badRequest result start = .ok value) : result = .ok value := by
  cases result with
  | ok value' => cases h; rfl
  | error message => cases h

section

variable {state : AdminState} {store store' : ConfigStore} {experimentId : String}
  {request : AdminSaveExperimentConfigRequest} {config : RuntimeConfig} {revision : Int}

def AdminState.runtimeOf (state : AdminState) (experimentId : String)
    (stored : StoredExperimentConfig) : RuntimeConfig :=
  stored.intoRuntime state.bootstrap experimentId
    (experimentPublicBaseUrl state.bootstrap.server.publicBaseUrl experimentId)

def AdminSaveExperimentConfigRequest.secretsAfter (request : AdminSaveExperimentConfigRequest)
    (stored : Map String String) : Map String String :=
  request.secretUpdates.entries.foldl (fun secrets entry => AList.insert entry.1 entry.2 secrets)
    (request.secretDeletions.foldl (fun secrets key => AList.erase key secrets) stored)

theorem AdminState.adminSaveExperimentConfig_ok
    (saved : state.adminSaveExperimentConfig store experimentId request =
      .ok (store', config, revision)) :
    ∃ stored, state.submittedConfig store.gameSettings request = .ok stored ∧
      (state.runtimeOf experimentId stored).validate state.formats = .ok () ∧
      (∀ entry ∈ request.secretUpdates.entries,
        validateSecretUpdate entry.1 (some entry.2) = .ok ()) ∧
      config = { state.runtimeOf experimentId stored with
        credentials := applyGameProviderSecrets store.gameSecrets
        gameSecrets := applyExperimentSecrets
          (request.secretsAfter (store.experimentSecrets experimentId)) } ∧
      store.saveExperimentConfiguration experimentId request.expectedRevision
        (persistableConfigJson config) request.changeSummary request.secretUpdates
        request.secretDeletions = .ok (store', revision) := by
  unfold AdminState.adminSaveExperimentConfig at saved
  obtain ⟨experiment, -, saved⟩ := Except.of_bind_ok saved
  obtain ⟨-, saved⟩ := Except.of_check_ok saved
  obtain ⟨-, saved⟩ := Except.of_check_ok saved
  obtain ⟨⟨⟩, updates, saved⟩ := Except.of_bind_ok saved
  obtain ⟨⟨⟩, -, saved⟩ := Except.of_bind_ok saved
  obtain ⟨submitted, submits, saved⟩ := Except.of_bind_ok saved
  obtain ⟨document, defaults, saved⟩ := Except.of_bind_ok saved
  obtain ⟨runtime, built, saved⟩ := Except.of_bind_ok saved
  obtain ⟨stored, read, built⟩ := Except.of_bind_ok (badRequest_ok built)
  obtain ⟨⟨⟩, valid, built⟩ := Except.of_bind_ok built
  cases built
  obtain ⟨⟨⟩, -, saved⟩ := Except.of_bind_ok saved
  obtain ⟨⟨⟩, -, saved⟩ := Except.of_bind_ok saved
  obtain ⟨⟨⟩, -, saved⟩ := Except.of_bind_ok saved
  split at saved
  · rename_i committed
    cases saved
    refine ⟨stored, ?_, valid, Except.of_forM_ok updates, rfl, committed⟩
    rw [submittedConfig, submits]
    change (badRequest _ >>= fun document => badRequest _) = _
    rw [defaults]
    change badRequest (storedExperimentConfigFromJson document) = _
    rw [read]
    rfl
  · cases saved

/-- The secrets of one experiment are those stored under its identifier. -/
theorem ConfigStore.lookup_experimentSecrets (store : ConfigStore) (experimentId key : String) :
    (store.experimentSecrets experimentId).lookup key =
      store.secrets.lookup (experimentId, key) := by
  refine Map.lookup_filterMapKeys (fun other => ?_) store.secrets
  obtain ⟨otherId, otherKey⟩ := other
  simp only [Option.ite_none_right_eq_some, Option.some.injEq, Prod.mk.injEq]

theorem pair_injective (experimentId : String) :
    Function.Injective fun key : String => (experimentId, key) :=
  fun _ _ same => (Prod.mk.inj same).2

theorem ConfigStore.saveExperimentConfiguration_ok {expectedRevision : Int} {document : Value}
    {changeSummary : Option String} {secretUpdates : Map String String}
    {secretDeletions : List String}
    (saved : store.saveExperimentConfiguration experimentId expectedRevision document changeSummary
      secretUpdates secretDeletions = .ok (store', revision)) :
    (∃ experiment, store'.experimentDefinition experimentId = some experiment ∧
      experiment.config = document) ∧
    store'.gameSecrets = store.gameSecrets ∧
    ∀ key, (store'.experimentSecrets experimentId).lookup key =
      if key ∈ secretDeletions then none
      else (secretUpdates.lookup key).or ((store.experimentSecrets experimentId).lookup key) := by
  unfold ConfigStore.saveExperimentConfiguration at saved
  split at saved
  · cases saved
  · rename_i experiment found
    simp only at saved
    split at saved
    · cases saved
    · split at saved
      · cases saved
      · cases saved
        refine ⟨⟨{ experiment with config := document, configRevision := expectedRevision + 1 },
          ?_, rfl⟩, rfl, fun key => ?_⟩
        · rw [ConfigStore.experimentDefinition] at found ⊢
          exact Table.find?_update found (fun _ => rfl)
        · rw [ConfigStore.lookup_experimentSecrets, ConfigStore.lookup_experimentSecrets]
          change AList.lookup (experimentId, key) (secretDeletions.foldl _
            (secretUpdates.entries.foldl _ store.secrets)) = _
          rw [Map.lookup_foldl_erase (pair_injective experimentId),
            Map.lookup_foldl_insert (pair_injective experimentId) secretUpdates.nodupKeys]
          rfl

theorem AdminSaveExperimentConfigRequest.lookup_secretsAfter
    (request : AdminSaveExperimentConfigRequest) (stored : Map String String) (key : String) :
    (request.secretsAfter stored).lookup key = (request.secretUpdates.lookup key).or
      (if key ∈ request.secretDeletions then none else stored.lookup key) := by
  have updated := Map.lookup_foldl_insert Function.injective_id request.secretUpdates.nodupKeys
    (request.secretDeletions.foldl (fun secrets key => AList.erase key secrets) stored) key
  have deleted := Map.lookup_foldl_erase Function.injective_id request.secretDeletions stored key
  exact updated.trans (congrArg (Option.or _) deleted)

theorem exists_name_of_validateSecretUpdate {key : String} {value : Option String}
    (valid : validateSecretUpdate key value = .ok ()) : ∃ name, key = "game." ++ name := by
  cases stripped : Text.stripPrefix "game." key with
  | some name => exact ⟨name, Text.stripPrefix_eq_some.mp stripped⟩
  | none => simp [validateSecretUpdate, stripped] at valid

/-- Both orders of updates and deletions leave the same secrets if no key is in both. -/
theorem secrets_agree_iff {updates : Map String String} {deletions : List String}
    {stored : Map String String} {inMemory inStore : Map String String}
    (valid : ∀ entry ∈ updates.entries, validateSecretUpdate entry.1 (some entry.2) = .ok ())
    (validated : ∀ key, inMemory.lookup key = (updates.lookup key).or
      (if key ∈ deletions then none else stored.lookup key))
    (written : ∀ key, inStore.lookup key =
      if key ∈ deletions then none else (updates.lookup key).or (stored.lookup key)) :
    (∀ name, (applyExperimentSecrets inStore).lookup name =
      (applyExperimentSecrets inMemory).lookup name) ↔
      ∀ key ∈ deletions, updates.lookup key = none := by
  constructor
  · intro agree key mem
    cases updated : updates.lookup key with
    | none => rfl
    | some secret =>
      obtain ⟨name, rfl⟩ :=
        exists_name_of_validateSecretUpdate (valid ⟨key, secret⟩ (AList.mem_lookup_iff.mp updated))
      have same := agree name
      rw [lookup_applyExperimentSecrets, lookup_applyExperimentSecrets, validated, written,
        if_pos mem, updated] at same
      cases same
  · intro apart name
    rw [lookup_applyExperimentSecrets, lookup_applyExperimentSecrets, validated, written]
    split
    · rename_i mem
      rw [apart _ mem]
      rfl
    · rfl

structure RuntimeConfig.Same (loaded config : RuntimeConfig) : Prop where
  settings : { loaded with gameSecrets := ∅ } = { config with gameSecrets := ∅ }
  gameSecrets : ∀ name, loaded.gameSecrets.lookup name = config.gameSecrets.lookup name

/-- Runtimes are built from exactly this configuration. -/
def TakesEffect (state : AdminState) (store : ConfigStore) (experimentId : String)
    (config : RuntimeConfig) : Prop :=
  ∃ loaded, state.hydratedExperimentConfig store experimentId = .ok loaded ∧ loaded.Same config

theorem storedExperimentConfigFromJson_encode (stored : StoredExperimentConfig) :
    storedExperimentConfigFromJson (StoredExperimentConfig.codec.encode stored) = .ok stored :=
  (if_neg Bool.false_ne_true).trans (StoredExperimentConfig.codec.decode_encode stored)

/-- Loading a document of stored settings succeeds where the settings are valid. -/
theorem AdminState.hydratedExperimentConfig_eq {experiment : ExperimentRow}
    {stored : StoredExperimentConfig}
    (found : store.experimentDefinition experimentId = some experiment)
    (document : experiment.config.readBack state.readDouble =
      StoredExperimentConfig.codec.encode stored) :
    state.hydratedExperimentConfig store experimentId =
      (badRequest ((state.runtimeOf experimentId stored).validate state.formats)).map fun _ =>
        { state.runtimeOf experimentId stored with
          gameSecrets := applyExperimentSecrets (store.experimentSecrets experimentId)
          credentials := applyGameProviderSecrets store.gameSecrets } := by
  rw [hydratedExperimentConfig, found]
  change (badRequest (experimentConfigFromJson _ (experiment.config.readBack _) _ _) >>= _) = _
  rw [document, experimentConfigFromJson, storedExperimentConfigFromJson_encode]
  change (badRequest ((state.runtimeOf experimentId stored).validate state.formats >>= _) >>= _) = _
  cases (state.runtimeOf experimentId stored).validate state.formats <;> rfl

/-- The secrets agree without overlap, and the settings do where the stored ones are all kept. -/
theorem AdminState.takesEffect_iff
    (saved : state.adminSaveExperimentConfig store experimentId request =
      .ok (store', config, revision)) :
    ∃ stored, state.submittedConfig store.gameSettings request = .ok stored ∧
      (TakesEffect state store' experimentId config ↔
        (∀ key ∈ request.secretDeletions, request.secretUpdates.lookup key = none) ∧
        stored.restored state.readDouble = stored) := by
  obtain ⟨stored, submitted, valid, updates, rfl, committed⟩ :=
    AdminState.adminSaveExperimentConfig_ok saved
  obtain ⟨⟨experiment, found, redacted⟩, credentials, secrets⟩ :=
    ConfigStore.saveExperimentConfiguration_ok committed
  have document : experiment.config.readBack state.readDouble =
      StoredExperimentConfig.codec.encode (stored.restored state.readDouble) := by
    rw [redacted]
    exact restored_storedExperimentConfig state.readDouble stored
  have agree := secrets_agree_iff updates (request.lookup_secretsAfter _) secrets
  refine ⟨stored, submitted, ?_⟩
  rw [← agree, TakesEffect, AdminState.hydratedExperimentConfig_eq found document, credentials]
  constructor
  · rintro ⟨loaded, hydrated, same⟩
    cases checked : (state.runtimeOf experimentId (stored.restored state.readDouble)).validate
        state.formats with
    | error message =>
      rw [checked] at hydrated
      cases hydrated
    | ok _ =>
      rw [checked] at hydrated
      cases hydrated
      exact ⟨same.gameSecrets, congrArg RuntimeConfig.stored same.settings⟩
  · rintro ⟨sameSecrets, unchanged⟩
    rw [unchanged, valid]
    exact ⟨_, rfl, rfl, sameSecrets⟩

end

/-- A process on its default address whose game takes any options. -/
def localState : AdminState where
  bootstrap := { experimentId := none, server := {}, databaseUrl := "sqlite:parlando.db", stored := {} }
  gameVersion := "1.0.0"
  formats := {
    parseUri := fun text =>
      if text == "http://localhost:8000/e/exp" then
        some ⟨some "http", some "localhost:8000", some "localhost", "/e/exp", none⟩
      else none
    parseYaml := fun _ => none }
  parseGameConfig := fun _ => .ok ()
  readDouble := id

def inactiveExperiment : ConfigStore where
  experiments := [⟨"exp", "1.0.0", .object [], 1, "inactive"⟩]
  gameSettings := ⟨"wss://eu.rt.speechmatics.com/v2", "wss://api.elevenlabs.io"⟩

/-- A request that sets one secret and deletes the given ones. -/
def withSecret (secretDeletions : List String) : AdminSaveExperimentConfigRequest where
  expectedRevision := 1
  config := .object []
  secretUpdates := AList.insert "game.token" "swordfish" ∅
  secretDeletions

end Parlando
