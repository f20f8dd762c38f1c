import Parlando.StoredConfig

namespace Parlando

structure ServerConfig where
  publicBaseUrl : String := "http://localhost:8000"
  allowedOrigins : List String := []
  clientDistPath : Option String := none

structure ProviderCredentials where
  speechmaticsApiKey : String := ""
  ttsApiKey : String := ""
  prolificApiToken : String := ""

/-- A complete experiment configuration, as runtimes are built from it. -/
structure RuntimeConfig where
  experimentId : Option String
  server : ServerConfig
  databaseUrl : String
  stored : StoredExperimentConfig
  credentials : ProviderCredentials := {}
  gameSecrets : Map String String := ∅

/-- Fails with the message where something is found wrong. -/
def check (wrong : Bool) (message : String) : Except String Unit :=
  if wrong then .error message else .ok ()

def isIdentifierChar (c : Char) : Bool := isKeyChar c || c == '.'

def ProlificCompletionPaths.codes (paths : ProlificCompletionPaths) : List (String × String) :=
  [("completed", paths.completed), ("partner_left", paths.partnerLeft),
    ("game_did_not_start", paths.gameDidNotStart),
    ("participation_ended_early", paths.participationEndedEarly),
    ("technical_failure", paths.technicalFailure), ("no_consent", paths.noConsent)]

/-- Validates one optional Prolific completion code without treating it as a secret. -/
def validateProlificCode (name code : String) : Except String Unit :=
  check (code.toList.length > 64 || !code.toList.all Char.isAlphanum)
    ("Prolific completion code " ++ name ++ " must contain at most 64 letters or digits")

/-- Consent items need a text of bounded length that no template placeholder is left in. -/
def validateConsents : List ConsentItemConfig → List String → Except String Unit
  | [], _ => .ok ()
  | item :: items, seen => do
    check (isBlank item.id || item.id.toList.length > 128)
      "direct consent ids must contain 1 to 128 characters"
    check (seen.contains item.id) "direct consent ids must be unique"
    check (isBlank item.title || item.title.toList.length > 500)
      "direct consent titles must contain 1 to 500 characters"
    check (isBlank item.body || item.body.toList.length > 20000)
      "direct consent bodies must contain 1 to 20000 characters"
    check (Text.contains "\x7b\x7b" item.body || Text.contains "\x7d\x7d" item.body)
      "direct consent bodies must not contain unresolved template placeholders"
    validateConsents items (item.id :: seen)

section

variable (formats : TextFormats)

def validateWebsocketUrl (field value : String) : Except String Unit := do
  let uri ← orError (formats.parseUri value) (field ++ " must be a valid URL")
  check (!(uri.scheme == some "ws" || uri.scheme == some "wss") || uri.authority.isNone)
    (field ++ " must use ws or wss and include a host")

/-- Rejects malformed or non-HTTP URLs used in browser-visible configuration. -/
def validateHttpUrl (field value : String) : Except String Unit := do
  let uri ← orError (formats.parseUri value) (field ++ " must be a valid URL")
  check (!(uri.scheme == some "http" || uri.scheme == some "https") || uri.authority.isNone)
    (field ++ " must use http or https and include a host")
  check (uri.authority.any (Text.contains "@")) (field ++ " must not contain credentials")

def validateOrigins : List String → List String → Except String Unit
  | [], _ => .ok ()
  | origin :: origins, seen => do
    validateHttpUrl formats "server.allowed_origins" origin
    let uri ← orError (formats.parseUri origin) "invalid uri"
    check (uri.path != "/" || uri.query.isSome)
      "server.allowed_origins entries must not contain paths or queries"
    check (seen.contains (Text.lower origin)) "server.allowed_origins entries must be unique"
    validateOrigins origins (Text.lower origin :: seen)

def CapacityConfig.validate (capacity : CapacityConfig) : Except String Unit :=
  check (capacity.maxActiveSessions == 0 || capacity.maxWaitingSessions == 0 ||
    capacity.maxUnattachedParticipants == 0 || capacity.maxTranscriptionStreams == 0 ||
    capacity.storageReserveMegabytes == 0) "capacity limits must be positive"

def TtsConfig.validate (tts : TtsConfig) : Except String Unit :=
  if tts.enabled then do
    check (tts.provider != "elevenlabs") "tts.provider must be elevenlabs"
    check (isBlank tts.model) "tts.model is required when TTS is enabled"
    check (tts.outputFormat != "pcm_24000") "tts.output_format must be pcm_24000"
    validateWebsocketUrl formats "tts.base_url" tts.baseUrl
  else .ok ()

def TranscriptionConfig.validate (transcription : TranscriptionConfig)
    (speechmatics : SpeechmaticsConfig) : Except String Unit :=
  if transcription.enabled then do
    check (transcription.provider != "speechmatics") "transcription.provider must be speechmatics"
    check (!(transcription.model == "standard" || transcription.model == "enhanced"))
      "transcription.model must be standard or enhanced"
    check (isBlank transcription.model || isBlank transcription.language)
      "transcription.model and transcription.language must not be empty"
    validateWebsocketUrl formats "speechmatics.realtime_url" speechmatics.realtimeUrl
    check (speechmatics.maxDelay ≤ 0) "speechmatics.max_delay must be finite and positive"
    check (speechmatics.endOfUtteranceSilenceTrigger ≤ 0)
      "speechmatics.end_of_utterance_silence_trigger must be finite and positive"
  else .ok ()

def AgentsConfig.validate (agents : AgentsConfig) : Except String Unit := do
  check (agents.humanVsAgent.any fun agent => decide (agent.actTimeoutSeconds ≤ 0))
    "agents.human_vs_agent.act_timeout_seconds must be finite and positive"
  check (agents.humanVsAgent.any fun agent => agent.invalidActionLimit == 0)
    "agents.human_vs_agent.invalid_action_limit must be positive"
  check (agents.mode == .humanVsAgent && agents.humanVsAgent.isNone)
    "agents.human_vs_agent is required in human_vs_agent mode"
  check (agents.mode == .humanVsHuman && agents.humanVsAgent.isSome)
    "agents.human_vs_agent must be omitted in human_vs_human mode"

def DirectConfig.validate (direct : DirectConfig) : Except String Unit := do
  validateConsents direct.consents []
  let hasInformationVersion := !isBlank direct.participantInformationVersion
  let hasInformationUrl := !isBlank direct.participantInformationUrl
  check (hasInformationVersion != hasInformationUrl)
    "direct participant information version and URL must be configured together"
  if hasInformationUrl then
    validateHttpUrl formats "direct.participant_information_url" direct.participantInformationUrl

/-- Validates cross-field requirements that defaults alone cannot express. -/
def RuntimeConfig.validate (config : RuntimeConfig) : Except String Unit := do
  let stored := config.stored
  check (config.experimentId.any fun id => id.toList.isEmpty || id.toList.length > 128 ||
      !id.toList.all isIdentifierChar)
    "experiment.id must contain 1 to 128 letters, digits, dots, dashes, or underscores"
  check (stored.session.waitingSessionTimeoutSeconds ≤ 0)
    "session.waiting_session_timeout_seconds must be positive"
  check (stored.progress.plannedSessions.any fun value => value ≤ 0)
    "progress.planned_sessions must be positive when configured"
  check (stored.session.reconnectGraceSeconds < 0)
    "session.reconnect_grace_seconds must not be negative"
  check (stored.session.reconnectGraceSeconds > 60)
    "session.reconnect_grace_seconds must not exceed 60"
  for (name, code) in stored.recruitment.prolific.completionPaths.codes do
    validateProlificCode name code
  check (stored.session.sessionIdleTimeoutSeconds ≤ 0)
    "session.session_idle_timeout_seconds must be positive"
  check (stored.session.sessionMaxLifetimeSeconds < stored.session.sessionIdleTimeoutSeconds)
    ("session.session_max_lifetime_seconds must be at least " ++
      "session.session_idle_timeout_seconds")
  stored.capacity.validate
  validateHttpUrl formats "server.public_base_url" config.server.publicBaseUrl
  validateOrigins formats config.server.allowedOrigins []
  check (isBlank config.databaseUrl) "database.url must not be empty"
  check (isBlank stored.privacy.contractVersion) "privacy.contract_version must not be empty"
  check (stored.voice.jitterBufferMs < stored.voice.frameDurationMs ||
    stored.voice.jitterBufferMs > 5000)
    "voice.jitter_buffer_ms must be between one frame and 5000 ms"
  check (stored.voice.postCompletionSeconds == 0 || stored.voice.postCompletionSeconds > 3600)
    "voice.post_completion_seconds must be between 1 and 3600"
  stored.tts.validate formats
  check (stored.voice.enabled && (stored.voice.sampleRateHz != 24000 ||
      stored.voice.frameDurationMs != 20))
    "voice protocol version 1 requires sample_rate_hz 24000 and frame_duration_ms 20"
  stored.transcription.validate formats stored.speechmatics
  stored.agents.validate
  stored.direct.validate formats

end

def experimentPublicBaseUrl (publicOrigin experimentId : String) : String :=
  let base := Text.trimEndMatches "/" publicOrigin
  let suffix := "/e/" ++ experimentId
  if Text.endsWith suffix base then base else base ++ suffix

def StoredExperimentConfig.intoRuntime (stored : StoredExperimentConfig)
    (bootstrap : RuntimeConfig) (experimentId publicBaseUrl : String) : RuntimeConfig where
  experimentId := some experimentId
  server := { bootstrap.server with publicBaseUrl }
  databaseUrl := bootstrap.databaseUrl
  stored

/-- Reads a stored revision; what it holds need not be valid. -/
def storedExperimentConfigFromJson (value : Value) : Except String StoredExperimentConfig :=
  if value.asObject?.isNone then .error "experiment configuration must be a JSON object"
  else StoredExperimentConfig.codec.decode value

/-- Restores bootstrap-only fields before strict experiment configuration validation. -/
def experimentConfigFromJson (formats : TextFormats) (value : Value) (bootstrap : RuntimeConfig)
    (experimentId : String) : Except String RuntimeConfig := do
  let stored ← storedExperimentConfigFromJson value
  let config := stored.intoRuntime bootstrap experimentId
    (experimentPublicBaseUrl bootstrap.server.publicBaseUrl experimentId)
  config.validate formats
  return config

/-- Produces the only configuration representation allowed to enter durable storage. -/
def persistableConfigJson (config : RuntimeConfig) : Value :=
  redactSecretFields (StoredExperimentConfig.codec.encode config.stored)

end Parlando
