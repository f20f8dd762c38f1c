import Parlando.AgentConfig
import Parlando.Config
import Parlando.Data.Codec

namespace Parlando

structure ProgressConfig where
  plannedSessions : Option Int := none

structure ConsentItemConfig where
  id : String := ""
  title : String := ""
  body : String := ""
  required : Bool := false

structure DirectConfig where
  enabled : Bool := true
  participantInformationVersion : String := ""
  participantInformationUrl : String := ""
  consents : List ConsentItemConfig := []

structure ProlificConfig where
  enabled : Bool := false
  studyId : String := ""
  completionPaths : ProlificCompletionPaths := {}

structure RecruitmentConfig where
  prolific : ProlificConfig := {}

structure SpeechmaticsConfig where
  realtimeUrl : String := "wss://eu.rt.speechmatics.com/v2"
  maxDelay : Rat := 2
  enablePartials : Bool := true
  endOfUtteranceSilenceTrigger : Rat := 6 / 5

structure TtsConfig where
  enabled : Bool := false
  provider : String := "elevenlabs"
  model : String := "eleven_flash_v2_5"
  voiceId : String := ""
  voiceName : String := ""
  baseUrl : String := "wss://api.elevenlabs.io"
  outputFormat : String := "pcm_24000"

structure HumanVsAgentConfig where
  factory : Option String := none
  actTimeoutSeconds : Rat := 10
  invalidActionLimit : Nat := 3
  seed : Option Nat := none
  config : Value := .object []

structure AgentsConfig where
  mode : AgentsMode := .humanVsHuman
  humanVsAgent : Option HumanVsAgentConfig := none

structure PrivacyConfig where
  contractVersion : String := "2"

/-- Revisioned experiment settings, excluding process resources, identity, and credentials. -/
structure StoredExperimentConfig where
  session : SessionConfig := {}
  progress : ProgressConfig := {}
  direct : DirectConfig := {}
  recruitment : RecruitmentConfig := {}
  voice : VoiceConfig := {}
  speechmatics : SpeechmaticsConfig := {}
  transcription : TranscriptionConfig := {}
  tts : TtsConfig := {}
  agents : AgentsConfig := {}
  capacity : CapacityConfig := {}
  privacy : PrivacyConfig := {}
  game : Value := .object []

def AgentsMode.asStr : AgentsMode → String
  | humanVsHuman => "human_vs_human"
  | humanVsAgent => "human_vs_agent"

def AgentsMode.parse? : String → Option AgentsMode
  | "human_vs_human" => some humanVsHuman
  | "human_vs_agent" => some humanVsAgent
  | _ => none

namespace SessionConfig

def fields : List (Field SessionConfig) :=
  [.of .int "waiting_session_timeout_seconds" waitingSessionTimeoutSeconds
      fun x c => { c with waitingSessionTimeoutSeconds := x },
    .of .int "reconnect_grace_seconds" reconnectGraceSeconds
      fun x c => { c with reconnectGraceSeconds := x },
    .of .int "session_idle_timeout_seconds" sessionIdleTimeoutSeconds
      fun x c => { c with sessionIdleTimeoutSeconds := x },
    .of .int "session_max_lifetime_seconds" sessionMaxLifetimeSeconds
      fun x c => { c with sessionMaxLifetimeSeconds := x }]

def codec : Codec SessionConfig := .record fields {} (by decide) fun _ _ => rfl

end SessionConfig

namespace ProgressConfig

def fields : List (Field ProgressConfig) :=
  [.of (.option .int fun _ => rfl) "planned_sessions" plannedSessions
    fun x c => { c with plannedSessions := x }]

def codec : Codec ProgressConfig := .record fields {} (by decide) fun _ _ => rfl

end ProgressConfig

namespace ConsentItemConfig

def fields : List (Field ConsentItemConfig) :=
  [.of .string "id" id fun x c => { c with id := x },
    .of .string "title" title fun x c => { c with title := x },
    .of .string "body" body fun x c => { c with body := x },
    .of .bool "required" required fun x c => { c with required := x }]

def codec : Codec ConsentItemConfig := .record fields {} (by decide) fun _ _ => rfl

end ConsentItemConfig

namespace DirectConfig

def fields : List (Field DirectConfig) :=
  [.of .bool "enabled" enabled fun x c => { c with enabled := x },
    .of .string "participant_information_version" participantInformationVersion
      fun x c => { c with participantInformationVersion := x },
    .of .string "participant_information_url" participantInformationUrl
      fun x c => { c with participantInformationUrl := x },
    .of ConsentItemConfig.codec.list "consents" consents fun x c => { c with consents := x }]

def codec : Codec DirectConfig := .record fields {} (by decide) fun _ _ => rfl

end DirectConfig

namespace ProlificCompletionPaths

def fields : List (Field ProlificCompletionPaths) :=
  [.of .string "completed" completed fun x c => { c with completed := x },
    .of .string "partner_left" partnerLeft fun x c => { c with partnerLeft := x },
    .of .string "game_did_not_start" gameDidNotStart fun x c => { c with gameDidNotStart := x },
    .of .string "participation_ended_early" participationEndedEarly
      fun x c => { c with participationEndedEarly := x },
    .of .string "technical_failure" technicalFailure fun x c => { c with technicalFailure := x },
    .of .string "no_consent" noConsent fun x c => { c with noConsent := x }]

def codec : Codec ProlificCompletionPaths := .record fields {} (by decide) fun _ _ => rfl

end ProlificCompletionPaths

namespace ProlificConfig

def fields : List (Field ProlificConfig) :=
  [.of .bool "enabled" enabled fun x c => { c with enabled := x },
    .of .string "study_id" studyId fun x c => { c with studyId := x },
    .of ProlificCompletionPaths.codec "completion_paths" completionPaths
      fun x c => { c with completionPaths := x }]

def codec : Codec ProlificConfig := .record fields {} (by decide) fun _ _ => rfl

end ProlificConfig

namespace RecruitmentConfig

def fields : List (Field RecruitmentConfig) :=
  [.of ProlificConfig.codec "prolific" prolific fun x c => { c with prolific := x }]

def codec : Codec RecruitmentConfig := .record fields {} (by decide) fun _ _ => rfl

end RecruitmentConfig

namespace VoiceConfig

def fields : List (Field VoiceConfig) :=
  [.of .bool "enabled" enabled fun x c => { c with enabled := x },
    .of .nat "sample_rate_hz" sampleRateHz fun x c => { c with sampleRateHz := x },
    .of .nat "frame_duration_ms" frameDurationMs fun x c => { c with frameDurationMs := x },
    .of .nat "jitter_buffer_ms" jitterBufferMs fun x c => { c with jitterBufferMs := x },
    .of .nat "post_completion_seconds" postCompletionSeconds
      fun x c => { c with postCompletionSeconds := x }]

def codec : Codec VoiceConfig := .record fields {} (by decide) fun _ _ => rfl

end VoiceConfig

namespace SpeechmaticsConfig

def fields : List (Field SpeechmaticsConfig) :=
  [.of .string "realtime_url" realtimeUrl fun x c => { c with realtimeUrl := x },
    .of .float "max_delay" maxDelay fun x c => { c with maxDelay := x },
    .of .bool "enable_partials" enablePartials fun x c => { c with enablePartials := x },
    .of .float "end_of_utterance_silence_trigger" endOfUtteranceSilenceTrigger
      fun x c => { c with endOfUtteranceSilenceTrigger := x }]

def codec : Codec SpeechmaticsConfig := .record fields {} (by decide) fun _ _ => rfl

end SpeechmaticsConfig

namespace TranscriptionConfig

def fields : List (Field TranscriptionConfig) :=
  [.of .bool "enabled" enabled fun x c => { c with enabled := x },
    .of .string "provider" provider fun x c => { c with provider := x },
    .of .string "model" model fun x c => { c with model := x },
    .of .string "language" language fun x c => { c with language := x }]

def codec : Codec TranscriptionConfig := .record fields {} (by decide) fun _ _ => rfl

end TranscriptionConfig

namespace TtsConfig

def fields : List (Field TtsConfig) :=
  [.of .bool "enabled" enabled fun x c => { c with enabled := x },
    .of .string "provider" provider fun x c => { c with provider := x },
    .of .string "model" model fun x c => { c with model := x },
    .of .string "voice_id" voiceId fun x c => { c with voiceId := x },
    .of .string "voice_name" voiceName fun x c => { c with voiceName := x },
    .of .string "base_url" baseUrl fun x c => { c with baseUrl := x },
    .of .string "output_format" outputFormat fun x c => { c with outputFormat := x }]

def codec : Codec TtsConfig := .record fields {} (by decide) fun _ _ => rfl

end TtsConfig

namespace HumanVsAgentConfig

def fields : List (Field HumanVsAgentConfig) :=
  [.of (.option .string fun _ => rfl) "factory" factory fun x c => { c with factory := x },
    .of .float "act_timeout_seconds" actTimeoutSeconds
      fun x c => { c with actTimeoutSeconds := x },
    .of .nat "invalid_action_limit" invalidActionLimit
      fun x c => { c with invalidActionLimit := x },
    .of (.option .nat fun _ => rfl) "seed" seed fun x c => { c with seed := x },
    .of .value "config" config fun x c => { c with config := x }]

def codec : Codec HumanVsAgentConfig := .record fields {} (by decide) fun _ _ => rfl

end HumanVsAgentConfig

namespace AgentsConfig

def fields : List (Field AgentsConfig) :=
  [.of (.enumeration AgentsMode.asStr AgentsMode.parse? fun mode => by cases mode <;> rfl) "mode"
      mode fun x c => { c with mode := x },
    .of (HumanVsAgentConfig.codec.option fun _ => rfl) "human_vs_agent" humanVsAgent
      fun x c => { c with humanVsAgent := x }]

def codec : Codec AgentsConfig := .record fields {} (by decide) fun _ _ => rfl

end AgentsConfig

namespace CapacityConfig

def fields : List (Field CapacityConfig) :=
  [.of .nat "max_active_sessions" maxActiveSessions fun x c => { c with maxActiveSessions := x },
    .of .nat "max_waiting_sessions" maxWaitingSessions
      fun x c => { c with maxWaitingSessions := x },
    .of .nat "max_unattached_participants" maxUnattachedParticipants
      fun x c => { c with maxUnattachedParticipants := x },
    .of .nat "max_transcription_streams" maxTranscriptionStreams
      fun x c => { c with maxTranscriptionStreams := x },
    .of .nat "storage_reserve_megabytes" storageReserveMegabytes
      fun x c => { c with storageReserveMegabytes := x }]

def codec : Codec CapacityConfig := .record fields {} (by decide) fun _ _ => rfl

end CapacityConfig

namespace PrivacyConfig

def fields : List (Field PrivacyConfig) :=
  [.of .string "contract_version" contractVersion fun x c => { c with contractVersion := x }]

def codec : Codec PrivacyConfig := .record fields {} (by decide) fun _ _ => rfl

end PrivacyConfig

namespace StoredExperimentConfig

def fields : List (Field StoredExperimentConfig) :=
  [.of SessionConfig.codec "session" session fun x c => { c with session := x },
    .of ProgressConfig.codec "progress" progress fun x c => { c with progress := x },
    .of DirectConfig.codec "direct" direct fun x c => { c with direct := x },
    .of RecruitmentConfig.codec "recruitment" recruitment fun x c => { c with recruitment := x },
    .of VoiceConfig.codec "voice" voice fun x c => { c with voice := x },
    .of SpeechmaticsConfig.codec "speechmatics" speechmatics
      fun x c => { c with speechmatics := x },
    .of TranscriptionConfig.codec "transcription" transcription
      fun x c => { c with transcription := x },
    .of TtsConfig.codec "tts" tts fun x c => { c with tts := x },
    .of AgentsConfig.codec "agents" agents fun x c => { c with agents := x },
    .of CapacityConfig.codec "capacity" capacity fun x c => { c with capacity := x },
    .of PrivacyConfig.codec "privacy" privacy fun x c => { c with privacy := x },
    .of .value "game" game fun x c => { c with game := x }]

def codec : Codec StoredExperimentConfig :=
  .record fields {} (by decide) fun s t => by simp only [fields, List.foldl, Field.of]

end StoredExperimentConfig

end Parlando
