import Parlando.Protocol

namespace Parlando

/-- Runtime-owned lifecycle limits for one game session. -/
structure SessionConfig where
  waitingSessionTimeoutSeconds : Int := 10 * 60
  reconnectGraceSeconds : Int := 15
  sessionIdleTimeoutSeconds : Int := 30 * 60
  sessionMaxLifetimeSeconds : Int := 4 * 60 * 60

/-- Installation capacity reserved coherently when a research session is admitted. -/
structure CapacityConfig where
  maxActiveSessions : Nat := 30
  maxWaitingSessions : Nat := 60
  maxUnattachedParticipants : Nat := 120
  maxTranscriptionStreams : Nat := 32
  storageReserveMegabytes : Nat := 256

/-- Researcher-owned completion codes; an empty code means no handoff. -/
structure ProlificCompletionPaths where
  completed : String := ""
  partnerLeft : String := ""
  gameDidNotStart : String := ""
  participationEndedEarly : String := ""
  technicalFailure : String := ""
  noConsent : String := ""

structure VoiceConfig where
  enabled : Bool := false
  sampleRateHz : Nat := 24000
  frameDurationMs : Nat := 20
  jitterBufferMs : Nat := 100
  postCompletionSeconds : Nat := 60

structure TranscriptionConfig where
  enabled : Bool := false
  provider : String := "speechmatics"
  model : String := "enhanced"
  language : String := "en-US"

inductive AgentsMode where
  | humanVsHuman
  | humanVsAgent
  deriving DecidableEq, Repr

/-- The part of an experiment's configuration that the session runtime reads. -/
structure ExperimentConfig where
  session : SessionConfig := {}
  capacity : CapacityConfig := {}
  completionPaths : ProlificCompletionPaths := {}
  voice : VoiceConfig := {}
  transcription : TranscriptionConfig := {}
  agentsMode : AgentsMode := .humanVsHuman

namespace ExperimentConfig

/-- Returns whether session start must wait for Speechmatics setup to finish. -/
def speechmaticsReadinessRequired (config : ExperimentConfig) : Bool :=
  config.transcription.enabled && config.transcription.provider == "speechmatics"

def graceSeconds (config : ExperimentConfig) : Int :=
  max config.session.reconnectGraceSeconds 0

end ExperimentConfig

def prolificCompletionUrl (code : String) : String :=
  "https://app.prolific.com/submissions/complete?cc=" ++ code

def prolificCode (paths : ProlificCompletionPaths) (gameStarted : Bool) :
    ParticipantOutcomeKind → String
  | .completed => paths.completed
  | .partnerLeft => paths.partnerLeft
  | .leftWaitingRoom | .partnerUnavailable => paths.gameDidNotStart
  | .connectionLost => if gameStarted then paths.participationEndedEarly else paths.gameDidNotStart
  | .leftGame | .idleLimitReached => paths.participationEndedEarly
  | .technicalFailure | .lifetimeLimitReached => paths.technicalFailure

/-- Selects a configured Prolific code only where the researcher supplied one. -/
def prolificHandoff (config : ExperimentConfig) (outcome : ParticipantOutcomeKind)
    (gameStarted : Bool) : Option RecruitmentHandoff :=
  let code := prolificCode config.completionPaths gameStarted outcome
  if code.isEmpty then none
  else some ⟨"prolific", code, prolificCompletionUrl code⟩

end Parlando
