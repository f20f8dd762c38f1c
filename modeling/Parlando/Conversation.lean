import Parlando.SessionSystem

namespace Parlando

open Concurrency

variable {G : Game}

/-- The texts of one session's ids and of instants, as messages and keys contain them. -/
structure SessionTexts where
  publicSessionId : String
  participant : ParticipantSessionId → String
  instant : Timestamp → String

inductive ConversationOrigin where
  | typed
  | voiceTranscript
  | agent
  deriving DecidableEq, Repr

def ConversationOrigin.asStr : ConversationOrigin → String
  | typed => "typed"
  | voiceTranscript => "voice_transcript"
  | agent => "agent"

/-- The arguments of one `commit_conversation_message` call. -/
structure MessageCall where
  sender : ParticipantSessionId
  origin : ConversationOrigin
  text : String
  sourceMessageId : Option String
  metadata : Value

namespace MessageCall

/-- The message as its event stores it, without the wall time of the live protocol. -/
def payload (texts : SessionTexts) (call : MessageCall) (id : String) (role : PlayerRole) : Value :=
  .object [
    ("id", .string id),
    ("metadata", call.metadata),
    ("origin", .string call.origin.asStr),
    ("public_session_id", .string texts.publicSessionId),
    ("sender_participant_session_id", .string (texts.participant call.sender)),
    ("sender_role", .string role.asStr),
    ("source_message_id", .ofOption (call.sourceMessageId.map .string)),
    ("text", .string call.text)]

/-- The bounds on a message; `jsonBytes` is the length of a value's serialization. -/
def checkSize (jsonBytes : Value → Nat) (call : MessageCall) : Except AppError Unit :=
  if call.text.length > 4000 then .error ⟨.badRequest, "Conversation message is too long"⟩
  else if jsonBytes call.metadata > 8 * 1024 then
    .error ⟨.badRequest, "Conversation metadata is too large"⟩
  else .ok ()

end MessageCall

/-- Rejects meaningful participant input unless the projected lifecycle is exactly active. -/
def ensureParticipantInteractionActive (session : Option (LiveSession G)) : Except AppError Unit :=
  match session with
  | none => .error ⟨.notFound, "Session not found."⟩
  | some session =>
    if session.lifecycle.isRunning && session.pause.isNone then .ok ()
    else .error ⟨.forbidden, "Participant is not active and cannot send meaningful game input."⟩

def participantRole (session : Option (LiveSession G)) (id : ParticipantSessionId) :
    Except AppError PlayerRole :=
  match session with
  | none => .error ⟨.notFound, "Session not found."⟩
  | some session =>
    match session.participants.lookup id with
    | none => .error ⟨.forbidden, "Participant is not in this session."⟩
    | some participant => .ok participant.role

/-- Where a `commit_conversation_message` call stands. -/
inductive MessagePc where
  | require
  | active
  | role
  | record (payload : Value)
  | append (record : SessionEventRecord)
  | touch
  | touchStore (activityAt : Timestamp)
  | returned (result : Except AppError Unit)

structure TalkInput extends Input where
  /-- What `new_id` answers. -/
  newId : String := ""

namespace MessagePc

/-- One atomic step of `commit_conversation_message`. -/
def step (config : ExperimentConfig) (texts : SessionTexts) (jsonBytes : Value → Nat)
    (call : MessageCall) (cell : Cell G) (input : TalkInput) :
    MessagePc → Option (Section G × MessagePc)
  | require =>
    some (.skip, if cell.session.isSome then active
      else returned (.error ⟨.notFound, "Session not found."⟩))
  | active =>
    match ensureParticipantInteractionActive cell.session with
    | .error error => some (.skip, returned (.error error))
    | .ok () =>
      match call.checkSize jsonBytes with
      | .error error => some (.skip, returned (.error error))
      | .ok () => some (.skip, role)
  | role =>
    match participantRole cell.session call.sender with
    | .error error => some (.skip, returned (.error error))
    | .ok member => some (.skip, record (call.payload texts input.newId member))
  | record payload =>
    match sessionEventRecord cell.session (some call.sender) "conversation_message" payload none with
    | .error _ => some (.skip, returned (.error internalError))
    | .ok event => some (.skip, append event)
  | append event =>
    -- The append looks at no lifecycle, neither in memory nor in the row.
    if input.storeOk then some (.transaction (.append event input.now), touch)
    else some (.skip, returned (.error internalError))
  | touch =>
    some (.memory (.touch input.now (idleDeadline config input.now)),
      if cell.session.isSome then touchStore input.now else returned (.ok ()))
  | touchStore activityAt =>
    some (if input.storeOk then .transaction (.touch activityAt (idleDeadline config activityAt))
      else .skip, returned (.ok ()))
  | returned _ => none

end MessagePc

structure TranscriptToken where
  kind : String
  text : String
  startTimeMs : Int
  endTimeMs : Int
  confidence : Option Rat

/-- One provider-independent final spoken utterance. -/
structure FinalTranscriptUtterance where
  startTimeMs : Int
  endTimeMs : Int
  text : String
  resultIds : List String
  tokens : List TranscriptToken

structure TranscriptSegment where
  id : String
  player : PlayerRole
  startGameTimeMs : Int
  endGameTimeMs : Int
  text : String
  metadata : Value

/-- The arguments of one `commit_final_transcript` call. -/
structure TranscriptCall where
  participantSessionId : ParticipantSessionId
  streamStartedAt : Timestamp
  utterance : FinalTranscriptUtterance

def checkedAdd (a b : Int) : Option Int :=
  if -9223372036854775808 ≤ a + b ∧ a + b < 9223372036854775808 then some (a + b) else none

namespace TranscriptToken

def json (streamStart : Int) (token : TranscriptToken) : Except AppError Value :=
  match checkedAdd streamStart token.startTimeMs, checkedAdd streamStart token.endTimeMs with
  | none, _ => .error ⟨.internalServerError, "Token start time overflowed"⟩
  | _, none => .error ⟨.internalServerError, "Token end time overflowed"⟩
  | some startMs, some endMs =>
    .ok (.object ((token.confidence.map fun confidence => ("confidence", Value.float confidence)).toList
      ++ [("end_ms", .int endMs), ("kind", .string token.kind), ("start_ms", .int startMs),
        ("text", .string token.text)]))

end TranscriptToken

namespace TranscriptCall

def providerIdentity (call : TranscriptCall) : String :=
  if call.utterance.resultIds.isEmpty then
    toString call.utterance.startTimeMs ++ ":" ++ toString call.utterance.endTimeMs ++ ":" ++
      call.utterance.text
  else ",".intercalate call.utterance.resultIds

def idempotencyKey (texts : SessionTexts) (call : TranscriptCall) : String :=
  texts.publicSessionId ++ ":" ++ texts.participant call.participantSessionId ++ ":" ++
    texts.instant call.streamStartedAt ++ ":" ++ call.providerIdentity

def onGameClock (call : TranscriptCall) (streamStart : Int) :
    Except AppError (Int × Int × List Value) :=
  match checkedAdd streamStart call.utterance.startTimeMs,
      checkedAdd streamStart call.utterance.endTimeMs with
  | none, _ => .error ⟨.internalServerError, "Transcript start time overflowed"⟩
  | _, none => .error ⟨.internalServerError, "Transcript end time overflowed"⟩
  | some start, some stop =>
    (call.utterance.tokens.mapM (TranscriptToken.json streamStart)).map fun tokens =>
      (start, stop, tokens)

def segment (config : ExperimentConfig) (call : TranscriptCall) (id : String) (role : PlayerRole)
    (start stop : Int) : TranscriptSegment where
  id
  player := role
  startGameTimeMs := start
  endGameTimeMs := stop
  text := call.utterance.text
  metadata := .object [
    ("provider", .string config.transcription.provider),
    ("result_ids", .array (call.utterance.resultIds.map .string))]

/-- The message that stands for the segment in the conversation. -/
def message (call : TranscriptCall) (segment : TranscriptSegment) (tokens : List Value) :
    MessageCall where
  sender := call.participantSessionId
  origin := .voiceTranscript
  text := segment.text
  sourceMessageId := some segment.id
  metadata := .object [
    ("client_metadata", segment.metadata),
    ("end_game_time_ms", .int segment.endGameTimeMs),
    ("start_game_time_ms", .int segment.startGameTimeMs),
    ("tokens", .array tokens)]

end TranscriptCall

/-- The query `session_game_time_ms`: a time of the session on the game clock. -/
def SessionStore.sessionGameTimeMs (store : SessionStore) (timestamp : Timestamp) : Option Int :=
  store.row.startedAt.map fun startedAt => timestamp.millis - startedAt.millis

/-- Where a `commit_final_transcript` call stands. -/
inductive TranscriptPc where
  | role
  | active (role : PlayerRole)
  | session (role : PlayerRole)
  | gameTime (role : PlayerRole)
  | claim (role : PlayerRole) (start stop : Int) (tokens : List Value)
  | message (segment : TranscriptSegment) (call : MessageCall) (pc : MessagePc)
  | unclaim (error : AppError)
  | returned (result : Except AppError (Option TranscriptSegment))

/-- One session with the conversation held in it. -/
structure Talk (G : Game) where
  cell : Cell G
  /-- The session's entries of `committed_transcripts`. -/
  committed : List String := []
  /-- The transcripts stored so far, as an observer notes them. -/
  stored : List TranscriptCall := []
  /-- The transcripts that a call has answered as committed already, as an observer notes them. -/
  declined : List TranscriptCall := []

namespace MessagePc

def isStored : MessagePc → Bool
  | touch => true
  | _ => false

end MessagePc

namespace Talk

def applySection (config : ExperimentConfig) (talk : Talk G) (sec : Section G) (now : Timestamp) :
    Talk G :=
  { talk with cell := { talk.cell.apply config sec with clock := now } }

end Talk

namespace TranscriptPc

/-- One atomic step of `commit_final_transcript`. -/
def step (config : ExperimentConfig) (texts : SessionTexts) (jsonBytes : Value → Nat)
    (call : TranscriptCall) (talk : Talk G) (input : TalkInput) :
    TranscriptPc → Option (Talk G × TranscriptPc)
  | role =>
    match participantRole talk.cell.session call.participantSessionId with
    | .error error => some (talk, returned (.error error))
    | .ok member => some (talk, active member)
  | active member =>
    match ensureParticipantInteractionActive talk.cell.session with
    | .error error => some (talk, returned (.error error))
    | .ok () => some (talk, session member)
  | session member =>
    some (talk, if talk.cell.session.isSome then gameTime member
      else returned (.error ⟨.notFound, "Session not found."⟩))
  | gameTime member =>
    match (if input.storeOk then talk.cell.store.sessionGameTimeMs call.streamStartedAt else none) with
    | none => some (talk, returned (.error internalError))
    | some streamStart =>
      match call.onGameClock streamStart with
      | .error error => some (talk, returned (.error error))
      | .ok (start, stop, tokens) => some (talk, claim member start stop tokens)
  | claim member start stop tokens =>
    let key := call.idempotencyKey texts
    if talk.committed.contains key then
      some ({ talk with declined := talk.declined ++ [call] }, returned (.ok none))
    else
      let segment := call.segment config input.newId member start stop
      some ({ talk with committed := talk.committed ++ [key] },
        message segment (call.message segment tokens) .require)
  | message segment messageCall pc =>
    match pc with
    | .returned (.ok ()) => some (talk, returned (.ok (some segment)))
    | .returned (.error error) => some (talk, unclaim error)
    | pc => (pc.step config texts jsonBytes messageCall talk.cell input).map fun (sec, pc) =>
      let talk := talk.applySection config sec input.now
      (if pc.isStored then { talk with stored := talk.stored ++ [call] } else talk,
        message segment messageCall pc)
  | unclaim error =>
    some ({ talk with committed := talk.committed.erase (call.idempotencyKey texts) },
      returned (.error error))
  | returned _ => none

end TranscriptPc

/-- Every task that works on the session: its own, messages and final transcripts. -/
inductive TalkTask (G : Game) where
  | session (task : Task G)
  /-- A typed message, or one of an agent. -/
  | message (call : MessageCall) (pc : MessagePc)
  | transcript (call : TranscriptCall) (pc : TranscriptPc)

/-- The events that end a session's log of its game. -/
def terminalEvents : List String := ["session_completed", "session_abandoned", "session_ended"]

namespace TalkTask

/-- No other procedure records an event under the name of a message or of an end. -/
def entry : TalkTask G → Bool
  | session (.event call .detached .record) =>
    !("conversation_message" :: terminalEvents).contains call.eventType
  | session _ => true
  | message call .require => call.origin != .voiceTranscript
  | transcript _ .role => true
  | _ => false

/-- One step of a task at the current time. -/
def next (config : ExperimentConfig) (texts : SessionTexts) (jsonBytes : Value → Nat)
    (talk : Talk G) (pid : Nat) (input : TalkInput) :
    TalkTask G → Option (Talk G × TalkTask G × List (TalkTask G))
  | session task => (task.next config talk.cell pid input.toInput).map fun (sec, task, started) =>
      (talk.applySection config sec input.now, session task, started.map session)
  | message call pc => (pc.step config texts jsonBytes call talk.cell input).map fun (sec, pc) =>
      (talk.applySection config sec input.now, message call pc, [])
  | transcript call pc => (pc.step config texts jsonBytes call
      { talk with cell := { talk.cell with clock := input.now } } input).map fun (talk, pc) =>
        (talk, transcript call pc, [])

end TalkTask

/-- A session and its conversation as a concurrent program; the clock never runs back. -/
def talkProgram (G : Game) (config : ExperimentConfig) (texts : SessionTexts)
    (jsonBytes : Value → Nat) : Program (Talk G) (TalkTask G) TalkInput where
  entry talk task := task.entry && match task with
    | .session task => (sessionProgram G config).entry talk.cell task
    | _ => true
  step talk pid task input :=
    if input.now < talk.cell.clock then none
    else task.next config texts jsonBytes talk pid input

abbrev talkMachine (G : Game) (config : ExperimentConfig) (texts : SessionTexts)
    (jsonBytes : Value → Nat) := (talkProgram G config texts jsonBytes).machine

/-- The new session, before anybody has said anything. -/
def Creation.talk (config : ExperimentConfig) (creation : Creation G) : Pool (Talk G) (TalkTask G) :=
  ⟨{ cell := creation.cell config }, []⟩

end Parlando
