import Parlando.AudioPublisher
import Parlando.Export
import Parlando.SpeechAlignment
import Parlando.StoreMachine
import Parlando.Transcription

namespace Parlando

open Concurrency

def publishedToken (originMs : Int) (token : TranscriptToken) : Except String Value :=
  match checkedAdd originMs token.startTimeMs, checkedAdd originMs token.endTimeMs with
  | none, _ => .error "token onset overflow"
  | _, none => .error "token endpoint overflow"
  | some startMs, some endMs =>
    .ok (.json [("kind", .string token.kind), ("text", .string token.text),
      ("start_ms", .int startMs), ("end_ms", .int endMs)])

/-- Records published agent speech on the game clock without duplicating conversation text. -/
def agentSpeechTiming (originMs : Int) (messageId : String) (tokens : List TranscriptToken)
    (summary : AudioPublishSummary) : Except String Value := do
  let denominator := summary.sampleRate.toNat * summary.channels.toNat * 2
  if denominator = 0 then throw "invalid published audio format"
  let scaled := summary.bytesPublished * 1000 + denominator / 2
  if 9223372036854775808 ≤ scaled then throw "speech duration overflow"
  let endMs ← orError (checkedAdd originMs ((scaled / denominator : Nat) : Int))
    "speech endpoint overflow"
  let tokens ← tokens.mapM (publishedToken originMs)
  return .json [("message_id", .string messageId), ("metadata", .json [
    ("start_game_time_ms", .int originMs), ("end_game_time_ms", .int endMs),
    ("tokens", .array tokens), ("timing_source", .string "tts_alignment")])]

/-- A token of the speech provider; the transcription clock has moved its times only. -/
def TranscriptToken.Recognized (token : TranscriptToken) : Prop :=
  ∃ result parsed, parseToken result = .ok parsed ∧
    token = { parsed with startTimeMs := token.startTimeMs, endTimeMs := token.endTimeMs }

def ActedBy (members : List SessionParticipantRow) (record : SessionEventRecord) : Prop :=
  ∃ member ∈ members, record.actorParticipantId = some member.participantId

/-- An event record as the server writes it into a session with these members. -/
inductive RuntimeRecord (members : List SessionParticipantRow) (record : SessionEventRecord) :
    Prop where
  | action (kind : record.eventType = "game_action_accepted") (actor : ActedBy members record)
  /-- A typed message or one of an agent. -/
  | message (kind : record.eventType = "conversation_message") (actor : ActedBy members record)
      (texts : SessionTexts) (call : MessageCall) (id : String) (role : PlayerRole)
      (plain : call.metadata = .object []) (payload : record.payload = call.payload texts id role)
  | transcript (kind : record.eventType = "conversation_message") (actor : ActedBy members record)
      (texts : SessionTexts) (call : TranscriptCall) (id : String) (role : PlayerRole)
      (recognized : ∀ token ∈ call.utterance.tokens, token.Recognized)
      (segment : TranscriptSegment) (streamStart start stop : Int) (tokens : List Value)
      (clocked : call.onGameClock streamStart = .ok (start, stop, tokens))
      (payload : record.payload = (call.message segment tokens).payload texts id role)
  | speechTiming (kind : record.eventType = "conversation_speech_timing")
      (isAlphanumeric : Char → Bool) (characters : List TimedCharacter) (originMs : Int)
      (messageId : String) (summary : AudioPublishSummary)
      (payload : agentSpeechTiming originMs messageId
        (alignmentTokens isAlphanumeric characters) summary = .ok record.payload)
  | log (kind : record.eventType = "log")
  | other (kind : isSemantic record.eventType = false)
      (notTiming : record.eventType ≠ "conversation_speech_timing")

namespace Operation

/-- The event records of a transaction, each with its session. -/
def records : Operation → List (SessionKey × SessionEventRecord)
  | appendSessionEvent key record _ => [(key, record)]
  | commitSessionTransition events _ _ => events
  | endSession key record _ _ => [(key, record)]
  | _ => []

def identifiers : Operation → List String
  | upsertParticipant _ identifiers _ => identifiers
  | admitProlificSubmission _ identifiers _ _ => identifiers
  | createSession _ dialogueIds _ => dialogueIds
  | _ => []

def reading? : Operation → Option Timestamp
  | upsertParticipant _ _ now => some now
  | admitProlificSubmission _ _ _ now => some now
  | recordConsentDeclaration declaration => some declaration.declaredAt
  | createSession _ _ now => some now
  | failSessionInitialization _ _ now => some now
  | startSession _ startedAt _ => some startedAt
  | touchSessionActivity _ activityAt _ => some activityAt
  | addSessionParticipant _ member => some member.joinedAt
  | appendSessionEvent _ _ now => some now
  | commitSessionTransition _ _ now => some now
  | endSession _ _ _ now => some now
  | completeSessionInitialization _ => none
  | updateSessionParticipantConnection _ _ _ _ => none
  | deleteParticipantData _ _ => none

/-- A transaction as the server runs it: it draws words and writes its own event records. -/
structure OfRuntime (db : Database) (operation : Operation) : Prop where
  words : ∀ identifier ∈ operation.identifiers, identifier ≠ ""
  records : ∀ event ∈ operation.records, ∀ entry, db.session? event.1 = some entry →
    RuntimeRecord entry.store.members event.2

end Operation

structure ClockedStore where
  database : Database
  clock : Timestamp

/-- The store under a clock that never runs back. -/
def clockedStore : Machine ClockedStore Operation where
  step s operation :=
    if operation.reading?.any (· < s.clock) then none
    else some ⟨operation.after s.database, operation.reading?.getD s.clock⟩

end Parlando
