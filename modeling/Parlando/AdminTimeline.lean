import Parlando.Data.Grouping
import Parlando.Data.Json
import Parlando.Data.Map
import Parlando.Data.Text
import Parlando.Transcription

namespace Parlando

/-- Typed dashboard projection of one durable event. -/
structure AdminEventSummary where
  eventId : Int
  eventIndex : Int
  eventType : String
  actorParticipantId : Option Int := none
  actorRole : Option String := none
  gameTimeMs : Int
  title : String
  text : Option String := none
  detail : Value := .null
  raw : Value := .null

namespace AdminEventSummary

def toJson (event : AdminEventSummary) : Value :=
  .json [("event_id", .int event.eventId), ("event_index", .int event.eventIndex),
    ("event_type", .string event.eventType),
    ("actor_participant_id", .ofOption (event.actorParticipantId.map .int)),
    ("actor_role", .ofOption (event.actorRole.map .string)),
    ("game_time_ms", .int event.gameTimeMs), ("title", .string event.title),
    ("text", .ofOption (event.text.map .string)), ("detail", event.detail), ("raw", event.raw)]

def detailStr? (event : AdminEventSummary) (key : String) : Option String :=
  (event.detail.get? key).bind Value.asStr?

end AdminEventSummary

/-- A display row of the experiment dashboard. -/
structure AdminEventBundle where
  kind : String
  role : Option String
  key : String
  events : List AdminEventSummary
  constructed : events ≠ []
  afterTerminalEvent : Bool

def adminEventIsTerminalBoundary (event : AdminEventSummary) : Bool :=
  ["session_completed", "session_abandoned", "session_expired",
    "participant_disconnected"].contains event.eventType

def adminEventIsActionRequest (event : AdminEventSummary) : Bool :=
  ["agent_action", "game_action_submitted"].contains event.eventType

def adminEventIsActionResult (event : AdminEventSummary) : Bool :=
  ["game_action_accepted", "game_action_rejected"].contains event.eventType

def adminEventRole (event : AdminEventSummary) : Option String :=
  (event.actorRole.or (event.detailStr? "player")).or
    ((event.detailStr? "sender_role").or (event.detailStr? "role"))

def adminEventTextValue (event : AdminEventSummary) : String :=
  (event.text.or (event.detailStr? "event")).getD event.eventType

def normalizeDisplayText (text : String) : String :=
  Text.lower (Text.trimEndOf ['.', '!', '?'] (trim text))

def normalizedTranscriptText (event : AdminEventSummary) : String :=
  let payload := ((event.raw.get? "payload").bind (·.get? "text")).bind Value.asStr?
  normalizeDisplayText ((event.text.or payload).getD "")

def adminEventAction (event : AdminEventSummary) : Option Value :=
  (event.detail.get? "action").or ((event.raw.get? "payload").bind (·.get? "action"))

def showAdminEventInTimeline (event : AdminEventSummary) : Bool :=
  event.eventType ≠ "voice_diagnostic" ||
    let text := adminEventTextValue event
    ["voice_connect_requested", "stt_initialized", "transcription_stream_connecting",
        "transcription_stream_started"].any (Text.contains · text) ||
      ["fail", "error", "disconnect"].any (Text.contains · (Text.lower text))

def adminBundleKind (event : AdminEventSummary) : String :=
  match event.eventType with
  | "agent_action" | "game_action_accepted" | "game_action_rejected"
  | "game_action_submitted" => "action"
  | "participant_joined" | "participant_connected" | "participant_disconnected"
  | "ready" => "participant"
  | "voice_diagnostic" => "voice"
  | "transcript_segment" => "transcript"
  | "conversation_message" =>
    if event.detailStr? "origin" = some "voice_transcript" then "transcript" else "conversation"
  | other => other

/-- The key under which a bundle stays open. `toText` serializes a value on one line. -/
def adminBundleKey (toText : Value → String) (event : AdminEventSummary) (kind : String)
    (role : Option String) : String :=
  let role := role.getD "system"
  match kind with
  | "action" =>
    "action:" ++ role ++ ":" ++ ((event.detail.get? "action").map toText).getD "null"
  | "participant" | "voice" => kind ++ ":" ++ role
  | "transcript" => kind ++ ":" ++ role ++ ":" ++ normalizedTranscriptText event
  | _ => kind ++ ":" ++ role ++ ":" ++ toString event.eventIndex

def adminEventIsReadyOrGone (event : AdminEventSummary) : Bool :=
  ["ready", "participant_disconnected"].contains event.eventType

def adminBundleIsClosed (bundle : AdminEventBundle) : Bool :=
  match bundle.kind with
  | "action" => bundle.events.any adminEventIsActionResult
  | "participant" => bundle.events.any adminEventIsReadyOrGone
  | "voice" => bundle.events.any fun event =>
    ["transcription_stream_started", "ready", "fail", "error", "disconnect"].any
      (Text.contains · (Text.lower (adminEventTextValue event)))
  | _ => false

def adminEventIsMessage (event : AdminEventSummary) : Bool :=
  event.eventType == "conversation_message"

def canAppendAdminBundle (bundle : AdminEventBundle) (event : AdminEventSummary) (kind : String)
    (role : Option String) : Bool :=
  if bundle.kind ≠ kind then false
  else if (bundle.role.isSome || role.isSome) && bundle.role ≠ role then false
  else match kind with
  | "action" =>
    !adminBundleIsClosed bundle &&
      bundle.events.head?.bind adminEventAction = adminEventAction event &&
      !(bundle.events.any adminEventIsActionRequest && adminEventIsActionRequest event)
  | "transcript" =>
    !(adminEventIsMessage event && bundle.events.any adminEventIsMessage) &&
      (bundle.events.head?.map normalizedTranscriptText).getD "" = normalizedTranscriptText event
  | "participant" | "voice" => true
  | _ => false

def adminRejectionReason (bundle : AdminEventBundle) : String :=
  (bundle.events.findSome? fun event => (event.detailStr? "error").or event.text).getD
    "Action was rejected."

def adminBundleProblemReason (bundle : AdminEventBundle) : Option String :=
  if bundle.events.any fun event => Text.contains "rejected" event.eventType then
    some (adminRejectionReason bundle)
  else
    let failure := bundle.events.findSome? fun event =>
      let text := Text.lower (adminEventTextValue event)
      if ["fail", "error", "reject"].any (Text.contains · text) ||
          (!bundle.afterTerminalEvent && Text.contains "disconnect" text)
      then some (adminEventTextValue event)
      else none
    failure.or <| if bundle.afterTerminalEvent then none else match bundle.kind with
      | "action" =>
        if bundle.events.any adminEventIsActionResult then none
        else some "Action was sent but no accepted/rejected result was logged."
      | "voice" =>
        let started (event : AdminEventSummary) :=
          ["stt_initialized", "transcription_stream_started", "transcription_ready", "ready"].any
            (Text.contains · (Text.lower (adminEventTextValue event)))
        if bundle.events.any started then none
        else some "Voice setup did not log a ready/started event."
      | "participant" =>
        if bundle.events.any (·.eventType == "participant_disconnected") then
          some "Participant disconnected."
        else none
      | _ => none

def adminBundleIsHousekeeping (bundle : AdminEventBundle) : Bool :=
  ["participant", "voice", "session_created", "session_completed"].contains bundle.kind

def adminBundleTitle (bundle : AdminEventBundle) : String :=
  match bundle.kind with
  | "action" => "Action"
  | "participant" => "Participant"
  | "voice" => "Voice"
  | "transcript" => "Voice Message"
  | "conversation" => "Message"
  | "session_created" | "session_completed" | "session_abandoned" | "session_expired" => "Session"
  | _ => (bundle.events.head bundle.constructed).title

def adminBundleText (bundle : AdminEventBundle) : String :=
  if ["action", "participant", "session_created"].contains bundle.kind then ""
  else
    let texts := (bundle.events.map adminEventTextValue).filter (!·.isEmpty)
    let distinct := texts.foldl (fun texts text =>
      if texts.any fun existing => normalizeDisplayText existing == normalizeDisplayText text
      then texts else texts ++ [text]) []
    " · ".intercalate (distinct.drop (distinct.length - 2))

def readableAdminEventStep (event : AdminEventSummary) : String :=
  match event.eventType with
  | "participant_joined" => "Joined"
  | "participant_connected" => "Connected"
  | "participant_disconnected" => "Disconnected"
  | "ready" => "Ready"
  | "transcript_segment" => "Transcript saved"
  | "conversation_message" =>
    if event.detailStr? "origin" = some "voice_transcript" then "Transcript displayed"
    else event.title
  | "voice_diagnostic" => adminEventTextValue event
  | _ => event.title

def adminBundleJson (bundle : AdminEventBundle) : Value :=
  let first := bundle.events.head bundle.constructed
  let last := bundle.events.getLast bundle.constructed
  let metadata := last.detail.index "metadata"
  let steps :=
    if bundle.events.length > 1 then
      " -> ".intercalate (bundle.events.map readableAdminEventStep)
    else ""
  let problemReason := adminBundleProblemReason bundle
  let action := if bundle.kind = "action" then bundle.events.findSome? adminEventAction else none
  let spoken := bundle.kind = "transcript" ∨
    ((last.detail.index "origin").asStr? = some "agent" ∧
      ((metadata.index "timing_source").asStr? = some "tts_alignment" ∨
        (metadata.index "speech_synthesized").asBool? = some true))
  .json [("kind", .string bundle.kind), ("key", .string bundle.key),
    ("role", .ofOption (bundle.role.map .string)), ("first_index", .int first.eventIndex),
    ("last_index", .int last.eventIndex), ("game_time_ms", .int last.gameTimeMs),
    ("title", .string (adminBundleTitle bundle)), ("problem", .bool problemReason.isSome),
    ("problem_reason", .ofOption (problemReason.map .string)),
    ("housekeeping", .bool (adminBundleIsHousekeeping bundle)), ("steps", .string steps),
    ("text", .string (adminBundleText bundle)), ("origin", last.detail.index "origin"),
    ("spoken", .bool spoken), ("action", .ofOption action),
    ("utterance_timing", .ofOption ((last.detail.get? "metadata").map fun metadata =>
      .json [("start_ms", metadata.index "start_game_time_ms"),
        ("end_ms", metadata.index "end_game_time_ms")])),
    ("tokens", metadata.index "tokens"), ("events", .array (bundle.events.map (·.toJson)))]

/-- What the loop keeps between two events; `openBundles` holds indices of bundles. -/
structure AdminTimeline where
  bundles : List AdminEventBundle := []
  openBundles : Map String Nat := ∅
  terminalEventSeen : Bool := false

namespace AdminEventBundle

def found (event : AdminEventSummary) (kind : String) (role : Option String) (key : String)
    (terminalEventSeen : Bool) : AdminEventBundle where
  kind := kind
  role := role
  key := key
  events := [event]
  constructed := List.cons_ne_nil event []
  afterTerminalEvent := terminalEventSeen

def push (bundle : AdminEventBundle) (event : AdminEventSummary) (terminalEventSeen : Bool) :
    AdminEventBundle where
  kind := bundle.kind
  role := bundle.role
  key := bundle.key
  events := bundle.events ++ [event]
  constructed := List.concat_ne_nil event bundle.events
  afterTerminalEvent := bundle.afterTerminalEvent || terminalEventSeen

end AdminEventBundle

namespace AdminTimeline

/-- A bundle of its own for an event. -/
def found (timeline : AdminTimeline) (event : AdminEventSummary) (kind : String)
    (role : Option String) (key : String) : AdminTimeline :=
  let bundle := AdminEventBundle.found event kind role key timeline.terminalEventSeen
  { bundles := timeline.bundles ++ [bundle]
    openBundles :=
      if adminBundleIsClosed bundle then timeline.openBundles
      else timeline.openBundles.insert key timeline.bundles.length
    terminalEventSeen := timeline.terminalEventSeen || adminEventIsTerminalBoundary event }

def append (timeline : AdminTimeline) (index : Nat) (bundle : AdminEventBundle)
    (event : AdminEventSummary) (key : String) : AdminTimeline :=
  let grown := bundle.push event timeline.terminalEventSeen
  { bundles := timeline.bundles.set index grown
    openBundles :=
      if adminBundleIsClosed grown then timeline.openBundles.erase key else timeline.openBundles
    terminalEventSeen := timeline.terminalEventSeen || adminEventIsTerminalBoundary event }

/-- One round of the loop; `none` where it indexes past the bundles. -/
def add (toText : Value → String) (timeline : AdminTimeline) (event : AdminEventSummary) :
    Option AdminTimeline := do
  let kind := adminBundleKind event
  let role := adminEventRole event
  let key := adminBundleKey toText event kind role
  match timeline.openBundles.lookup key with
  | some index =>
    let bundle ← timeline.bundles[index]?
    if canAppendAdminBundle bundle event kind role then
      return timeline.append index bundle event key
    else return timeline.found event kind role key
  | none => return timeline.found event kind role key

end AdminTimeline

def adminBundles (toText : Value → String) (events : List AdminEventSummary) :
    Option (List AdminEventBundle) :=
  ((events.filter showAdminEventInTimeline).foldlM (AdminTimeline.add toText) {}).map (·.bundles)

/-- Groups durable admin events into display rows for the experiment dashboard. -/
def adminEventBundles (toText : Value → String) (events : List AdminEventSummary) :
    Option (List Value) :=
  (adminBundles toText events).map (·.map adminBundleJson)

end Parlando
