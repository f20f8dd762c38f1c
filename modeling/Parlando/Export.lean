import Parlando.Administration
import Parlando.Database
import Mathlib.Data.List.Sort

namespace Parlando

/--
The texts in which the store keeps instants and doubles, RFC 3339 and JSON. What the clock writes,
the exporter reads back; of a double it may read back a neighbour, which stays within 0 and 1 if the
double does.
-/
structure TimeTexts where
  format : Timestamp → String
  parse : String → Option Timestamp
  parse_format : ∀ t, parse (format t) = some t
  readDouble : Rat → Rat
  readDouble_unit : ∀ x, 0 ≤ x → x ≤ 1 → 0 ≤ readDouble x ∧ readDouble x ≤ 1

namespace Value

def ofString (text : Option String) : Value := .ofOption (text.map .string)

def ofInt (n : Option Int) : Value := .ofOption (n.map .int)

end Value

def RowLifecycle.asStr : RowLifecycle → String
  | forming => "forming"
  | running => "running"
  | ended => "ended"

def Purpose.asStr : Purpose → String
  | testing => "testing"
  | research => "research"

namespace TimeTexts

variable (times : TimeTexts)

def value (t : Timestamp) : Value := .string (times.format t)

/-- A JSON value as the store reads it from its column. -/
def read (value : Value) : Value := value.readBack times.readDouble

def sessionRow (entry : SessionEntry) : Value :=
  let row := entry.store.row
  .json [("experiment_id", .string entry.key.experimentId),
    ("session_id", .int entry.key.sessionId),
    ("public_session_id", .string entry.publicSessionId),
    ("dialogue_id", .string entry.dialogueId),
    ("mode", .string entry.mode),
    ("lifecycle", .string row.lifecycle.asStr),
    ("purpose", .string row.purpose.asStr),
    ("config_revision", .int entry.configRevision),
    ("game_version", .string entry.gameVersion),
    ("created_at", times.value row.createdAt),
    ("started_at", .ofOption (row.startedAt.map times.value)),
    ("ended_at", .ofOption (row.endedAt.map times.value)),
    ("completion", .ofOption (row.completion.map times.read)),
    ("session_end", .ofOption (row.sessionEnd.map fun ended => times.read ended.toValue))]

def eventRow (key : SessionKey) (event : SessionEvent) : Value :=
  .json [("experiment_id", .string key.experimentId),
    ("session_id", .int key.sessionId),
    ("event_index", .int event.eventIndex),
    ("event_type", .string event.eventType),
    ("actor_participant_id", .ofInt event.actorParticipantId),
    ("actor_role", .ofString (event.actorRole.map PlayerRole.asStr)),
    ("payload", times.read event.payload),
    ("game_state", .ofOption (event.gameState.map times.read)),
    ("game_time_ms", .int event.gameTimeMs)]

def participantRow (participant : ParticipantRow) : Value :=
  .json [("participant_id", .int participant.participantId),
    ("research_id", .string participant.researchId),
    ("participant_kind", .string participant.participantKind),
    ("identity_provider", .string participant.identityProvider),
    ("external_id", .ofString participant.externalId),
    ("metadata", times.read participant.metadata),
    ("created_at", times.value participant.createdAt)]

def sessionParticipantRow (key : SessionKey) (member : SessionParticipantRow) : Value :=
  .json [("experiment_id", .string key.experimentId),
    ("session_id", .int key.sessionId),
    ("participant_id", .int member.participantId),
    ("role", .string member.role.asStr),
    ("joined_at", times.value member.joinedAt),
    ("left_at", .ofOption (member.leftAt.map times.value)),
    ("connection_status", .string member.connectionStatus)]

def consentRow (consent : ConsentDeclarationRow) : Value :=
  .json [("experiment_id", .string consent.experimentId),
    ("session_id", .ofInt consent.sessionId),
    ("participant_id", .int consent.participantId),
    ("consent_item_id", .string consent.consentItemId),
    ("accepted", .bool consent.accepted),
    ("purpose", .string consent.purpose),
    ("declared_at", times.value consent.declaredAt),
    ("consent_text_hash", .ofString consent.consentTextHash),
    ("metadata", times.read consent.metadata)]

def experimentRow (experiment : ExperimentRow) : Value :=
  .json [("experiment_id", .string experiment.experimentId),
    ("game_version", .string experiment.gameVersion),
    ("config_revision", .int experiment.configRevision),
    ("config", times.read experiment.config),
    ("status", .string experiment.status)]

end TimeTexts

namespace Database

def sessionsOf (db : Database) (experimentId : String) : List SessionEntry :=
  (db.sessions.filter fun entry => entry.key.experimentId == experimentId).insertionSort
    fun a b => a.key.sessionId ≤ b.key.sessionId

def participantsOf (db : Database) (experimentId : String) : List ParticipantRow :=
  (db.participants.filter fun participant => (db.sessionsOf experimentId).any fun entry =>
    entry.store.members.any fun member =>
      member.participantId == participant.participantId).insertionSort
    fun a b => a.participantId ≤ b.participantId

def consentsOf (db : Database) (experimentId : String) : List ConsentDeclarationRow :=
  (db.consentDeclarations.filter fun consent => consent.experimentId == experimentId).insertionSort
    fun a b => a.declaredAt ≤ b.declaredAt

end Database

namespace SessionStore

def membersByRole (store : SessionStore) : List SessionParticipantRow :=
  store.members.insertionSort fun a b => a.role.asStr ≤ b.role.asStr

def eventsByIndex (store : SessionStore) : List SessionEvent :=
  store.events.insertionSort fun a b => a.eventIndex ≤ b.eventIndex

end SessionStore

/-- Exports the rows of one experiment as JSON objects. -/
def exportRows (times : TimeTexts) (db : Database) (experiment : ExperimentRow) : Value :=
  let sessions := db.sessionsOf experiment.experimentId
  .json [("experiment", times.experimentRow experiment),
    ("participants", .array ((db.participantsOf experiment.experimentId).map times.participantRow)),
    ("sessions", .array (sessions.map times.sessionRow)),
    ("session_participants", .array (sessions.flatMap fun entry =>
      entry.store.membersByRole.map (times.sessionParticipantRow entry.key))),
    ("consent_declarations", .array ((db.consentsOf experiment.experimentId).map times.consentRow)),
    ("session_events", .array (sessions.flatMap fun entry =>
      entry.store.eventsByIndex.map (times.eventRow entry.key)))]

def integerMember (key : String) (row : Value) : Option Int := (row.get? key).bind Value.asI64?

def stringMember (key : String) (row : Value) : Option String := (row.get? key).bind Value.asStr?

def filterArrayByStringNotEqual (table field excluded : String) (exported : Value) : Value :=
  exported.retain table fun row => stringMember field row != some excluded

/-- Whether an integer field of the row has one of the given values. -/
def hasMemberIn (key : String) (ids : List Int) (row : Value) : Bool :=
  (integerMember key row).any ids.contains

def filterScopedTablesToSessions (exported : Value) : Value :=
  let sessionIds := (exported.rows "sessions").filterMap (integerMember "session_id")
  let exported := (exported.retain "session_participants" (hasMemberIn "session_id" sessionIds)).retain
    "session_events" (hasMemberIn "session_id" sessionIds)
  let participantIds :=
    (exported.rows "session_participants").filterMap (integerMember "participant_id")
  exported.retain "consent_declarations" fun row =>
    match integerMember "session_id" row with
    | none => hasMemberIn "participant_id" participantIds row
    | some id => sessionIds.contains id

/-- Retains only participants referenced by the sessions left in an export graph. -/
def filterParticipantsToSessions (exported : Value) : Value :=
  let participantIds :=
    (exported.rows "session_participants").filterMap (integerMember "participant_id")
  exported.retain "participants" (hasMemberIn "participant_id" participantIds)

/-- Removes test sessions and every session-scoped record linked only to them. -/
def excludeTestingSessions (exported : Value) : Value :=
  let exported := filterArrayByStringNotEqual "sessions" "purpose" "testing" exported
  let exported := filterArrayByStringNotEqual "consent_declarations" "purpose" "testing" exported
  filterParticipantsToSessions (filterScopedTablesToSessions exported)

/-- Removes sessions that never entered gameplay from the publication corpus graph. -/
def excludeUnstartedSessions (exported : Value) : Value :=
  let exported := exported.retain "sessions" fun row => (stringMember "started_at" row).isSome
  filterParticipantsToSessions (filterScopedTablesToSessions exported)

/-- Creates a visible conflict for corrupt timing or identity data at the export boundary. -/
def exportIntegrityError (message : String) : AppError :=
  ⟨.conflict, "Corpus export integrity error: " ++ message⟩

/-- A value the projection relies on. -/
def required {α : Type} (value : Option α) (message : String) : Except AppError α :=
  orError value (exportIntegrityError message)

/-- Validates and projects only the documented token fields into a corpus candidate. -/
def exportTranscriptToken (item : Value) : Except AppError Value := do
  let kind ← required ((item.index "kind").asStr?.filter fun kind =>
    kind == "word" || kind == "punctuation") "invalid transcript token kind"
  let text ← required (item.index "text").asStr? "missing transcript token text"
  let start ← required ((item.index "start_ms").asI64?.filter fun value => decide (0 ≤ value))
    "invalid token onset"
  let endpoint ← required ((item.index "end_ms").asI64?.filter fun value => decide (start ≤ value))
    "invalid token endpoint"
  let fields := [("kind", Value.string kind), ("text", .string text), ("start_ms", .int start),
    ("end_ms", .int endpoint)]
  match item.get? "confidence" with
  | none => return .json fields
  | some confidence =>
    let confidence ← required (confidence.asF64?.filter fun value =>
      decide (0 ≤ value) && decide (value ≤ 1)) "invalid token confidence"
    return .json (fields ++ [("confidence", .float confidence)])

def exportTranscriptTokens (value : Value) : Except AppError Value := do
  let items ← required value.asArray? "transcript tokens are not an array"
  return .array (← items.mapM exportTranscriptToken)

def exportTokenField : Option Value → Except AppError (List (String × Value))
  | some tokens => do
    let tokens ← exportTranscriptTokens tokens
    return [("tokens", tokens)]
  | none => .ok []

/-- The published speech timing of a message; of several records the last one counts. -/
def speechTiming (payloads : List Value) (messageId : String) : Option Value :=
  (payloads.filter fun payload => stringMember "message_id" payload == some messageId &&
    (payload.get? "metadata").isSome).getLast?.bind fun payload => payload.get? "metadata"

def Value.extend (members fields : List (String × Value)) : List (String × Value) :=
  fields.foldl (fun members field => insertMember field.1 field.2 members) members

/-- Enriches a read projection without altering the originally committed message event. -/
def attachSpeechTiming (timings : List Value) (payload : Value) : Value :=
  match (stringMember "id" payload).bind (speechTiming timings) with
  | some (.object fields) =>
    match payload with
    | .object members =>
      let metadata := ((payload.index "metadata").asObject?).getD []
      .object (Value.insertMember "metadata" (.object (Value.extend metadata fields)) members)
    | payload => payload
  | _ => payload

def isSemantic (eventType : String) : Bool :=
  eventType == "game_action_accepted" || eventType == "conversation_message" || eventType == "log"

/-- A session's number and name and the events whose payloads its messages refer to. -/
structure SessionContext where
  sessionId : String
  participantIds : Map Int String
  speechTimings : List Value

namespace SessionContext

variable (context : SessionContext)

def actor (row : Value) : Option String :=
  (integerMember "actor_participant_id" row).bind context.participantIds.lookup

def projectAction (row : Value) (gameTimeMs : Int) : Except AppError Value := do
  let participant ← required (context.actor row) "an action event lacks an exported actor"
  let payload := row.index "payload"
  return .json [("index", row.index "event_index"), ("game_time_ms", .int gameTimeMs),
    ("kind", .string "action"), ("participant_id", .string participant),
    ("role", row.index "actor_role"), ("action", payload.index "action"),
    ("transition_metadata", payload.index "metadata"), ("state", row.index "game_state")]

def projectMessage (row : Value) (gameTimeMs : Int) : Except AppError Value := do
  let payload := attachSpeechTiming context.speechTimings (row.index "payload")
  let participant ← required (context.actor row) "a message event lacks an exported actor"
  let metadata := payload.get? "metadata"
  let startTime := metadata.bind fun value => value.get? "start_game_time_ms"
  let endTime := metadata.bind fun value => value.get? "end_game_time_ms"
  let timing := if startTime.isSome || endTime.isSome then
      [("utterance_timing", Value.json [("origin", .string "game_clock"),
        ("start_ms", .ofOption startTime), ("end_ms", .ofOption endTime)])]
    else []
  let tokens ← exportTokenField (metadata.bind fun metadata => metadata.get? "tokens")
  return .json ([("index", row.index "event_index"), ("game_time_ms", .int gameTimeMs),
    ("kind", .string "message"), ("participant_id", .string participant),
    ("role", row.index "actor_role"), ("origin", payload.index "origin"),
    ("text", payload.index "text")] ++ timing ++ tokens)

def projectLog (row : Value) (gameTimeMs : Int) : Value :=
  let payload := row.index "payload"
  .json [("index", row.index "event_index"), ("game_time_ms", .int gameTimeMs),
    ("kind", .string "log"), ("source", payload.index "source"),
    ("participant_id", .ofString (context.actor row)), ("role", row.index "actor_role"),
    ("text", payload.index "text")]

/-- One semantic event of the corpus, at its offset on the game clock. -/
def projectEvent (row : Value) : Except AppError Value := do
  let gameTimeMs ← required ((integerMember "game_time_ms" row).filter fun value =>
      decide (0 ≤ value))
    ("session " ++ context.sessionId ++ " contains a semantic event without valid game time")
  if stringMember "event_type" row == some "game_action_accepted" then
    context.projectAction row gameTimeMs
  else if stringMember "event_type" row == some "conversation_message" then
    context.projectMessage row gameTimeMs
  else return context.projectLog row gameTimeMs

end SessionContext

section

variable (times : TimeTexts)

/-- Parses a required timestamp used only to derive a relative interval. -/
def requiredTimestampMs (value : Option Value) (label : String) : Except AppError Int :=
  required (((value.bind Value.asStr?).bind times.parse).map Timestamp.millis)
    (label ++ " timestamp is missing or invalid")

def optionalTimestampMs (value : Option Value) (label : String) : Except AppError (Option Int) :=
  match value with
  | none | some .null => .ok none
  | some value => (requiredTimestampMs times (some value) label).map some

def checkedInterval (endpoint start : Int) (sessionId label : String) : Except AppError Int :=
  if start ≤ endpoint then .ok (endpoint - start)
  else .error (exportIntegrityError ("session " ++ sessionId ++ " has a negative " ++ label))

/-- An interval between two instants, where both are known. -/
def optionalInterval (endpoint start : Option Int) (sessionId label : String) :
    Except AppError (Option Int) :=
  match endpoint, start with
  | some endpoint, some start => (checkedInterval endpoint start sessionId label).map some
  | _, _ => .ok none

/-- One row of the participant catalogue, with its number and its public identifier. -/
def projectParticipant (row : Value) : Except AppError (Int × String × Value) := do
  let internalId ← required (integerMember "participant_id" row)
    "a participant lacks its database key"
  let publicId ← required ((stringMember "research_id" row).filter fun id => !id.toList.isEmpty)
    "a participant lacks its dashboard ID"
  let kind := row.index "participant_kind"
  let metadata := row.index "metadata"
  let agentIdentity := if kind.asStr? == some "agent" then
      Value.json [("factory_id", metadata.index "factory"),
        ("agent_name", metadata.index "agent_name"),
        ("agent_version", metadata.index "agent_version"),
        ("configuration_fingerprint", metadata.index "configuration_fingerprint")]
    else .null
  return (internalId, publicId, .json [("participant_id", .string publicId), ("kind", kind),
    ("agent_identity", agentIdentity)])

def projectAssignment (participantIds : Map Int String) (row : Value) : Except AppError Value := do
  let participant ← required ((integerMember "participant_id" row).bind participantIds.lookup)
    "a session assignment has no exported participant"
  return .json [("participant_id", .string participant), ("role", row.index "role")]

def rowsOfSession (exported : Value) (table : String) (sessionId : Int) : List Value :=
  (exported.rows table).filter fun row => integerMember "session_id" row == some sessionId

def semanticRows (rows : List Value) : List Value :=
  rows.filter fun row => (stringMember "event_type" row).any isSemantic

def sessionDocument (session : Value) (sessionId : String) (timeToStartMs durationMs : Option Int)
    (assignments events : List Value) : Value :=
  .json [("session_id", .string sessionId),
    ("metadata", .json [("game_version", session.index "game_version"),
      ("config_revision", session.index "config_revision"), ("mode", session.index "mode"),
      ("status", session.index "status"), ("time_to_start_ms", .ofInt timeToStartMs),
      ("duration_ms", .ofInt durationMs)]),
    ("participants", .array assignments), ("completion", session.index "completion"),
    ("events", .array events)]

def projectSession (exported : Value) (participantIds : Map Int String) (session : Value) :
    Except AppError Value := do
  let internalId ← required (integerMember "session_id" session) "a session lacks its database key"
  let sessionId ← required ((stringMember "dialogue_id" session).filter fun id =>
    !id.toList.isEmpty) "a session lacks its dashboard ID"
  let assignments ← (rowsOfSession exported "session_participants" internalId).mapM
    (projectAssignment participantIds)
  if assignments.length != 2 then
    throw (exportIntegrityError ("session " ++ sessionId ++ " has " ++
      toString assignments.length ++ " participant assignments; expected exactly two"))
  let startedAt ← optionalTimestampMs times (session.get? "started_at") "session start"
  let createdAt ← requiredTimestampMs times (session.get? "created_at") "session creation"
  let completedAt ← optionalTimestampMs times (session.get? "completed_at") "session completion"
  let eventRows := rowsOfSession exported "session_events" internalId
  let speechTimings := (eventRows.filter fun row =>
    stringMember "event_type" row == some "conversation_speech_timing").map (·.index "payload")
  let events ← (semanticRows eventRows).mapM
    (SessionContext.projectEvent ⟨sessionId, participantIds, speechTimings⟩)
  let timeToStartMs ← optionalInterval startedAt (some createdAt) sessionId "time to start"
  let durationMs ← optionalInterval completedAt startedAt sessionId "duration"
  return sessionDocument session sessionId timeToStartMs durationMs assignments events

def countEvents (exported : Value) (sessions : List Value) (p : String → Bool) : Value :=
  let visited := sessions.flatMap fun session =>
    semanticRows (((integerMember "session_id" session).map
      (rowsOfSession exported "session_events")).getD [])
  .int (visited.countP fun row => (stringMember "event_type" row).any p)

def corpusDocument (privacyContractVersion : String) (experiment : Value)
    (participants sessions : List Value) (count : (String → Bool) → Value) : Value :=
  .json [("export_schema_version", .string "parlando.corpus.v1"),
    ("export_variant", .string "corpus"), ("release_status", .string "corpus_candidate"),
    ("content_review_required", .bool true),
    ("privacy_contract_version", .string privacyContractVersion),
    ("data_inventory", .json [("participants", .int participants.length),
      ("sessions", .int sessions.length), ("events", count isSemantic),
      ("actions", count (· == "game_action_accepted")),
      ("messages", count (· == "conversation_message")), ("logs", count (· == "log"))]),
    ("experiment", .json [("experiment_id", experiment.index "experiment_id"),
      ("game", .json [("version", experiment.index "game_version")]),
      ("configuration", ((experiment.index "config").get? "game").getD (.object [])),
      ("participants", .array participants), ("sessions", .array sessions)])]

/-- Derives a publication-oriented dialogue corpus with consistent readable identifiers. -/
def corpusExperimentExport (exported : Value) (privacyContractVersion : String) :
    Except AppError Value := do
  let exported := excludeUnstartedSessions exported
  let experiment ← required ((exported.get? "experiment").filter fun value =>
    value.asObject?.isSome) "experiment metadata is missing"
  let participantRows ← required ((exported.get? "participants").bind Value.asArray?)
    "participant catalogue is missing"
  let projected ← participantRows.mapM projectParticipant
  let participantIds : Map Int String := projected.foldl
    (fun ids participant => AList.insert participant.1 participant.2.1 ids) ∅
  let participants := projected.map fun participant => participant.2.2
  let _ ← required ((exported.get? "session_participants").bind Value.asArray?)
    "session assignments are missing"
  let _ ← required ((exported.get? "session_events").bind Value.asArray?)
    "session events are missing"
  let sessionRows ← required ((exported.get? "sessions").bind Value.asArray?)
    "sessions are missing"
  let sessions ← sessionRows.mapM (projectSession times exported participantIds)
  return corpusDocument privacyContractVersion experiment participants sessions
    (countEvents exported sessionRows)

end

/-- What a server contributes to an export: its clock's texts and the JSON text of a document. -/
structure ExportState where
  times : TimeTexts
  privacyContractVersion : String
  encode : Value → String

def filteredExport (times : TimeTexts) (db : Database) (experiments : List ExperimentRow)
    (experimentId : String) : Except AppError Value := do
  let experiment ← orError (Table.find? ExperimentRow.experimentId experiments experimentId)
    ⟨.notFound, "Configured experiment not found."⟩
  if experiment.status == "archived" then
    throw ⟨.conflict, "Archived experiments must be restored before export"⟩
  return excludeTestingSessions (exportRows times db experiment)

/-- The corpus in its JSON format, as the document whose text is returned. -/
def ExportState.adminExport (state : ExportState) (db : Database)
    (experiments : List ExperimentRow) (experimentId : String) : Except AppError Value := do
  let raw ← filteredExport state.times db experiments experimentId
  let corpus ← corpusExperimentExport state.times raw state.privacyContractVersion
  let value := redactSecretFields corpus
  let events := ((value.get? "data_inventory").bind fun inventory =>
    inventory.get? "events").bind Value.asI64?
  if events.any fun events => decide (events > 100000) then
    throw ⟨.payloadTooLarge, "Export exceeds the 100,000 event limit."⟩
  if (state.encode value).utf8ByteSize > 32 * 1024 * 1024 then
    throw ⟨.payloadTooLarge, "Export exceeds the 32 MiB response limit."⟩
  return value

end Parlando
