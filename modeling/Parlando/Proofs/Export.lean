import Parlando.Export
import Parlando.Data.Except

namespace Parlando

section

variable (times : TimeTexts) (key : SessionKey) (entry : SessionEntry) (event : SessionEvent)
  (member : SessionParticipantRow) (participant : ParticipantRow)

theorem TimeTexts.read_ofOption (value : Option Value) :
    times.read (.ofOption value) = .ofOption (value.map times.read) :=
  Value.readBack_ofOption times.readDouble value

theorem integerMember_json (members : List (String × Value)) (key : String) :
    integerMember key (.json members) = (Value.member? members key).bind Value.asI64? := by
  rw [integerMember, Value.get?_json]

theorem stringMember_json (members : List (String × Value)) (key : String) :
    stringMember key (.json members) = (Value.member? members key).bind Value.asStr? := by
  rw [stringMember, Value.get?_json]

theorem index_json (members : List (String × Value)) (key : String) :
    (Value.json members).index key = (Value.member? members key).getD .null := by
  rw [Value.index, Value.get?_json]

@[simp] theorem sessionRow_session_id :
    integerMember "session_id" (times.sessionRow entry) = some entry.key.sessionId := by
  rw [TimeTexts.sessionRow, integerMember_json]
  rfl

@[simp] theorem sessionRow_dialogue_id :
    stringMember "dialogue_id" (times.sessionRow entry) = some entry.dialogueId := by
  rw [TimeTexts.sessionRow, stringMember_json]
  rfl

@[simp] theorem sessionRow_purpose :
    stringMember "purpose" (times.sessionRow entry) = some entry.store.row.purpose.asStr := by
  rw [TimeTexts.sessionRow, stringMember_json]
  rfl

@[simp] theorem sessionRow_started_at :
    (times.sessionRow entry).get? "started_at" =
      some (.ofOption (entry.store.row.startedAt.map times.value)) := by
  rw [TimeTexts.sessionRow, Value.get?_json]
  rfl

@[simp] theorem sessionRow_created_at :
    (times.sessionRow entry).get? "created_at" = some (times.value entry.store.row.createdAt) := by
  rw [TimeTexts.sessionRow, Value.get?_json]
  rfl

/-- The exporter asks for columns that the stored rows do not have under these names. -/
@[simp] theorem sessionRow_status : (times.sessionRow entry).get? "status" = none := by
  rw [TimeTexts.sessionRow, Value.get?_json]
  rfl

@[simp] theorem sessionRow_completed_at : (times.sessionRow entry).get? "completed_at" = none := by
  rw [TimeTexts.sessionRow, Value.get?_json]
  rfl

@[simp] theorem sessionRow_completion :
    (times.sessionRow entry).index "completion" =
      times.read (.ofOption entry.store.row.completion) := by
  rw [TimeTexts.sessionRow, index_json, TimeTexts.read_ofOption]
  rfl

@[simp] theorem eventRow_session_id :
    integerMember "session_id" (times.eventRow key event) = some key.sessionId := by
  rw [TimeTexts.eventRow, integerMember_json]
  rfl

@[simp] theorem eventRow_event_index :
    (times.eventRow key event).index "event_index" = .int event.eventIndex := by
  rw [TimeTexts.eventRow, index_json]
  rfl

@[simp] theorem eventRow_event_type :
    stringMember "event_type" (times.eventRow key event) = some event.eventType := by
  rw [TimeTexts.eventRow, stringMember_json]
  rfl

@[simp] theorem eventRow_actor :
    integerMember "actor_participant_id" (times.eventRow key event) =
      event.actorParticipantId := by
  rw [TimeTexts.eventRow, integerMember_json]
  cases event.actorParticipantId <;> rfl

@[simp] theorem eventRow_game_time_ms :
    integerMember "game_time_ms" (times.eventRow key event) = some event.gameTimeMs := by
  rw [TimeTexts.eventRow, integerMember_json]
  rfl

@[simp] theorem eventRow_payload :
    (times.eventRow key event).index "payload" = times.read event.payload := by
  rw [TimeTexts.eventRow, index_json]
  rfl

@[simp] theorem eventRow_game_state :
    (times.eventRow key event).index "game_state" = times.read (.ofOption event.gameState) := by
  rw [TimeTexts.eventRow, index_json, TimeTexts.read_ofOption]
  rfl

@[simp] theorem sessionParticipantRow_session_id :
    integerMember "session_id" (times.sessionParticipantRow key member) = some key.sessionId := by
  rw [TimeTexts.sessionParticipantRow, integerMember_json]
  rfl

@[simp] theorem sessionParticipantRow_participant_id :
    integerMember "participant_id" (times.sessionParticipantRow key member) =
      some member.participantId := by
  rw [TimeTexts.sessionParticipantRow, integerMember_json]
  rfl

@[simp] theorem participantRow_participant_id :
    integerMember "participant_id" (times.participantRow participant) =
      some participant.participantId := by
  rw [TimeTexts.participantRow, integerMember_json]
  rfl

@[simp] theorem participantRow_research_id :
    stringMember "research_id" (times.participantRow participant) =
      some participant.researchId := by
  rw [TimeTexts.participantRow, stringMember_json]
  rfl

end

namespace SessionEntry

def inCorpus (entry : SessionEntry) : Bool :=
  entry.store.row.purpose == .research && entry.store.row.startedAt.isSome

def semanticEvents (entry : SessionEntry) : List SessionEvent :=
  entry.store.eventsByIndex.filter fun event => isSemantic event.eventType

def speechTimings (entry : SessionEntry) : List Value :=
  (entry.store.eventsByIndex.filter fun event =>
    event.eventType == "conversation_speech_timing").map fun event => event.payload

end SessionEntry

namespace Database

variable {db : Database} {experimentId : String}

/-- The research sessions of an experiment that entered gameplay, in the order of their numbers. -/
def corpusSessions (db : Database) (experimentId : String) : List SessionEntry :=
  (db.sessionsOf experimentId).filter SessionEntry.inCorpus

theorem mem_sessionsOf {entry : SessionEntry} :
    entry ∈ db.sessionsOf experimentId ↔
      entry ∈ db.sessions ∧ entry.key.experimentId = experimentId := by
  rw [sessionsOf, List.mem_insertionSort, List.mem_filter, beq_iff_eq]

theorem mem_corpusSessions {entry : SessionEntry} :
    entry ∈ db.corpusSessions experimentId ↔
      (entry ∈ db.sessions ∧ entry.key.experimentId = experimentId) ∧ entry.inCorpus = true := by
  rw [corpusSessions, List.mem_filter, mem_sessionsOf]

theorem sessionsOf_unique (unique : Table.Unique SessionEntry.key db.sessions) :
    Table.Unique (fun entry => entry.key.sessionId) (db.sessionsOf experimentId) := by
  have rows : (db.sessions.filter fun entry => entry.key.experimentId == experimentId).Nodup :=
    (List.Nodup.of_map _ unique).filter _
  refine (List.perm_insertionSort _ _).nodup_iff.mpr rows |>.map_on fun a aMem b bMem same => ?_
  obtain ⟨aStored, aOf⟩ := mem_sessionsOf.mp aMem
  obtain ⟨bStored, bOf⟩ := mem_sessionsOf.mp bMem
  refine unique.eq aStored bStored ?_
  cases keyA : a.key
  cases keyB : b.key
  simp_all

end Database

/-- The rows an export projects: those of research sessions that entered gameplay. -/
def corpusGraph (times : TimeTexts) (db : Database) (experiment : ExperimentRow) : Value :=
  excludeUnstartedSessions (excludeTestingSessions (exportRows times db experiment))

section

variable (times : TimeTexts) (db : Database) (experiment : ExperimentRow)

theorem rows_exportRows_sessions : (exportRows times db experiment).rows "sessions" =
    (db.sessionsOf experiment.experimentId).map times.sessionRow := by
  rw [Value.rows, exportRows, Value.get?_json]
  rfl

theorem rows_exportRows_participants : (exportRows times db experiment).rows "participants" =
    (db.participantsOf experiment.experimentId).map times.participantRow := by
  rw [Value.rows, exportRows, Value.get?_json]
  rfl

theorem rows_exportRows_session_participants :
    (exportRows times db experiment).rows "session_participants" =
      (db.sessionsOf experiment.experimentId).flatMap fun entry =>
        entry.store.membersByRole.map (times.sessionParticipantRow entry.key) := by
  rw [Value.rows, exportRows, Value.get?_json]
  rfl

theorem rows_exportRows_session_events :
    (exportRows times db experiment).rows "session_events" =
      (db.sessionsOf experiment.experimentId).flatMap fun entry =>
        entry.store.eventsByIndex.map (times.eventRow entry.key) := by
  rw [Value.rows, exportRows, Value.get?_json]
  rfl

end

section

variable (v : Value)

def sessionIdsOf (v : Value) : List Int :=
  (v.rows "sessions").filterMap (integerMember "session_id")

theorem rows_filterScopedTablesToSessions {table : String}
    (inScope : table = "session_participants" ∨ table = "session_events") :
    (filterScopedTablesToSessions v).rows table =
      (v.rows table).filter (hasMemberIn "session_id" (sessionIdsOf v)) := by
  rcases inScope with rfl | rfl
  · rw [filterScopedTablesToSessions, Value.rows_retain, if_neg (by decide), Value.rows_retain,
      if_neg (by decide), Value.rows_retain, if_pos rfl, sessionIdsOf]
  · rw [filterScopedTablesToSessions, Value.rows_retain, if_neg (by decide), Value.rows_retain,
      if_pos rfl, Value.rows_retain, if_neg (by decide), sessionIdsOf]

theorem rows_filterScopedTablesToSessions_other {table : String}
    (members : table ≠ "session_participants") (events : table ≠ "session_events")
    (consents : table ≠ "consent_declarations") :
    (filterScopedTablesToSessions v).rows table = v.rows table := by
  rw [filterScopedTablesToSessions, Value.rows_retain, if_neg consents, Value.rows_retain,
    if_neg events, Value.rows_retain, if_neg members]

theorem rows_filterParticipantsToSessions (table : String) :
    (filterParticipantsToSessions v).rows table =
      if table = "participants" then (v.rows "participants").filter (hasMemberIn "participant_id"
        ((v.rows "session_participants").filterMap (integerMember "participant_id")))
      else v.rows table := by
  rw [filterParticipantsToSessions, Value.rows_retain]
  split
  · rename_i same
    rw [same]
  · rfl

theorem rows_excludeTestingSessions_sessions :
    (excludeTestingSessions v).rows "sessions" =
      (v.rows "sessions").filter fun row => stringMember "purpose" row != some "testing" := by
  rw [excludeTestingSessions, rows_filterParticipantsToSessions, if_neg (by decide),
    rows_filterScopedTablesToSessions_other _ (by decide) (by decide) (by decide),
    filterArrayByStringNotEqual, Value.rows_retain, if_neg (by decide),
    filterArrayByStringNotEqual, Value.rows_retain, if_pos rfl]

theorem rows_excludeUnstartedSessions_sessions :
    (excludeUnstartedSessions v).rows "sessions" =
      (v.rows "sessions").filter fun row => (stringMember "started_at" row).isSome := by
  rw [excludeUnstartedSessions, rows_filterParticipantsToSessions, if_neg (by decide),
    rows_filterScopedTablesToSessions_other _ (by decide) (by decide) (by decide),
    Value.rows_retain, if_pos rfl]

theorem rows_excludeTestingSessions {table : String}
    (inScope : table = "session_participants" ∨ table = "session_events") :
    (excludeTestingSessions v).rows table =
      (v.rows table).filter
        (hasMemberIn "session_id" (sessionIdsOf (excludeTestingSessions v))) := by
  have ids : sessionIdsOf (excludeTestingSessions v) = sessionIdsOf
      (filterArrayByStringNotEqual "consent_declarations" "purpose" "testing"
        (filterArrayByStringNotEqual "sessions" "purpose" "testing" v)) := by
    rw [sessionIdsOf, excludeTestingSessions, rows_filterParticipantsToSessions,
      if_neg (by decide),
      rows_filterScopedTablesToSessions_other _ (by decide) (by decide) (by decide)]
    rfl
  rw [ids, excludeTestingSessions, rows_filterParticipantsToSessions,
    if_neg (by rcases inScope with rfl | rfl <;> decide),
    rows_filterScopedTablesToSessions _ inScope, filterArrayByStringNotEqual, Value.rows_retain,
    if_neg (by rcases inScope with rfl | rfl <;> decide), filterArrayByStringNotEqual,
    Value.rows_retain, if_neg (by rcases inScope with rfl | rfl <;> decide)]

theorem rows_excludeUnstartedSessions {table : String}
    (inScope : table = "session_participants" ∨ table = "session_events") :
    (excludeUnstartedSessions v).rows table =
      (v.rows table).filter
        (hasMemberIn "session_id" (sessionIdsOf (excludeUnstartedSessions v))) := by
  have ids : sessionIdsOf (excludeUnstartedSessions v) = sessionIdsOf
      (v.retain "sessions" fun row => (stringMember "started_at" row).isSome) := by
    rw [sessionIdsOf, excludeUnstartedSessions, rows_filterParticipantsToSessions,
      if_neg (by decide),
      rows_filterScopedTablesToSessions_other _ (by decide) (by decide) (by decide)]
    rfl
  rw [ids, excludeUnstartedSessions, rows_filterParticipantsToSessions,
    if_neg (by rcases inScope with rfl | rfl <;> decide),
    rows_filterScopedTablesToSessions _ inScope, Value.rows_retain,
    if_neg (by rcases inScope with rfl | rfl <;> decide)]

end

section

variable (times : TimeTexts) {db : Database} (experiment : ExperimentRow)

theorem sessionRow_inCorpus (entry : SessionEntry) :
    (stringMember "purpose" (times.sessionRow entry) != some "testing" &&
      (stringMember "started_at" (times.sessionRow entry)).isSome) = entry.inCorpus := by
  rw [sessionRow_purpose, stringMember, sessionRow_started_at, SessionEntry.inCorpus]
  cases entry.store.row.purpose <;> cases entry.store.row.startedAt <;>
    simp [Purpose.asStr, Value.ofOption, TimeTexts.value, Value.asStr?]

theorem rows_corpusGraph_sessions : (corpusGraph times db experiment).rows "sessions" =
    (db.corpusSessions experiment.experimentId).map times.sessionRow := by
  rw [corpusGraph, rows_excludeUnstartedSessions_sessions, rows_excludeTestingSessions_sessions,
    rows_exportRows_sessions, List.filter_filter, List.filter_map, Database.corpusSessions]
  refine congrArg _ (List.filter_congr fun entry _ => ?_)
  simp only [Function.comp_apply]
  rw [Bool.and_comm, sessionRow_inCorpus times entry]

theorem sessionIdsOf_rows (sessions : List SessionEntry) :
    (sessions.map times.sessionRow).filterMap (integerMember "session_id") =
      sessions.map fun entry => entry.key.sessionId := by
  induction sessions with
  | nil => rfl
  | cons entry sessions ih =>
    rw [List.map_cons, List.filterMap_cons, sessionRow_session_id, ih, List.map_cons]

theorem hasMemberIn_iff {key : String} {ids : List Int} {row : Value} {id : Int}
    (has : integerMember key row = some id) : hasMemberIn key ids row = true ↔ id ∈ ids := by
  rw [hasMemberIn, has, Option.any_some, List.contains_iff_mem]

/-- A corpus session keeps the rows it has in the export. -/
theorem rowsOfSession_corpusGraph {entry : SessionEntry}
    (mem : entry ∈ db.corpusSessions experiment.experimentId) {table : String}
    (inScope : table = "session_participants" ∨ table = "session_events") :
    rowsOfSession (corpusGraph times db experiment) table entry.key.sessionId =
      rowsOfSession (exportRows times db experiment) table entry.key.sessionId := by
  have started : entry.key.sessionId ∈ sessionIdsOf (corpusGraph times db experiment) := by
    rw [sessionIdsOf, rows_corpusGraph_sessions, sessionIdsOf_rows]
    exact List.mem_map_of_mem mem
  have research : entry.key.sessionId ∈
      sessionIdsOf (excludeTestingSessions (exportRows times db experiment)) := by
    obtain ⟨stored, corpus⟩ := List.mem_filter.mp mem
    rw [← sessionRow_inCorpus times entry, Bool.and_eq_true] at corpus
    refine List.mem_filterMap.mpr ⟨times.sessionRow entry, ?_, sessionRow_session_id times entry⟩
    rw [rows_excludeTestingSessions_sessions, rows_exportRows_sessions]
    exact List.mem_filter.mpr ⟨List.mem_map_of_mem stored, corpus.1⟩
  rw [corpusGraph] at started
  rw [rowsOfSession, rowsOfSession, corpusGraph, rows_excludeUnstartedSessions _ inScope,
    rows_excludeTestingSessions _ inScope, List.filter_filter, List.filter_filter]
  refine List.filter_congr fun row _ => ?_
  by_cases here : integerMember "session_id" row = some entry.key.sessionId
  · rw [(hasMemberIn_iff here).mpr started, (hasMemberIn_iff here).mpr research]
    simp
  · have other : (integerMember "session_id" row == some entry.key.sessionId) = false := by
      simpa using here
    rw [other, Bool.false_and, Bool.false_and]

/-- The events a corpus session is projected from are its own, in the order of their index. -/
theorem eventRows_corpusGraph (unique : Table.Unique SessionEntry.key db.sessions)
    {entry : SessionEntry} (mem : entry ∈ db.corpusSessions experiment.experimentId) :
    rowsOfSession (corpusGraph times db experiment) "session_events" entry.key.sessionId =
      entry.store.eventsByIndex.map (times.eventRow entry.key) := by
  rw [rowsOfSession_corpusGraph times experiment mem (.inr rfl), rowsOfSession,
    rows_exportRows_session_events]
  refine Table.filter_flatMap_eq (Database.sessionsOf_unique unique) ?_ (List.mem_of_mem_filter mem)
  intro other _ row rowMem
  obtain ⟨event, -, rfl⟩ := List.mem_map.mp rowMem
  exact eventRow_session_id times other.key event

theorem memberRows_corpusGraph (unique : Table.Unique SessionEntry.key db.sessions)
    {entry : SessionEntry} (mem : entry ∈ db.corpusSessions experiment.experimentId) :
    rowsOfSession (corpusGraph times db experiment) "session_participants" entry.key.sessionId =
      entry.store.membersByRole.map (times.sessionParticipantRow entry.key) := by
  rw [rowsOfSession_corpusGraph times experiment mem (.inl rfl), rowsOfSession,
    rows_exportRows_session_participants]
  refine Table.filter_flatMap_eq (Database.sessionsOf_unique unique) ?_ (List.mem_of_mem_filter mem)
  intro other _ row rowMem
  obtain ⟨member, -, rfl⟩ := List.mem_map.mp rowMem
  exact sessionParticipantRow_session_id times other.key member

theorem required_ok {α : Type} {value : Option α} {message : String} {a : α}
    (h : required value message = .ok a) : value = some a :=
  orError_ok h

theorem semanticRows_map (key : SessionKey) (events : List SessionEvent) :
    semanticRows (events.map (times.eventRow key)) =
      (events.filter fun event => isSemantic event.eventType).map (times.eventRow key) := by
  rw [semanticRows, List.filter_map]
  refine congrArg _ (List.filter_congr fun event _ => ?_)
  rw [Function.comp_apply, eventRow_event_type, Option.any_some]

def SessionEntry.context (entry : SessionEntry) (times : TimeTexts)
    (participantIds : Map Int String) : SessionContext where
  sessionId := entry.dialogueId
  participantIds
  speechTimings := entry.speechTimings.map times.read

theorem speechTimings_map (entry : SessionEntry) :
    ((entry.store.eventsByIndex.map (times.eventRow entry.key)).filter fun row =>
      stringMember "event_type" row == some "conversation_speech_timing").map
        (·.index "payload") = entry.speechTimings.map times.read := by
  rw [List.filter_map, List.map_map, SessionEntry.speechTimings, List.map_map]
  have types : (fun row => stringMember "event_type" row == some "conversation_speech_timing") ∘
      times.eventRow entry.key = fun event => event.eventType == "conversation_speech_timing" := by
    funext event
    rw [Function.comp_apply, eventRow_event_type]
    rfl
  rw [types]
  refine List.map_congr_left fun event _ => ?_
  rw [Function.comp_apply, eventRow_payload, Function.comp_apply]

theorem optionalTimestampMs_ofOption (label : String) (t : Option Timestamp) :
    optionalTimestampMs times (some (.ofOption (t.map times.value))) label =
      .ok (t.map Timestamp.millis) := by
  cases t with
  | none => rfl
  | some t =>
    change (required (((times.parse (times.format t))).map Timestamp.millis) _).map some = _
    rw [times.parse_format]
    rfl

theorem requiredTimestampMs_value (label : String) (t : Timestamp) :
    requiredTimestampMs times (some (times.value t)) label = .ok t.millis := by
  change required (((times.parse (times.format t))).map Timestamp.millis) _ = _
  rw [times.parse_format]
  rfl

/-- What one session of the corpus says about its row, and how its events and assignments come about. -/
theorem projectSession_ok (unique : Table.Unique SessionEntry.key db.sessions)
    {entry : SessionEntry} (mem : entry ∈ db.corpusSessions experiment.experimentId)
    {participantIds : Map Int String} {session : Value}
    (projected : projectSession times (corpusGraph times db experiment) participantIds
      (times.sessionRow entry) = .ok session) :
    ∃ assignments events,
      session = sessionDocument (times.sessionRow entry) entry.dialogueId
        (entry.store.row.startedAt.map fun startedAt =>
          startedAt.millis - entry.store.row.createdAt.millis) none assignments events ∧
      List.Forall₂ (fun event document => (entry.context times participantIds).projectEvent
        (times.eventRow entry.key event) = .ok document) entry.semanticEvents events ∧
      List.Forall₂ (fun member document => projectAssignment participantIds
        (times.sessionParticipantRow entry.key member) = .ok document)
          entry.store.membersByRole assignments ∧ assignments.length = 2 := by
  unfold projectSession at projected
  obtain ⟨internalId, number, projected⟩ := Except.of_bind_ok projected
  obtain ⟨sessionId, name, projected⟩ := Except.of_bind_ok projected
  obtain ⟨assignments, assigned, projected⟩ := Except.of_bind_ok projected
  obtain ⟨two, projected⟩ := Except.of_check_ok projected
  obtain ⟨startedAt, started, projected⟩ := Except.of_bind_ok projected
  obtain ⟨createdAt, created, projected⟩ := Except.of_bind_ok projected
  obtain ⟨completedAt, completed, projected⟩ := Except.of_bind_ok projected
  obtain ⟨events, mapped, projected⟩ := Except.of_bind_ok projected
  obtain ⟨timeToStart, interval, projected⟩ := Except.of_bind_ok projected
  obtain ⟨duration, none, projected⟩ := Except.of_bind_ok projected
  cases projected
  have here : internalId = entry.key.sessionId := by
    simpa using (required_ok number).symm
  subst here
  have named : sessionId = entry.dialogueId := by
    have found := required_ok name
    rw [sessionRow_dialogue_id] at found
    exact (Option.some.inj (Option.filter_eq_some_iff.mp found).1).symm
  subst named
  rw [sessionRow_started_at, optionalTimestampMs_ofOption] at started
  rw [sessionRow_created_at, requiredTimestampMs_value] at created
  rw [sessionRow_completed_at] at completed
  cases started
  cases created
  cases completed
  cases none
  rw [eventRows_corpusGraph times experiment unique mem, semanticRows_map, speechTimings_map]
    at mapped
  rw [memberRows_corpusGraph times experiment unique mem] at assigned
  refine ⟨assignments, events, ?_, ?_,
    List.forall₂_map_left_iff.mp (Except.forall₂_of_mapM_ok assigned), by simpa using two⟩
  · cases start : entry.store.row.startedAt with
    | none =>
      rw [start] at interval
      cases interval
      rfl
    | some startedAt =>
      rw [start] at interval
      change (checkedInterval _ _ _ _).map some = .ok timeToStart at interval
      unfold checkedInterval at interval
      split at interval <;> cases interval
      rfl
  · exact List.forall₂_map_left_iff.mp (Except.forall₂_of_mapM_ok mapped)

end

end Parlando
