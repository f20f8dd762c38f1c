import Parlando.Proofs.ClosedCorpus
import Parlando.Proofs.MessageTokens
import Parlando.Proofs.RuntimeStore

namespace Parlando

open Concurrency

variable {members : List SessionParticipantRow} {record : SessionEventRecord} {clock : Timestamp}

namespace SessionEvent

/-- The event is no older than the game, and its tokens do not begin before it. -/
def InGame (timings : List Value) (event : SessionEvent) : Prop :=
  0 ≤ event.gameTimeMs ∧ (event.eventType = "conversation_message" →
    ∀ tokens, messageTokens timings event.payload = some tokens → TokensInGame tokens)

end SessionEvent

/-- Every semantic event of the session lies in its game. -/
def SessionEntry.InGame (entry : SessionEntry) : Prop :=
  ∀ event ∈ entry.semanticEvents, event.InGame entry.speechTimings

variable {entry : SessionEntry} {event : SessionEvent} {names : Map Int String}

theorem exportTokenField_iff {tokens : Option Value}
    (shaped : ∀ value, tokens = some value → TokensShaped value) :
    (∃ fields, exportTokenField tokens = .ok fields) ↔
      ∀ value, tokens = some value → TokensInGame value := by
  cases tokens with
  | none =>
    constructor
    · intro _ value found
      cases found
    · exact fun _ => ⟨[], rfl⟩
  | some value =>
    have tokensOk := exportTranscriptTokens_iff (shaped value rfl)
    constructor
    · intro ⟨fields, h⟩ other same
      cases same
      obtain ⟨doc, h, -⟩ := Except.of_bind_ok h
      exact tokensOk.mp ⟨doc, h⟩
    · intro inGame
      obtain ⟨doc, h⟩ := tokensOk.mpr (inGame value rfl)
      exact ⟨[("tokens", doc)], by rw [exportTokenField, h]; rfl⟩

theorem projectMessage_iff {row : Value} {context : SessionContext} {gameTimeMs : Int}
    {name : String} (actor : context.actor row = some name)
    (shaped : ∀ value, messageTokens context.speechTimings (row.index "payload") = some value →
      TokensShaped value) :
    (∃ doc, context.projectMessage row gameTimeMs = .ok doc) ↔
      ∀ value, messageTokens context.speechTimings (row.index "payload") = some value →
        TokensInGame value := by
  have fields := exportTokenField_iff shaped
  unfold messageTokens at fields
  constructor
  · intro ⟨doc, h⟩
    unfold SessionContext.projectMessage at h
    simp only at h
    obtain ⟨participant, -, h⟩ := Except.of_bind_ok h
    obtain ⟨tokens, h, -⟩ := Except.of_bind_ok h
    exact fields.mp ⟨tokens, h⟩
  · intro inGame
    obtain ⟨tokens, h⟩ := fields.mpr inGame
    unfold SessionContext.projectMessage
    simp only [required_some actor, h, bind, Except.bind]
    exact ⟨_, rfl⟩

/-- One event is projected exactly where it lies in the game. -/
theorem projectEvent_iff (times : TimeTexts)
    (actor : event.eventType ≠ "log" → ∃ id name, event.actorParticipantId = some id ∧
      names.lookup id = some name)
    (shaped : event.eventType = "conversation_message" → ∀ value,
      messageTokens entry.speechTimings event.payload = some value → TokensShaped value) :
    (∃ doc, (entry.context times names).projectEvent (times.eventRow entry.key event) = .ok doc) ↔
      event.InGame entry.speechTimings := by
  have acted (other : event.eventType ≠ "log") : ∃ name,
      (entry.context times names).actor (times.eventRow entry.key event) = some name := by
    obtain ⟨id, name, is, listed⟩ := actor other
    refine ⟨name, ?_⟩
    rw [SessionContext.actor, eventRow_actor, is]
    exact listed
  have time : ∀ doc, (entry.context times names).projectEvent (times.eventRow entry.key event) =
      .ok doc → 0 ≤ event.gameTimeMs := by
    intro doc h
    unfold SessionContext.projectEvent at h
    obtain ⟨gameTimeMs, valid, -⟩ := Except.of_bind_ok h
    obtain ⟨found, valid⟩ := of_required_filter valid
    rw [eventRow_game_time_ms] at found
    cases found
    exact of_decide_eq_true valid
  have projected (inGame : 0 ≤ event.gameTimeMs) :
      (entry.context times names).projectEvent (times.eventRow entry.key event) =
        if event.eventType = "game_action_accepted" then
          (entry.context times names).projectAction (times.eventRow entry.key event) event.gameTimeMs
        else if event.eventType = "conversation_message" then
          (entry.context times names).projectMessage (times.eventRow entry.key event) event.gameTimeMs
        else .ok ((entry.context times names).projectLog (times.eventRow entry.key event)
          event.gameTimeMs) := by
    have valid : ((integerMember "game_time_ms" (times.eventRow entry.key event)).filter
        fun value => decide (0 ≤ value)) = some event.gameTimeMs :=
      filter_of_some (eventRow_game_time_ms times entry.key event) (decide_eq_true inGame)
    simp only [SessionContext.projectEvent, required_some valid, bind, Except.bind,
      eventRow_event_type, beq_iff_eq, Option.some.injEq]
    rfl
  unfold SessionEvent.InGame
  by_cases inGame : 0 ≤ event.gameTimeMs
  · rw [projected inGame]
    by_cases action : event.eventType = "game_action_accepted"
    · obtain ⟨name, acted⟩ := acted (by rw [action]; decide)
      rw [if_pos action]
      refine ⟨fun _ => ⟨inGame, fun message => ?_⟩, fun _ => ?_⟩
      · exact absurd (action.symm.trans message) (by decide)
      · simp only [SessionContext.projectAction, required_some acted, bind, Except.bind]
        exact ⟨_, rfl⟩
    · rw [if_neg action]
      by_cases message : event.eventType = "conversation_message"
      · obtain ⟨name, acted⟩ := acted (by rw [message]; decide)
        have tokens : messageTokens (entry.context times names).speechTimings
            ((times.eventRow entry.key event).index "payload") =
              (messageTokens entry.speechTimings event.payload).map times.read := by
          rw [eventRow_payload]
          exact messageTokens_read times entry.speechTimings event.payload
        have tokensShaped : ∀ value, messageTokens (entry.context times names).speechTimings
            ((times.eventRow entry.key event).index "payload") = some value →
              TokensShaped value := by
          intro value found
          rw [tokens] at found
          obtain ⟨own, given, rfl⟩ := Option.map_eq_some_iff.mp found
          exact (shaped message own given).read times
        rw [if_pos message, projectMessage_iff acted tokensShaped, tokens]
        constructor
        · intro each
          refine ⟨inGame, fun _ own given => ?_⟩
          exact (tokensInGame_read times own).mp (each _ (Option.map_eq_some_iff.mpr ⟨own, given, rfl⟩))
        · intro both value found
          obtain ⟨own, given, rfl⟩ := Option.map_eq_some_iff.mp found
          exact (tokensInGame_read times own).mpr (both.2 message own given)
      · rw [if_neg message]
        exact ⟨fun _ => ⟨inGame, fun here => absurd here message⟩, fun _ => ⟨_, rfl⟩⟩
  · exact ⟨fun ⟨doc, h⟩ => absurd (time doc h) inGame, fun both => absurd both.1 inGame⟩

theorem actedBy_of_record (written : RuntimeRecord members record)
    (semantic : isSemantic record.eventType = true) (notLog : record.eventType ≠ "log") :
    ActedBy members record := by
  cases written with
  | action kind actor | message kind actor | transcript kind actor => exact actor
  | speechTiming kind =>
    rw [kind] at semantic
    exact absurd semantic (by decide)
  | log kind => exact absurd kind notLog
  | other kind =>
    rw [kind] at semantic
    cases semantic

theorem timingPayload_of_record (written : RuntimeRecord members record)
    (timing : record.eventType = "conversation_speech_timing") : TimingPayload record.payload := by
  cases written with
  | speechTiming kind isAlphanumeric characters originMs messageId summary payload =>
    exact ⟨isAlphanumeric, characters, originMs, messageId, summary, payload⟩
  | action kind | message kind | transcript kind | log kind =>
    exact absurd (timing.symm.trans kind) (by decide)
  | other kind notTiming => exact absurd timing notTiming

section

variable {db : Database} {experimentId : String} (times : TimeTexts) (experiment : ExperimentRow)

def KnowsMembers (names : Map Int String) (entry : SessionEntry) : Prop :=
  ∀ member ∈ entry.store.members, ∃ name, names.lookup member.participantId = some name

/-- A session of two members is projected exactly where its semantic events lie in its game. -/
theorem projectSession_iff (unique : Table.Unique SessionEntry.key db.sessions)
    (mem : entry ∈ db.corpusSessions experiment.experimentId)
    (ok : entry.store.Exportable clock) (named : entry.dialogueId ≠ "")
    (two : entry.store.members.length = 2) (known : KnowsMembers names entry) :
    (∃ session, projectSession times (corpusGraph times db experiment) names
      (times.sessionRow entry) = .ok session) ↔ entry.InGame := by
  have timings : ∀ timing ∈ entry.speechTimings, TimingPayload timing := by
    intro timing timingMem
    obtain ⟨event, eventMem, rfl⟩ := List.mem_map.mp timingMem
    obtain ⟨stored, isTiming⟩ := List.mem_filter.mp eventMem
    have written := ok.written event ((List.mem_insertionSort _).mp stored)
    exact timingPayload_of_record written (beq_iff_eq.mp isTiming)
  have eventIff : ∀ event ∈ entry.semanticEvents, (∃ doc, (entry.context times names).projectEvent
      (times.eventRow entry.key event) = .ok doc) ↔ event.InGame entry.speechTimings := by
    intro event eventMem
    obtain ⟨stored, semantic⟩ := List.mem_filter.mp eventMem
    have written := ok.written event ((List.mem_insertionSort _).mp stored)
    refine projectEvent_iff times ?_ ?_
    · intro notLog
      obtain ⟨member, memberMem, actor⟩ := actedBy_of_record written semantic notLog
      obtain ⟨name, listed⟩ := known member memberMem
      exact ⟨_, name, actor, listed⟩
    · intro message value found
      exact tokensShaped_messageTokens written message timings found
  constructor
  · intro ⟨session, h⟩ event eventMem
    obtain ⟨assignments, events, -, projected, -⟩ :=
      projectSession_ok times experiment unique mem h
    obtain ⟨doc, -, image⟩ := forall₂_mem_right projected.flip eventMem
    exact (eventIff event eventMem).mp ⟨doc, image⟩
  · intro inGame
    have number : integerMember "session_id" (times.sessionRow entry) = some entry.key.sessionId :=
      sessionRow_session_id times entry
    have name : ((stringMember "dialogue_id" (times.sessionRow entry)).filter fun id =>
        !id.toList.isEmpty) = some entry.dialogueId :=
      filter_of_some (sessionRow_dialogue_id times entry) (by simpa using named)
    have assign : ∀ row ∈ entry.store.membersByRole.map (times.sessionParticipantRow entry.key),
        ∃ document, projectAssignment names row = .ok document := by
      intro row rowMem
      obtain ⟨member, memberMem, rfl⟩ := List.mem_map.mp rowMem
      obtain ⟨name, listed⟩ := known member ((List.mem_insertionSort _).mp memberMem)
      have found : ((integerMember "participant_id" (times.sessionParticipantRow entry.key
          member)).bind names.lookup) = some name := by
        rw [sessionParticipantRow_participant_id]
        exact listed
      exact ⟨_, by rw [projectAssignment, required_some found]; rfl⟩
    obtain ⟨assignments, assigned⟩ := Except.mapM_total assign
    have count : assignments.length = 2 := by
      have same := (Except.forall₂_of_mapM_ok assigned).length_eq
      rw [List.length_map, SessionStore.membersByRole, List.length_insertionSort, two] at same
      exact same.symm
    have project : ∀ row ∈ entry.semanticEvents.map (times.eventRow entry.key),
        ∃ document, (entry.context times names).projectEvent row = .ok document := by
      intro row rowMem
      obtain ⟨event, eventMem, rfl⟩ := List.mem_map.mp rowMem
      exact (eventIff event eventMem).mpr (inGame event eventMem)
    obtain ⟨events, projected⟩ := Except.mapM_total project
    have timeToStart : ∃ interval, optionalInterval
        (entry.store.row.startedAt.map Timestamp.millis) (some entry.store.row.createdAt.millis)
        entry.dialogueId "time to start" = .ok interval := by
      cases started : entry.store.row.startedAt with
      | none => exact ⟨none, rfl⟩
      | some startedAt =>
        have le : entry.store.row.createdAt.millis ≤ startedAt.millis :=
          Int.ediv_le_ediv (by decide) (ok.started startedAt started)
        refine ⟨some (startedAt.millis - entry.store.row.createdAt.millis), ?_⟩
        rw [Option.map_some, optionalInterval, checkedInterval, if_pos le]
        rfl
    obtain ⟨interval, timeToStart⟩ := timeToStart
    simp only [projectSession, required_some number, required_some name, bind, Except.bind,
      memberRows_corpusGraph times experiment unique mem, assigned, count, bne_self_eq_false,
      Bool.false_eq_true, if_false, sessionRow_started_at, sessionRow_created_at,
      sessionRow_completed_at, optionalTimestampMs_ofOption, requiredTimestampMs_value,
      eventRows_corpusGraph times experiment unique mem, semanticRows_map, speechTimings_map]
    have completion : optionalTimestampMs times none "session completion" = .ok none := rfl
    have documents : ((entry.store.eventsByIndex.filter fun event =>
        isSemantic event.eventType).map (times.eventRow entry.key)).mapM
          (SessionContext.projectEvent
            ⟨entry.dialogueId, names, entry.speechTimings.map times.read⟩) =
            .ok events := projected
    simp only [completion, documents, timeToStart]
    exact ⟨_, rfl⟩

def HasTable (v : Value) (table : String) : Prop := ∃ rows, v.get? table = some (.array rows)

theorem HasTable.array {v : Value} {table : String} (has : HasTable v table) :
    (v.get? table).bind Value.asArray? = some (v.rows table) := by
  obtain ⟨rows, found⟩ := has
  rw [Value.rows, found]
  rfl

theorem HasTable.retain {v : Value} {table : String} (has : HasTable v table) (other : String)
    (keep : Value → Bool) : HasTable (v.retain other keep) table := by
  obtain ⟨rows, found⟩ := has
  rw [HasTable, Value.get?_retain, found]
  split
  · exact ⟨rows.filter keep, rfl⟩
  · exact ⟨rows, rfl⟩

theorem HasTable.scoped {v : Value} {table : String} (has : HasTable v table) :
    HasTable (filterParticipantsToSessions (filterScopedTablesToSessions v)) table :=
  (((has.retain _ _).retain _ _).retain _ _).retain _ _

theorem HasTable.corpusGraph {table : String} (has : HasTable (exportRows times db experiment) table) :
    HasTable (corpusGraph times db experiment) table :=
  (((has.retain _ _).retain _ _).scoped.retain _ _).scoped

theorem get?_experiment_scoped (v : Value) :
    (filterParticipantsToSessions (filterScopedTablesToSessions v)).get? "experiment" =
      v.get? "experiment" := by
  rw [filterParticipantsToSessions, Value.get?_retain, if_neg (by decide),
    filterScopedTablesToSessions, Value.get?_retain, if_neg (by decide), Value.get?_retain,
    if_neg (by decide), Value.get?_retain, if_neg (by decide)]

theorem get?_experiment_corpusGraph :
    (corpusGraph times db experiment).get? "experiment" =
      some (times.experimentRow experiment) := by
  rw [corpusGraph, excludeUnstartedSessions, get?_experiment_scoped, Value.get?_retain,
    if_neg (by decide), excludeTestingSessions, get?_experiment_scoped,
    filterArrayByStringNotEqual, Value.get?_retain, if_neg (by decide),
    filterArrayByStringNotEqual, Value.get?_retain, if_neg (by decide), exportRows,
    Value.get?_json]
  rfl

theorem mem_participantIdsOf_corpusGraph (unique : Table.Unique SessionEntry.key db.sessions)
    {id : Int} (listed : db.InCorpus experiment.experimentId id) :
    id ∈ participantIdsOf (corpusGraph times db experiment) := by
  obtain ⟨entry, mem, member, memberMem, rfl⟩ := listed
  have own : times.sessionParticipantRow entry.key member ∈
      rowsOfSession (corpusGraph times db experiment) "session_participants" entry.key.sessionId := by
    rw [memberRows_corpusGraph times experiment unique mem]
    exact List.mem_map_of_mem ((List.mem_insertionSort _).mpr memberMem)
  rw [rowsOfSession] at own
  have left := (List.mem_filter.mp own).1
  have number := sessionParticipantRow_participant_id times entry.key member
  rw [participantIdsOf]
  exact List.mem_filterMap.mpr ⟨_, left, number⟩

/-- A participant of the corpus is in the catalogue. -/
theorem mem_rows_corpusGraph_participants (unique : Table.Unique SessionEntry.key db.sessions)
    {row : ParticipantRow} (stored : row ∈ db.participants)
    (listed : db.InCorpus experiment.experimentId row.participantId) :
    times.participantRow row ∈ (corpusGraph times db experiment).rows "participants" := by
  have number := participantRow_participant_id times row
  have left := mem_participantIdsOf_corpusGraph times experiment unique listed
  have tested : row.participantId ∈
      participantIdsOf (excludeTestingSessions (exportRows times db experiment)) := by
    obtain ⟨member, memberMem, found⟩ := List.mem_filterMap.mp left
    rw [corpusGraph, rows_excludeUnstartedSessions _ (.inl rfl)] at memberMem
    exact List.mem_filterMap.mpr ⟨member, List.mem_of_mem_filter memberMem, found⟩
  have exported : times.participantRow row ∈
      (exportRows times db experiment).rows "participants" := by
    rw [rows_exportRows_participants]
    refine List.mem_map_of_mem ((List.mem_insertionSort _).mpr (List.mem_filter.mpr ⟨stored, ?_⟩))
    obtain ⟨entry, mem, member, memberMem, same⟩ := listed
    exact List.any_eq_true.mpr ⟨entry, List.mem_of_mem_filter mem,
      List.any_eq_true.mpr ⟨member, memberMem, beq_iff_eq.mpr same⟩⟩
  have inScope : ∀ v, (filterScopedTablesToSessions v).rows "participants" =
      v.rows "participants" :=
    fun v => rows_filterScopedTablesToSessions_other v (by decide) (by decide) (by decide)
  rw [corpusGraph, excludeUnstartedSessions] at left ⊢
  rw [rows_participants_filterParticipantsToSessions, inScope, Value.rows_retain,
    if_neg (by decide)]
  refine List.mem_filter.mpr ⟨?_, (hasMemberIn_iff number).mpr left⟩
  rw [excludeTestingSessions] at tested ⊢
  rw [rows_participants_filterParticipantsToSessions, inScope, filterArrayByStringNotEqual,
    Value.rows_retain, if_neg (by decide), filterArrayByStringNotEqual, Value.rows_retain,
    if_neg (by decide)]
  exact List.mem_filter.mpr ⟨exported, (hasMemberIn_iff number).mpr tested⟩

end

theorem publicNames_lookup {projected : List (Int × String × Value)} {id : Int}
    (mem : ∃ participant ∈ projected, participant.1 = id) :
    ∃ name, (publicNames projected).lookup id = some name := by
  have fold : ∀ {projected : List (Int × String × Value)} {names : Map Int String},
      ((∃ participant ∈ projected, participant.1 = id) ∨ ∃ name, names.lookup id = some name) →
      ∃ name, (projected.foldl (fun ids participant =>
        AList.insert participant.1 participant.2.1 ids) names).lookup id = some name := by
    intro projected
    induction projected with
    | nil =>
      intro names known
      rcases known with ⟨participant, mem, -⟩ | known
      · cases mem
      · exact known
    | cons participant projected ih =>
      intro names known
      refine ih ?_
      rw [Map.lookup_insert_eq]
      split
      · exact .inr ⟨_, rfl⟩
      · rename_i other
        rcases known with ⟨here, mem, same⟩ | known
        · rcases List.mem_cons.mp mem with rfl | later
          · exact absurd same.symm other
          · exact .inl ⟨here, later, same⟩
        · exact .inr known
  exact fold (.inl mem)

theorem projectParticipant_total (times : TimeTexts) {row : ParticipantRow}
    (named : row.researchId ≠ "") :
    ∃ projected, projectParticipant (times.participantRow row) = .ok projected := by
  have number := participantRow_participant_id times row
  have name : ((stringMember "research_id" (times.participantRow row)).filter fun id =>
      !id.toList.isEmpty) = some row.researchId :=
    filter_of_some (participantRow_research_id times row) (by simpa using named)
  simp only [projectParticipant, required_some number, required_some name, bind, Except.bind]
  exact ⟨_, rfl⟩

/-- Both participants of every started session are stored. -/
def Database.BothPersisted (db : Database) : Prop :=
  ∀ entry ∈ db.sessions, entry.store.row.startedAt.isSome = true →
    entry.store.members.length = 2 ∧
      ∀ member ∈ entry.store.members, db.hasParticipant member.participantId = true

section

variable (times : TimeTexts) {db : Database} {experiment : ExperimentRow}
  {projected : List (Int × String × Value)}

def exportedTables : List String :=
  ["participants", "session_participants", "session_events", "sessions"]

theorem exportRows_hasTable (db : Database) (experiment : ExperimentRow) {name : String}
    (listed : name ∈ exportedTables) : HasTable (exportRows times db experiment) name := by
  simp only [exportedTables, List.mem_cons, List.not_mem_nil, or_false] at listed
  rcases listed with rfl | rfl | rfl | rfl
  all_goals
    rw [HasTable, exportRows, Value.get?_json]
    exact ⟨_, rfl⟩

/-- The catalogue names the members of every session of the corpus. -/
theorem knowsMembers (unique : Table.Unique SessionEntry.key db.sessions)
    (both : db.BothPersisted)
    (catalogue : List.Forall₂ (fun row participant => projectParticipant row = .ok participant)
      ((corpusGraph times db experiment).rows "participants") projected)
    {entry : SessionEntry} (mem : entry ∈ db.corpusSessions experiment.experimentId) :
    KnowsMembers (publicNames projected) entry := by
  intro member memberMem
  obtain ⟨⟨stored, -⟩, corpus⟩ := Database.mem_corpusSessions.mp mem
  have started := (Bool.and_eq_true_iff.mp corpus).2
  obtain ⟨row, rowMem, same⟩ := List.any_eq_true.mp ((both entry stored started).2 member memberMem)
  have same := beq_iff_eq.mp same
  have listed : db.InCorpus experiment.experimentId row.participantId :=
    ⟨entry, mem, member, memberMem, same.symm⟩
  have exported := mem_rows_corpusGraph_participants times experiment unique rowMem listed
  obtain ⟨participant, participantMem, is⟩ := forall₂_mem_right catalogue.flip exported
  refine publicNames_lookup ⟨participant, participantMem, ?_⟩
  exact (projectParticipant_ok is).1.trans same

end

instance (db : Database) : Decidable db.BothPersisted :=
  inferInstanceAs (Decidable (∀ entry ∈ db.sessions, entry.store.row.startedAt.isSome = true →
    entry.store.members.length = 2 ∧
      ∀ member ∈ entry.store.members, db.hasParticipant member.participantId = true))

def formedOperations : List Operation :=
  let person : ParticipantRecord := ⟨"exp", "human", "direct", none, .null⟩
  let key : SessionKey := ⟨"exp", 1⟩
  [.createSession ⟨"exp", "s_1", "human_vs_human", .forming, "research", 600, 3600, 1, "1.0.0"⟩
      ["blue-fox"] (Timestamp.seconds 1),
    .upsertParticipant person ["calm-otter"] (Timestamp.seconds 1),
    .upsertParticipant person ["red-owl"] (Timestamp.seconds 1),
    .addSessionParticipant key { exportedMember 1 .A with joinedAt := Timestamp.seconds 1 },
    .addSessionParticipant key { exportedMember 2 .B with joinedAt := Timestamp.seconds 1 }]

def gameLog (now : Timestamp) : Operation :=
  .appendSessionEvent ⟨"exp", 1⟩ ⟨"log", none, none,
    .object [("source", .string "game"), ("text", .string "dealt")], none⟩ now

def startOperations : List Operation :=
  [.completeSessionInitialization ⟨"exp", 1⟩,
    .startSession ⟨"exp", 1⟩ (Timestamp.seconds 3) (Timestamp.seconds 600)]

def exports (db : Database) : Bool :=
  (corpusExperimentExport epochTimes (excludeTestingSessions
    (exportRows epochTimes db ⟨"exp", "1.0.0", .object [], 1, "inactive"⟩)) "1").toBool

theorem exports_iff (db : Database) : exports db = true ↔
    ∃ doc, corpusExperimentExport epochTimes (excludeTestingSessions
      (exportRows epochTimes db ⟨"exp", "1.0.0", .object [], 1, "inactive"⟩)) "1" = .ok doc := by
  unfold exports
  generalize corpusExperimentExport epochTimes _ "1" = exported
  cases exported <;> simp [Except.toBool]

theorem ofRuntime_log : ∀ operation ∈ formedOperations ++ [gameLog (Timestamp.seconds 2)] ++
    startOperations ++ [gameLog (Timestamp.seconds 4)], ∀ s : ClockedStore,
      operation.OfRuntime s.database := by
  intro operation mem s
  simp only [formedOperations, startOperations, List.cons_append, List.nil_append, List.mem_cons,
    List.not_mem_nil, or_false] at mem
  rcases mem with rfl | rfl | rfl | rfl | rfl | rfl | rfl | rfl | rfl
  all_goals
    constructor
    · simp [Operation.identifiers, gameLog]
    · intro event mem entry found
      simp only [Operation.records, gameLog, List.mem_singleton, List.not_mem_nil] at mem
      try
        subst mem
        exact .log rfl

end Parlando
