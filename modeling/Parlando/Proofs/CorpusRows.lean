import Parlando.Proofs.Corpus

namespace Parlando

def SessionEvent.kind (event : SessionEvent) : String :=
  if event.eventType = "game_action_accepted" then "action"
  else if event.eventType = "conversation_message" then "message"
  else "log"

structure EventAgrees (event : SessionEvent) (document : Value) : Prop where
  index : document.index "index" = .int event.eventIndex
  kind : document.index "kind" = .string event.kind
  gameTime : document.index "game_time_ms" = .int event.gameTimeMs

section

variable {context : SessionContext} {times : TimeTexts} {key : SessionKey} {event : SessionEvent}
  {document : Value}

theorem projectAction_ok {row : Value} {gameTimeMs : Int}
    (projected : context.projectAction row gameTimeMs = .ok document) :
    document.index "index" = row.index "event_index" ∧ document.index "kind" = .string "action" ∧
      document.index "game_time_ms" = .int gameTimeMs := by
  unfold SessionContext.projectAction at projected
  obtain ⟨participant, -, projected⟩ := Except.of_bind_ok projected
  cases projected
  rw [index_json, index_json, index_json]
  exact ⟨rfl, rfl, rfl⟩

theorem projectMessage_ok {row : Value} {gameTimeMs : Int}
    (projected : context.projectMessage row gameTimeMs = .ok document) :
    document.index "index" = row.index "event_index" ∧ document.index "kind" = .string "message" ∧
      document.index "game_time_ms" = .int gameTimeMs := by
  unfold SessionContext.projectMessage at projected
  obtain ⟨participant, -, projected⟩ := Except.of_bind_ok projected
  obtain ⟨tokens, -, projected⟩ := Except.of_bind_ok projected
  cases projected
  rw [index_json, index_json, index_json]
  exact ⟨rfl, rfl, rfl⟩

theorem projectLog_eq (context : SessionContext) (row : Value) (gameTimeMs : Int) :
    (context.projectLog row gameTimeMs).index "index" = row.index "event_index" ∧
      (context.projectLog row gameTimeMs).index "kind" = .string "log" ∧
      (context.projectLog row gameTimeMs).index "game_time_ms" = .int gameTimeMs := by
  rw [SessionContext.projectLog, index_json, index_json, index_json]
  exact ⟨rfl, rfl, rfl⟩

theorem eventAgrees_of_projectEvent
    (projected : context.projectEvent (times.eventRow key event) = .ok document) :
    EventAgrees event document := by
  unfold SessionContext.projectEvent at projected
  obtain ⟨gameTimeMs, time, projected⟩ := Except.of_bind_ok projected
  have time : gameTimeMs = event.gameTimeMs := by
    have found := required_ok time
    rw [eventRow_game_time_ms] at found
    exact (Option.some.inj (Option.filter_eq_some_iff.mp found).1).symm
  subst time
  rw [eventRow_event_type] at projected
  by_cases action : event.eventType = "game_action_accepted"
  · rw [if_pos (by simpa using action)] at projected
    obtain ⟨index, kind, gameTime⟩ := projectAction_ok projected
    rw [eventRow_event_index] at index
    exact ⟨index, by rw [kind, SessionEvent.kind, if_pos action], gameTime⟩
  · rw [if_neg (by simpa using action)] at projected
    by_cases message : event.eventType = "conversation_message"
    · rw [if_pos (by simpa using message)] at projected
      obtain ⟨index, kind, gameTime⟩ := projectMessage_ok projected
      rw [eventRow_event_index] at index
      exact ⟨index, by rw [kind, SessionEvent.kind, if_neg action, if_pos message], gameTime⟩
    · rw [if_neg (by simpa using message)] at projected
      cases projected
      obtain ⟨index, kind, gameTime⟩ := projectLog_eq context
        (times.eventRow key event) event.gameTimeMs
      rw [eventRow_event_index] at index
      exact ⟨index, by rw [kind, SessionEvent.kind, if_neg action, if_neg message], gameTime⟩

/-- Redaction leaves alone what says which event an exported one stands for. -/
theorem EventAgrees.redact (agrees : EventAgrees event document) :
    EventAgrees event (redactSecretFields document) where
  index := by
    rw [Value.index_redact _ (by decide), agrees.index]
    rfl
  kind := by
    rw [Value.index_redact _ (by decide), agrees.kind]
    rfl
  gameTime := by
    rw [Value.index_redact _ (by decide), agrees.gameTime]
    rfl

end

def SessionEntry.durationMs (entry : SessionEntry) : Option Int :=
  match entry.store.row.endedAt, entry.store.row.startedAt with
  | some endedAt, some startedAt => some (endedAt.millis - startedAt.millis)
  | _, _ => none

def SessionEntry.timeToStartMs (entry : SessionEntry) : Option Int :=
  entry.store.row.startedAt.map fun startedAt =>
    startedAt.millis - entry.store.row.createdAt.millis

structure SessionStandsFor (entry : SessionEntry) (session : Value) : Prop where
  sessionId : session.index "session_id" = .string entry.dialogueId
  timeToStart : (session.index "metadata").index "time_to_start_ms" = .ofInt entry.timeToStartMs
  events : List.Forall₂ EventAgrees entry.semanticEvents (session.rows "events")

/-- An exported session also says how far the stored one has come and how long it took. -/
structure SessionAgrees (entry : SessionEntry) (session : Value) : Prop
    extends SessionStandsFor entry session where
  status : (session.index "metadata").index "status" = .string entry.store.row.lifecycle.asStr
  duration : (session.index "metadata").index "duration_ms" = .ofInt entry.durationMs

theorem Projected.standsFor {times : TimeTexts} {entry : SessionEntry} {session : Value}
    (projected : Projected times entry session) :
    SessionStandsFor entry (redactSecretFields session) := by
  obtain ⟨participantIds, assignments, events, rfl, projected⟩ := projected
  refine ⟨?_, ?_, ?_⟩
  · rw [Value.index_redact _ (by decide), sessionDocument_session_id]
    rfl
  · rw [Value.index_redact _ (by decide), Value.index_redact _ (by decide),
      sessionDocument_time_to_start, SessionEntry.timeToStartMs]
    cases entry.store.row.startedAt <;> rfl
  · rw [Value.rows_redact _ (by decide), sessionDocument_events,
      List.forall₂_map_right_iff]
    exact projected.imp fun event document projected =>
      (eventAgrees_of_projectEvent projected).redact

/-- Stored sessions have no column `status`. -/
theorem Projected.status {times : TimeTexts} {entry : SessionEntry} {session : Value}
    (projected : Projected times entry session) :
    ((redactSecretFields session).index "metadata").index "status" = .null := by
  obtain ⟨participantIds, assignments, events, rfl, projected⟩ := projected
  rw [Value.index_redact _ (by decide), Value.index_redact _ (by decide),
    sessionDocument_status, Value.index, sessionRow_status]
  rfl

def countKind (kind : String) (doc : Value) : Nat :=
  (exportedEvents doc).countP fun event => (event.index "kind").asStr? == some kind

structure InventoryCounts (doc : Value) : Prop where
  participants : (doc.index "data_inventory").index "participants" =
    .int (exportedParticipants doc).length
  sessions : (doc.index "data_inventory").index "sessions" = .int (exportedSessions doc).length
  events : (doc.index "data_inventory").index "events" = .int (exportedEvents doc).length
  actions : (doc.index "data_inventory").index "actions" = .int (countKind "action" doc)
  messages : (doc.index "data_inventory").index "messages" = .int (countKind "message" doc)
  logs : (doc.index "data_inventory").index "logs" = .int (countKind "log" doc)

/-- The events the projection visits are those of the corpus sessions, one session after another. -/
theorem countEvents_corpusGraph (times : TimeTexts) {db : Database} (experiment : ExperimentRow)
    (unique : Table.Unique SessionEntry.key db.sessions) (p : String → Bool) :
    countEvents (corpusGraph times db experiment)
        ((db.corpusSessions experiment.experimentId).map times.sessionRow) p =
      .int (((db.corpusSessions experiment.experimentId).flatMap
        SessionEntry.semanticEvents).countP fun event => p event.eventType) := by
  have visited : ((db.corpusSessions experiment.experimentId).map times.sessionRow).flatMap
      (fun session => semanticRows (((integerMember "session_id" session).map
        (rowsOfSession (corpusGraph times db experiment) "session_events")).getD [])) =
      (db.corpusSessions experiment.experimentId).flatMap fun entry =>
        entry.semanticEvents.map (times.eventRow entry.key) := by
    rw [List.flatMap_map]
    refine List.flatMap_congr fun entry mem => ?_
    rw [sessionRow_session_id, Option.map_some, Option.getD_some,
      eventRows_corpusGraph times experiment unique mem, semanticRows_map]
    rfl
  rw [countEvents, visited]
  congr 2
  induction db.corpusSessions experiment.experimentId with
  | nil => rfl
  | cons entry entries ih =>
    rw [List.flatMap_cons, List.flatMap_cons, List.countP_append, List.countP_append, ih,
      List.countP_map]
    congr 2
    funext event
    rw [Function.comp_apply, eventRow_event_type, Option.any_some]

theorem countP_of_forall₂ {α β : Type} {p : α → Bool} {q : β → Bool} {xs : List α} {ys : List β}
    (pairs : List.Forall₂ (fun x y => p x = q y) xs ys) : xs.countP p = ys.countP q := by
  induction pairs with
  | nil => rfl
  | cons pair _ ih => rw [List.countP_cons, List.countP_cons, ih, pair]

theorem forall₂_flatMap {α β γ δ : Type} {S : α → β → Prop} {R : γ → δ → Prop} {f : α → List γ}
    {g : β → List δ} {xs : List α} {ys : List β} (pairs : List.Forall₂ S xs ys)
    (each : ∀ x y, S x y → List.Forall₂ R (f x) (g y)) :
    List.Forall₂ R (xs.flatMap f) (ys.flatMap g) := by
  induction pairs with
  | nil => exact .nil
  | cons pair _ ih => exact List.rel_append (each _ _ pair) ih

/-- A semantic event counts under its kind exactly as under its type. -/
theorem kind_eq_of_isSemantic {event : SessionEvent} (semantic : isSemantic event.eventType = true)
    {eventType kind : String} (named : (eventType, kind) ∈ [("game_action_accepted", "action"),
      ("conversation_message", "message"), ("log", "log")]) :
    (event.eventType == eventType) = (event.kind == kind) := by
  rw [isSemantic, Bool.or_eq_true, Bool.or_eq_true, beq_iff_eq, beq_iff_eq, beq_iff_eq] at semantic
  simp only [List.mem_cons, Prod.mk.injEq, List.not_mem_nil, or_false] at named
  rw [SessionEvent.kind]
  obtain (type | type) | type := semantic <;> rw [type] <;>
    obtain ⟨rfl, rfl⟩ | ⟨rfl, rfl⟩ | ⟨rfl, rfl⟩ := named <;> decide

section

variable {state : ExportState} {db : Database} {experiments : List ExperimentRow}
  {experimentId : String} {doc : Value}

theorem inventory_corpusDocument (version : String) (experiment : Value)
    (participants sessions : List Value) (count : (String → Bool) → Value) (key : String) :
    ((corpusDocument version experiment participants sessions count).index "data_inventory").index
      key = (Value.member? [("participants", .int participants.length),
        ("sessions", .int sessions.length), ("events", count isSemantic),
        ("actions", count (· == "game_action_accepted")),
        ("messages", count (· == "conversation_message")), ("logs", count (· == "log"))]
        key).getD .null := by
  rw [corpusDocument, index_json]
  exact index_json _ key

theorem inventory_redact (doc : Value) {key : String} (listed : key ∈ corpusKeys) :
    ((redactSecretFields doc).index "data_inventory").index key =
      redactSecretFields ((doc.index "data_inventory").index key) := by
  rw [Value.index_redact _ (by decide), Value.index_redact _ listed]

/-- Every exported session of a successful export stands for its row. -/
theorem sessions_stand_for (unique : Table.Unique SessionEntry.key db.sessions)
    (exported : state.adminExport db experiments experimentId = .ok doc) :
    List.Forall₂ SessionStandsFor (db.corpusSessions experimentId) (exportedSessions doc) := by
  obtain ⟨sessions, is, projected⟩ := exportedSessions_ok unique exported
  rw [is, List.forall₂_map_right_iff]
  exact projected.imp fun _ _ projected => projected.standsFor

theorem countKind_eq (unique : Table.Unique SessionEntry.key db.sessions)
    (exported : state.adminExport db experiments experimentId = .ok doc) {eventType kind : String}
    (named : (eventType, kind) ∈ [("game_action_accepted", "action"),
      ("conversation_message", "message"), ("log", "log")]) :
    ((db.corpusSessions experimentId).flatMap SessionEntry.semanticEvents).countP
        (fun event => event.eventType == eventType) = countKind kind doc := by
  refine countP_of_forall₂ (forall₂_flatMap (sessions_stand_for unique exported)
    fun entry session standsFor => ?_)
  refine ((List.forall₂_and_left _ _).mpr ⟨fun _ mem => mem, standsFor.events⟩).imp ?_
  rintro event document ⟨mem, agrees⟩
  rw [kind_eq_of_isSemantic (List.mem_filter.mp mem).2 named, agrees.kind]
  simp [Value.asStr?]

/-- A successful export counts what it contains. -/
theorem inventory_counts (unique : Table.Unique SessionEntry.key db.sessions)
    (exported : state.adminExport db experiments experimentId = .ok doc) : InventoryCounts doc := by
  have actions := countKind_eq unique exported (.head _)
  have messages := countKind_eq unique exported (.tail _ (.head _))
  have logs := countKind_eq unique exported (.tail _ (.tail _ (.head _)))
  have total := (forall₂_flatMap (sessions_stand_for unique exported) fun _ _ standsFor =>
    standsFor.events).length_eq
  have every : ((db.corpusSessions experimentId).flatMap
      SessionEntry.semanticEvents).countP (fun event => isSemantic event.eventType) =
      (exportedEvents doc).length := by
    rw [exportedEvents, ← total, List.countP_eq_length]
    intro event mem
    obtain ⟨entry, -, mem⟩ := List.mem_flatMap.mp mem
    exact (List.mem_filter.mp mem).2
  obtain ⟨experiment, value, participants, sessions, rfl, rfl, projected⟩ :=
    adminExport_ok unique exported
  have counted := countEvents_corpusGraph state.times experiment unique
  constructor
  · rw [inventory_redact _ (by decide), inventory_corpusDocument, exportedParticipants,
      Value.index_redact _ (by decide), Value.rows_redact _ (by decide),
      List.length_map, corpusDocument_participants]
    rfl
  · rw [inventory_redact _ (by decide), inventory_corpusDocument, exportedSessions_redact,
      exportedSessions_corpusDocument, List.length_map]
    rfl
  · rw [← every, ← counted isSemantic, inventory_redact _ (by decide),
      inventory_corpusDocument]
    rfl
  · rw [← actions, ← counted (· == "game_action_accepted"), inventory_redact _ (by decide),
      inventory_corpusDocument]
    rfl
  · rw [← messages, ← counted (· == "conversation_message"),
      inventory_redact _ (by decide), inventory_corpusDocument]
    rfl
  · rw [← logs, ← counted (· == "log"), inventory_redact _ (by decide),
      inventory_corpusDocument]
    rfl

end

/-- The corpus agrees with the stored rows of the experiment's started research sessions. -/
structure CorpusAgrees (db : Database) (experimentId : String) (doc : Value) : Prop where
  sessions : List.Forall₂ SessionAgrees (db.corpusSessions experimentId) (exportedSessions doc)
  inventory : InventoryCounts doc

/--
The corpus agrees with the stored rows only where it holds no session: the exporter reads the columns
`status` and `completed_at`, which the stored sessions call `lifecycle` and `ended_at`.
-/
theorem corpus_agrees_iff {state : ExportState} {db : Database} {experiments : List ExperimentRow}
    {experimentId : String} {doc : Value} (unique : Table.Unique SessionEntry.key db.sessions)
    (exported : state.adminExport db experiments experimentId = .ok doc) :
    CorpusAgrees db experimentId doc ↔ db.corpusSessions experimentId = [] := by
  have inventory := inventory_counts unique exported
  obtain ⟨sessions, is, projected⟩ := exportedSessions_ok unique exported
  have none : List.Forall₂ SessionAgrees (db.corpusSessions experimentId) (exportedSessions doc) ↔
      ∀ entry ∈ db.corpusSessions experimentId, False := by
    rw [is, List.forall₂_map_right_iff]
    refine forall₂_congr projected fun entry _ session projected => ⟨fun agrees => ?_, False.elim⟩
    have status := agrees.status
    rw [projected.status] at status
    cases status
  rw [List.eq_nil_iff_forall_not_mem, ← none]
  exact ⟨fun agrees => agrees.sessions, fun sessions => ⟨sessions, inventory⟩⟩

theorem corpus_agrees_before_start :
    ∃ doc, exportState.adminExport { experiments := ["exp"] } exportedExperiments "exp" =
        .ok doc ∧ CorpusAgrees { experiments := ["exp"] } "exp" doc := by
  obtain ⟨doc, exported⟩ := Except.exists_ok (x := exportState.adminExport
    { experiments := ["exp"] } exportedExperiments "exp") (by decide +kernel)
  have unique : Table.Unique SessionEntry.key ({ experiments := ["exp"] } : Database).sessions :=
    List.nodup_nil
  exact ⟨doc, exported, (corpus_agrees_iff unique exported).mpr rfl⟩

/-- A running session is exported without a status. -/
theorem running_session_without_status :
    ∃ doc, exportState.adminExport (playedDatabase .null) exportedExperiments "exp" = .ok doc ∧
      ¬CorpusAgrees (playedDatabase .null) "exp" doc := by
  obtain ⟨doc, exported⟩ := playedDatabase_exported
  refine ⟨doc, exported, fun agrees => ?_⟩
  obtain ⟨sessions, is, projected⟩ := exportedSessions_ok (playedDatabase_unique _) exported
  have pairs := agrees.sessions
  rw [is, List.forall₂_map_right_iff] at pairs
  cases projected with
  | cons projected _ =>
    cases pairs with
    | cons agrees _ =>
      have status := agrees.status
      rw [projected.status] at status
      cases status

end Parlando
