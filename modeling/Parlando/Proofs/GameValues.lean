import Parlando.Proofs.Corpus

namespace Parlando

def ActionUnchanged (event : SessionEvent) (document : Value) : Prop :=
  event.eventType = "game_action_accepted" →
    document.index "action" = event.payload.index "action" ∧
    document.index "transition_metadata" = event.payload.index "metadata" ∧
    document.index "state" = .ofOption event.gameState

def SessionUnchanged (entry : SessionEntry) (session : Value) : Prop :=
  session.index "completion" = .ofOption entry.store.row.completion ∧
  List.Forall₂ ActionUnchanged entry.semanticEvents (session.rows "events")

def GameValuesUnchanged (db : Database) (experimentId : String) (doc : Value) : Prop :=
  List.Forall₂ SessionUnchanged (db.corpusSessions experimentId) (exportedSessions doc)

namespace SessionEvent

/-- The action, the transition metadata and the state of an accepted action. -/
def gameValues (event : SessionEvent) : List Value :=
  if event.eventType = "game_action_accepted" then
    [event.payload.index "action", event.payload.index "metadata", .ofOption event.gameState]
  else []

end SessionEvent

namespace SessionEntry

def gameValues (entry : SessionEntry) : List Value :=
  .ofOption entry.store.row.completion :: entry.semanticEvents.flatMap SessionEvent.gameValues

end SessionEntry

def TimeTexts.Keeps (times : TimeTexts) (v : Value) : Prop :=
  redactionKeeps v = true ∧ ∀ x ∈ v.doubles, times.readDouble x = x

section

variable {times : TimeTexts} {entry : SessionEntry} {session : Value}

theorem redact_read_eq_self (v : Value) : redactSecretFields (times.read v) = v ↔ times.Keeps v := by
  rw [TimeTexts.read, redact_readBack]
  exact restored_eq_self times.readDouble v

/-- What an export makes of an accepted action. -/
theorem projectEvent_action {context : SessionContext} {key : SessionKey} {event : SessionEvent}
    {document : Value} (action : event.eventType = "game_action_accepted")
    (projected : context.projectEvent (times.eventRow key event) = .ok document) :
    document.index "action" = times.read (event.payload.index "action") ∧
    document.index "transition_metadata" = times.read (event.payload.index "metadata") ∧
    document.index "state" = times.read (.ofOption event.gameState) := by
  unfold SessionContext.projectEvent at projected
  obtain ⟨gameTimeMs, -, projected⟩ := Except.of_bind_ok projected
  rw [eventRow_event_type, action, if_pos (by decide)] at projected
  unfold SessionContext.projectAction at projected
  obtain ⟨participant, -, projected⟩ := Except.of_bind_ok projected
  cases projected
  rw [eventRow_payload, eventRow_game_state, index_json, index_json, index_json]
  exact ⟨Value.index_readBack _ _ _, Value.index_readBack _ _ _, rfl⟩

theorem actionUnchanged_iff {context : SessionContext} {key : SessionKey} {event : SessionEvent}
    {document : Value}
    (projected : context.projectEvent (times.eventRow key event) = .ok document) :
    ActionUnchanged event (redactSecretFields document) ↔
      ∀ v ∈ event.gameValues, times.Keeps v := by
  by_cases action : event.eventType = "game_action_accepted"
  · obtain ⟨actionValue, metadata, state⟩ := projectEvent_action action projected
    rw [ActionUnchanged, SessionEvent.gameValues, if_pos action]
    rw [Value.index_redact _ (by decide), Value.index_redact _ (by decide),
      Value.index_redact _ (by decide), actionValue, metadata, state,
      redact_read_eq_self, redact_read_eq_self, redact_read_eq_self]
    simp [action]
  · rw [ActionUnchanged, SessionEvent.gameValues, if_neg action]
    simp [action]

theorem sessionUnchanged_iff (projected : Projected times entry session) :
    SessionUnchanged entry (redactSecretFields session) ↔
      ∀ v ∈ entry.gameValues, times.Keeps v := by
  obtain ⟨participantIds, assignments, events, rfl, projected⟩ := projected
  have pairs : List.Forall₂ (fun event document => ActionUnchanged event
      (redactSecretFields document)) entry.semanticEvents events ↔
        ∀ event ∈ entry.semanticEvents, ∀ v ∈ event.gameValues, times.Keeps v :=
    forall₂_congr projected fun event _ document projected => actionUnchanged_iff projected
  rw [SessionUnchanged, Value.index_redact _ (by decide),
    Value.rows_redact _ (by decide), sessionDocument_completion,
    sessionDocument_events, sessionRow_completion, redact_read_eq_self,
    List.forall₂_map_right_iff, pairs, SessionEntry.gameValues, List.forall_mem_cons]
  simp only [List.mem_flatMap]
  refine and_congr_right' ⟨fun keeps v mem => ?_, fun keeps event mem v vMem => ?_⟩
  · obtain ⟨event, mem, vMem⟩ := mem
    exact keeps event mem v vMem
  · exact keeps v ⟨event, mem, vMem⟩

theorem sessionsUnchanged_iff {entries : List SessionEntry} {sessions : List Value}
    (projected : List.Forall₂ (Projected times) entries sessions) :
    List.Forall₂ SessionUnchanged entries (sessions.map redactSecretFields) ↔
      ∀ entry ∈ entries, ∀ v ∈ entry.gameValues, times.Keeps v := by
  rw [List.forall₂_map_right_iff]
  exact forall₂_congr projected fun entry _ session projected => sessionUnchanged_iff projected

end

section

variable {state : ExportState} {db : Database} {experiments : List ExperimentRow}
  {experimentId : String} {doc : Value}

/--
An export leaves what the game owns unchanged exactly where redaction finds nothing in it and the store
reads every double in it back as itself.
-/
theorem game_values_exported_unchanged (unique : Table.Unique SessionEntry.key db.sessions)
    (exported : state.adminExport db experiments experimentId = .ok doc) :
    GameValuesUnchanged db experimentId doc ↔
      ∀ entry ∈ db.corpusSessions experimentId, ∀ v ∈ entry.gameValues,
        redactionKeeps v = true ∧ ∀ x ∈ v.doubles, state.times.readDouble x = x := by
  obtain ⟨sessions, is, projected⟩ := exportedSessions_ok unique exported
  rw [GameValuesUnchanged, is]
  exact sessionsUnchanged_iff projected

end

theorem plain_action_exported_unchanged :
    ∃ doc, exportState.adminExport (playedDatabase (.string "left")) exportedExperiments "exp" =
        .ok doc ∧ GameValuesUnchanged (playedDatabase (.string "left")) "exp" doc := by
  obtain ⟨doc, exported⟩ := Except.exists_ok (x := exportState.adminExport
    (playedDatabase (.string "left")) exportedExperiments "exp") (by decide +kernel)
  refine ⟨doc, exported, (game_values_exported_unchanged (playedDatabase_unique _) exported).mpr ?_⟩
  have keeps : (((playedDatabase (.string "left")).corpusSessions "exp").all fun entry =>
      entry.gameValues.all redactionKeeps) = true := by decide +kernel
  intro entry mem v vMem
  exact ⟨List.all_eq_true.mp (List.all_eq_true.mp keeps entry mem) v vMem, fun _ _ => rfl⟩

def placeToken : Value := .json [("token", .string "red"), ("field", .int 3)]

theorem token_of_action_redacted :
    ∃ doc, exportState.adminExport (playedDatabase placeToken) exportedExperiments "exp" =
        .ok doc ∧ ¬GameValuesUnchanged (playedDatabase placeToken) "exp" doc := by
  obtain ⟨doc, exported⟩ := Except.exists_ok (x := exportState.adminExport
    (playedDatabase placeToken) exportedExperiments "exp") (by decide +kernel)
  refine ⟨doc, exported, fun unchanged => ?_⟩
  obtain ⟨sessions, is, projected⟩ := exportedSessions_ok (playedDatabase_unique _) exported
  rw [GameValuesUnchanged, is, sessionsUnchanged_iff projected] at unchanged
  have kept : (((playedDatabase placeToken).corpusSessions "exp").all fun entry =>
      entry.gameValues.all redactionKeeps) = true := by
    refine List.all_eq_true.mpr fun entry mem => List.all_eq_true.mpr fun v vMem => ?_
    exact (unchanged entry mem v vMem).1
  revert kept
  decide +kernel

end Parlando
