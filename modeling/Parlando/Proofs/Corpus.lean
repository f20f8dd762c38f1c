import Parlando.Proofs.Export
import Parlando.Proofs.Redaction

namespace Parlando

/-- What holds of every pair of two lists, where the pairing decides it by the left element. -/
theorem forall₂_congr {α β : Type} {S R : α → β → Prop} {p : α → Prop} {xs : List α} {ys : List β}
    (pairs : List.Forall₂ S xs ys) (left : ∀ x ∈ xs, ∀ y, S x y → (R x y ↔ p x)) :
    List.Forall₂ R xs ys ↔ ∀ x ∈ xs, p x := by
  induction pairs with
  | nil => simp
  | cons pair pairs ih =>
    rw [List.forall₂_cons, List.forall_mem_cons, left _ (List.mem_cons_self ..) _ pair,
      ih fun x mem => left x (List.mem_cons_of_mem _ mem)]

def corpusKeys : List String :=
  ["experiment", "sessions", "participants", "events", "metadata", "data_inventory", "session_id",
    "time_to_start_ms", "duration_ms", "status", "completion", "index", "kind", "game_time_ms",
    "action", "transition_metadata", "state", "actions", "messages", "logs"]

/-- Redaction takes none of them away. -/
theorem corpusKeys_plain : ∀ key ∈ corpusKeys, isRedactedKey key = false := by decide +kernel

namespace Value

variable (v : Value) {key : String}

theorem get?_redact : (redactSecretFields v).get? key = (v.get? key).map (redactChild key) := by
  cases v with
  | object members =>
    rw [redactSecretFields, get?_object, get?_object, redactMembers_eq_map]
    exact member?_map redactChild members key
  | null | bool _ | int _ | float _ | string _ | array _ => rfl

theorem index_redact (listed : key ∈ corpusKeys) :
    (redactSecretFields v).index key = redactSecretFields (v.index key) := by
  rw [index, index, get?_redact]
  cases v.get? key with
  | none => rfl
  | some child =>
    change redactChild key child = _
    rw [redactChild, corpusKeys_plain key listed]
    rfl

theorem rows_redact (listed : key ∈ corpusKeys) :
    (redactSecretFields v).rows key = (v.rows key).map redactSecretFields := by
  rw [rows, rows, get?_redact]
  cases v.get? key with
  | none => rfl
  | some child =>
    change ((redactChild key child).asArray?).getD [] = _
    rw [redactChild, corpusKeys_plain key listed]
    cases child with
    | array items => exact redactItems_eq_map items
    | null | bool _ | int _ | float _ | string _ | object _ => rfl

end Value

def exportedSessions (doc : Value) : List Value := (doc.index "experiment").rows "sessions"

def exportedEvents (doc : Value) : List Value :=
  (exportedSessions doc).flatMap fun session => session.rows "events"

def exportedParticipants (doc : Value) : List Value :=
  (doc.index "experiment").rows "participants"

theorem exportedSessions_redact (doc : Value) :
    exportedSessions (redactSecretFields doc) = (exportedSessions doc).map redactSecretFields := by
  rw [exportedSessions, Value.index_redact _ (by decide),
    Value.rows_redact _ (by decide)]
  rfl

theorem exportedSessions_corpusDocument (version : String) (experiment : Value)
    (participants sessions : List Value) (count : (String → Bool) → Value) :
    exportedSessions (corpusDocument version experiment participants sessions count) =
      sessions := by
  rw [exportedSessions, corpusDocument, index_json]
  change (Value.json _).rows "sessions" = sessions
  rw [Value.rows, Value.get?_json]
  rfl

theorem corpusDocument_participants (version : String) (experiment : Value)
    (participants sessions : List Value) (count : (String → Bool) → Value) :
    ((corpusDocument version experiment participants sessions count).index "experiment").rows
      "participants" = participants := by
  rw [corpusDocument, index_json]
  change (Value.json _).rows "participants" = participants
  rw [Value.rows, Value.get?_json]
  rfl

section

variable (session : Value) (sessionId : String) (timeToStartMs durationMs : Option Int)
  (assignments events : List Value)

theorem sessionDocument_completion :
    (sessionDocument session sessionId timeToStartMs durationMs assignments events).index
      "completion" = session.index "completion" := by
  rw [sessionDocument, index_json]
  rfl

theorem sessionDocument_events :
    (sessionDocument session sessionId timeToStartMs durationMs assignments events).rows
      "events" = events := by
  rw [sessionDocument, Value.rows, Value.get?_json]
  rfl

theorem sessionDocument_participants :
    (sessionDocument session sessionId timeToStartMs durationMs assignments events).rows
      "participants" = assignments := by
  rw [sessionDocument, Value.rows, Value.get?_json]
  rfl

theorem sessionDocument_session_id :
    (sessionDocument session sessionId timeToStartMs durationMs assignments events).index
      "session_id" = .string sessionId := by
  rw [sessionDocument, index_json]
  rfl

theorem sessionDocument_status :
    ((sessionDocument session sessionId timeToStartMs durationMs assignments events).index
      "metadata").index "status" = session.index "status" := by
  rw [sessionDocument, index_json]
  change (Value.json _).index "status" = _
  rw [index_json]
  rfl

theorem sessionDocument_time_to_start :
    ((sessionDocument session sessionId timeToStartMs durationMs assignments events).index
      "metadata").index "time_to_start_ms" = .ofInt timeToStartMs := by
  rw [sessionDocument, index_json]
  change (Value.json _).index "time_to_start_ms" = _
  rw [index_json]
  rfl

end

section

variable {state : ExportState} {db : Database} {experiments : List ExperimentRow}
  {experimentId : String} {doc : Value}

def Projected (times : TimeTexts) (entry : SessionEntry) (session : Value) : Prop :=
  ∃ participantIds assignments events,
    session = sessionDocument (times.sessionRow entry) entry.dialogueId
      (entry.store.row.startedAt.map fun startedAt =>
        startedAt.millis - entry.store.row.createdAt.millis) none assignments events ∧
    List.Forall₂ (fun event document => (entry.context times participantIds).projectEvent
      (times.eventRow entry.key event) = .ok document) entry.semanticEvents events

def Projection (times : TimeTexts) (participantIds : Map Int String) (entry : SessionEntry)
    (session : Value) : Prop :=
  ∃ assignments events,
    session = sessionDocument (times.sessionRow entry) entry.dialogueId
      (entry.store.row.startedAt.map fun startedAt =>
        startedAt.millis - entry.store.row.createdAt.millis) none assignments events ∧
    List.Forall₂ (fun event document => (entry.context times participantIds).projectEvent
      (times.eventRow entry.key event) = .ok document) entry.semanticEvents events ∧
    List.Forall₂ (fun member document => projectAssignment participantIds
      (times.sessionParticipantRow entry.key member) = .ok document)
        entry.store.membersByRole assignments ∧ assignments.length = 2

def publicNames (projected : List (Int × String × Value)) : Map Int String :=
  projected.foldl (fun ids participant => AList.insert participant.1 participant.2.1 ids) ∅

theorem rows_of_required {v : Value} {table message : String} {rows : List Value}
    (h : required ((v.get? table).bind Value.asArray?) message = .ok rows) : v.rows table = rows := by
  rw [Value.rows, required_ok h]
  rfl

/-- A corpus is projected row by row from what the filters have left. -/
theorem corpusExperimentExport_ok {times : TimeTexts} {raw corpus : Value} {version : String}
    (projected : corpusExperimentExport times raw version = .ok corpus) :
    ∃ value participants sessions,
      List.Forall₂ (fun row participant => projectParticipant row = .ok participant)
        ((excludeUnstartedSessions raw).rows "participants") participants ∧
      List.Forall₂ (fun row session => projectSession times (excludeUnstartedSessions raw)
        (publicNames participants) row = .ok session)
          ((excludeUnstartedSessions raw).rows "sessions") sessions ∧
      corpus = corpusDocument version value (participants.map fun participant => participant.2.2)
        sessions (countEvents (excludeUnstartedSessions raw)
          ((excludeUnstartedSessions raw).rows "sessions")) := by
  unfold corpusExperimentExport at projected
  generalize excludeUnstartedSessions raw = graph at projected ⊢
  obtain ⟨value, -, projected⟩ := Except.of_bind_ok projected
  obtain ⟨participantRows, catalogue, projected⟩ := Except.of_bind_ok projected
  obtain ⟨participants, named, projected⟩ := Except.of_bind_ok projected
  obtain ⟨-, -, projected⟩ := Except.of_bind_ok projected
  obtain ⟨-, -, projected⟩ := Except.of_bind_ok projected
  obtain ⟨sessionRows, rows, projected⟩ := Except.of_bind_ok projected
  obtain ⟨sessions, mapped, projected⟩ := Except.of_bind_ok projected
  cases projected
  rw [rows_of_required catalogue, rows_of_required rows]
  exact ⟨value, participants, sessions, Except.forall₂_of_mapM_ok named,
    Except.forall₂_of_mapM_ok mapped, rfl⟩

/--
An export that succeeds is the redacted corpus of the experiment's started research sessions and of
the participants that the filters have left.
-/
theorem adminExport_projects (unique : Table.Unique SessionEntry.key db.sessions)
    (exported : state.adminExport db experiments experimentId = .ok doc) :
    ∃ experiment value projected sessions,
      experiment.experimentId = experimentId ∧
      List.Forall₂ (fun row participant => projectParticipant row = .ok participant)
        ((corpusGraph state.times db experiment).rows "participants") projected ∧
      doc = redactSecretFields (corpusDocument state.privacyContractVersion value
        (projected.map fun participant => participant.2.2) sessions
        (countEvents (corpusGraph state.times db experiment)
          ((db.corpusSessions experimentId).map state.times.sessionRow))) ∧
      List.Forall₂ (Projection state.times (publicNames projected))
        (db.corpusSessions experimentId) sessions := by
  unfold ExportState.adminExport at exported
  obtain ⟨raw, filtered, exported⟩ := Except.of_bind_ok exported
  obtain ⟨corpus, projected, exported⟩ := Except.of_bind_ok exported
  obtain ⟨-, exported⟩ := Except.of_check_ok exported
  obtain ⟨-, exported⟩ := Except.of_check_ok exported
  cases exported
  unfold filteredExport at filtered
  obtain ⟨experiment, found, filtered⟩ := Except.of_bind_ok filtered
  obtain ⟨-, filtered⟩ := Except.of_check_ok filtered
  cases filtered
  have ofExperiment : experiment.experimentId = experimentId := (Table.find?_mem (orError_ok found)).2
  subst ofExperiment
  obtain ⟨value, participants, sessions, named, mapped, rfl⟩ := corpusExperimentExport_ok projected
  rw [← corpusGraph] at named mapped ⊢
  rw [rows_corpusGraph_sessions] at mapped ⊢
  have pairs := (List.forall₂_and_left _ _).mpr
    ⟨fun _ mem => mem, List.forall₂_map_left_iff.mp mapped⟩
  refine ⟨experiment, value, participants, sessions, rfl, named, rfl, pairs.imp ?_⟩
  intro entry session both
  exact projectSession_ok state.times experiment unique both.1 both.2

theorem adminExport_ok (unique : Table.Unique SessionEntry.key db.sessions)
    (exported : state.adminExport db experiments experimentId = .ok doc) :
    ∃ experiment value participants sessions,
      experiment.experimentId = experimentId ∧
      doc = redactSecretFields (corpusDocument state.privacyContractVersion value participants
        sessions (countEvents (corpusGraph state.times db experiment)
          ((db.corpusSessions experimentId).map state.times.sessionRow))) ∧
      List.Forall₂ (Projected state.times) (db.corpusSessions experimentId) sessions := by
  obtain ⟨experiment, value, projected, sessions, same, -, is, pairs⟩ :=
    adminExport_projects unique exported
  refine ⟨experiment, value, _, sessions, same, is, pairs.imp ?_⟩
  intro entry session ⟨assignments, events, is, projected, _⟩
  exact ⟨_, assignments, events, is, projected⟩

theorem exportedSessions_ok (unique : Table.Unique SessionEntry.key db.sessions)
    (exported : state.adminExport db experiments experimentId = .ok doc) :
    ∃ sessions, exportedSessions doc = sessions.map redactSecretFields ∧
      List.Forall₂ (Projected state.times) (db.corpusSessions experimentId) sessions := by
  obtain ⟨experiment, value, participants, sessions, -, rfl, projected⟩ :=
    adminExport_ok unique exported
  rw [exportedSessions_redact, exportedSessions_corpusDocument]
  exact ⟨sessions, rfl, projected⟩

end

def epochTexts : List (Timestamp × String) :=
  [(0, "1970-01-01T00:00:00+00:00"), (Timestamp.seconds 1, "1970-01-01T00:00:01+00:00"),
    (Timestamp.seconds 3, "1970-01-01T00:00:03+00:00")]

def tally : Int → List Char
  | .ofNat n => List.replicate n '+'
  | .negSucc n => List.replicate (n + 1) '-'

def untally (signs : List Char) : Int :=
  if signs.head? = some '-' then -signs.length else signs.length

theorem untally_tally (t : Int) : untally (tally t) = t := by
  cases t with
  | ofNat n => cases n <;> simp [tally, untally, List.replicate_succ]
  | negSucc n => simp [tally, untally, List.replicate_succ, Int.negSucc_eq]

theorem tally_ne {t : Int} {e : Timestamp × String} (mem : e ∈ epochTexts) :
    e.2 ≠ String.ofList (tally t) := by
  intro same
  have digits : ∀ e ∈ epochTexts, e.2.toList.head? = some '1' := by decide +kernel
  have first := digits e mem
  rw [same, String.toList_ofList] at first
  cases t with
  | ofNat n => cases n <;> simp [tally, List.replicate_succ] at first
  | negSucc n => simp [tally, List.replicate_succ] at first

/-- Clock texts for what happens in the first seconds of the epoch. -/
def epochTimes : TimeTexts where
  format t := ((epochTexts.find? fun e => e.1 == t).map Prod.snd).getD (.ofList (tally t))
  parse text :=
    some (((epochTexts.find? fun e => e.2 == text).map Prod.fst).getD (untally text.toList))
  parse_format t := by
    cases known : epochTexts.find? fun e => e.1 == t with
    | some e =>
      have mem := List.mem_of_find?_eq_some known
      have at' : e.1 = t := by simpa using List.find?_some known
      have found : ∀ e ∈ epochTexts, epochTexts.find? (fun other => other.2 == e.2) = some e := by
        decide +kernel
      simp [found e mem, at']
    | none =>
      have unknown : epochTexts.find? (fun e => e.2 == String.ofList (tally t)) = none := by
        rw [List.find?_eq_none]
        intro e mem
        simpa using tally_ne mem
      simp [unknown, untally_tally]
  readDouble := id
  readDouble_unit _ low high := ⟨low, high⟩

def exportState : ExportState where
  times := epochTimes
  privacyContractVersion := "1"
  encode _ := ""

def exportedExperiments : List ExperimentRow := [⟨"exp", "1.0.0", .object [], 1, "inactive"⟩]

def exportedParticipant (participantId : Int) (researchId : String) : ParticipantRow where
  participantId
  researchId
  experimentId := "exp"
  participantKind := "human"
  identityProvider := "direct"
  externalId := none
  metadata := .null
  createdAt := 0

def exportedMember (participantId : Int) (role : PlayerRole) : SessionParticipantRow where
  participantId
  participantSessionId := .human participantId.toNat
  source := .direct
  role
  joinedAt := 0
  connectionStatus := "connected"

/-- A running research session of two participants in which one action has been accepted. -/
def playedDatabase (action : Value) : Database where
  experiments := ["exp"]
  participants := [exportedParticipant 1 "calm-otter", exportedParticipant 2 "red-owl"]
  participantSequence := 2
  sessions := [{
    key := ⟨"exp", 1⟩
    publicSessionId := "s_1"
    dialogueId := "blue-fox"
    mode := "human_vs_human"
    configRevision := 1
    gameVersion := "1.0.0"
    store := {
      row := {
        purpose := .research
        lifecycle := .running
        initializationComplete := true
        createdAt := Timestamp.seconds 1
        waitingDeadlineAt := Timestamp.seconds 600
        lifetimeDeadlineAt := Timestamp.seconds 3600
        startedAt := some (Timestamp.seconds 3) }
      members := [exportedMember 1 .A, exportedMember 2 .B]
      events := [{
        eventIndex := 1
        gameTimeMs := 0
        eventType := "game_action_accepted"
        actorParticipantId := some 1
        actorRole := some .A
        payload := .json [("action", action), ("metadata", .null)]
        gameState := some (.object []) }] } }]

theorem playedDatabase_unique (action : Value) :
    Table.Unique SessionEntry.key (playedDatabase action).sessions :=
  List.nodup_singleton _

theorem playedDatabase_exported : ∃ doc,
    exportState.adminExport (playedDatabase .null) exportedExperiments "exp" = .ok doc :=
  Except.exists_ok (by decide +kernel)

end Parlando
