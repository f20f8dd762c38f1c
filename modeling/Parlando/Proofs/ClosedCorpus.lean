import Parlando.Proofs.Corpus
import Parlando.Proofs.SeatRows

namespace Parlando

namespace Database

variable {db : Database} {experimentId : String}

def InCorpus (db : Database) (experimentId : String) (participantId : Int) : Prop :=
  ∃ entry ∈ db.corpusSessions experimentId, ∃ member ∈ entry.store.members,
    member.participantId = participantId

/-- The constraints of the tables, and that every session's members are those it has written. -/
structure Recorded (db : Database) : Prop where
  sessions : Table.Unique SessionEntry.key db.sessions
  participants : Table.Unique ParticipantRow.participantId db.participants
  researchIds : Table.Unique ParticipantRow.researchId db.participants
  memberships : ∀ entry ∈ db.sessions,
    Table.Unique SessionParticipantRow.participantSessionId entry.store.members
  written : ∀ entry ∈ db.sessions, ∃ (G : Game) (config : ExperimentConfig) (r : Nat)
    (room : Room G), Reached config r room ∧ entry.store.seats = room.shared.store.seats

/-- No two members of a stored session have one role. -/
theorem Recorded.roles (recorded : db.Recorded) {entry : SessionEntry} (mem : entry ∈ db.sessions) :
    Table.Unique SessionParticipantRow.role entry.store.members := by
  obtain ⟨G, config, r, room, reached, same⟩ := recorded.written entry mem
  have unique := recorded.memberships entry mem
  refine List.Nodup.map_on (fun row rowMem other otherMem role => ?_) (List.Nodup.of_map _ unique)
  have seat := List.mem_map_of_mem (f := SessionParticipantRow.seat) rowMem
  have otherSeat := List.mem_map_of_mem (f := SessionParticipantRow.seat) otherMem
  change _ ∈ entry.store.seats at seat otherSeat
  rw [same] at seat otherSeat
  exact unique.eq rowMem otherMem
    (Prod.ext_iff.mp (rows_seated reached _ seat _ otherSeat role)).1

end Database

section

variable (v : Value)

def participantIdsOf (v : Value) : List Int :=
  (v.rows "session_participants").filterMap (integerMember "participant_id")

theorem participantIdsOf_filterParticipantsToSessions :
    participantIdsOf (filterParticipantsToSessions v) = participantIdsOf v := by
  rw [participantIdsOf, rows_filterParticipantsToSessions, if_neg (by decide)]
  rfl

theorem sessionIdsOf_filterParticipantsToSessions :
    sessionIdsOf (filterParticipantsToSessions (filterScopedTablesToSessions v)) =
      sessionIdsOf v := by
  rw [sessionIdsOf, rows_filterParticipantsToSessions, if_neg (by decide),
    rows_filterScopedTablesToSessions_other _ (by decide) (by decide) (by decide)]
  rfl

theorem rows_participants_filterParticipantsToSessions :
    (filterParticipantsToSessions v).rows "participants" = (v.rows "participants").filter
      (hasMemberIn "participant_id" (participantIdsOf (filterParticipantsToSessions v))) := by
  rw [participantIdsOf_filterParticipantsToSessions, rows_filterParticipantsToSessions, if_pos rfl]
  rfl

def keepsConsent (sessionIds participantIds : List Int) (row : Value) : Bool :=
  match integerMember "session_id" row with
  | none => hasMemberIn "participant_id" participantIds row
  | some id => sessionIds.contains id

theorem rows_consents_filterScopedTablesToSessions :
    (filterParticipantsToSessions (filterScopedTablesToSessions v)).rows "consent_declarations" =
      (v.rows "consent_declarations").filter (keepsConsent
        (sessionIdsOf (filterParticipantsToSessions (filterScopedTablesToSessions v)))
        (participantIdsOf (filterParticipantsToSessions (filterScopedTablesToSessions v)))) := by
  let inScope := (v.retain "session_participants" (hasMemberIn "session_id" (sessionIdsOf v))).retain
    "session_events" (hasMemberIn "session_id" (sessionIdsOf v))
  have consents : inScope.rows "consent_declarations" = v.rows "consent_declarations" := by
    rw [Value.rows_retain, if_neg (by decide), Value.rows_retain, if_neg (by decide)]
  have whole : filterScopedTablesToSessions v = inScope.retain "consent_declarations"
      (keepsConsent (sessionIdsOf v) (participantIdsOf inScope)) := rfl
  have members : participantIdsOf (filterScopedTablesToSessions v) = participantIdsOf inScope := by
    rw [whole, participantIdsOf, Value.rows_retain, if_neg (by decide)]
    rfl
  rw [sessionIdsOf_filterParticipantsToSessions, participantIdsOf_filterParticipantsToSessions,
    rows_filterParticipantsToSessions, if_neg (by decide), members, whole, Value.rows_retain,
    if_pos rfl, consents]

end

section

variable (times : TimeTexts) {db : Database} (experiment : ExperimentRow)

/-- The session numbers in the graph are those of the corpus. -/
theorem mem_sessionIdsOf_corpusGraph {id : Int} :
    id ∈ sessionIdsOf (corpusGraph times db experiment) ↔
      ∃ entry ∈ db.corpusSessions experiment.experimentId, entry.key.sessionId = id := by
  rw [sessionIdsOf, rows_corpusGraph_sessions, sessionIdsOf_rows, List.mem_map]

/-- The membership rows left are those of the sessions left. -/
theorem mem_rows_corpusGraph_session_participants
    (unique : Table.Unique SessionEntry.key db.sessions) {row : Value}
    (mem : row ∈ (corpusGraph times db experiment).rows "session_participants") :
    ∃ entry ∈ db.corpusSessions experiment.experimentId, ∃ member ∈ entry.store.members,
      row = times.sessionParticipantRow entry.key member := by
  rw [corpusGraph, rows_excludeUnstartedSessions _ (.inl rfl), List.mem_filter] at mem
  obtain ⟨mem, started⟩ := mem
  rw [rows_excludeTestingSessions _ (.inl rfl), rows_exportRows_session_participants] at mem
  obtain ⟨entry, entryMem, rowMem⟩ := List.mem_flatMap.mp (List.mem_of_mem_filter mem)
  obtain ⟨member, memberMem, rfl⟩ := List.mem_map.mp rowMem
  have left := (hasMemberIn_iff (sessionParticipantRow_session_id times entry.key member)).mp started
  rw [← corpusGraph, mem_sessionIdsOf_corpusGraph] at left
  obtain ⟨other, otherMem, same⟩ := left
  have here := (Database.sessionsOf_unique unique).eq (List.mem_of_mem_filter otherMem) entryMem same
  subst here
  exact ⟨other, otherMem, member, (List.mem_insertionSort _).mp memberMem, rfl⟩

theorem integerMember_participants {id : Int} (unique : Table.Unique SessionEntry.key db.sessions)
    (mem : id ∈ participantIdsOf (corpusGraph times db experiment)) : db.InCorpus experiment.experimentId id := by
  obtain ⟨row, rowMem, found⟩ := List.mem_filterMap.mp mem
  obtain ⟨entry, entryMem, member, memberMem, rfl⟩ :=
    mem_rows_corpusGraph_session_participants times experiment unique rowMem
  rw [sessionParticipantRow_participant_id] at found
  exact ⟨entry, entryMem, member, memberMem, Option.some.inj found⟩

/-- The participants left are members of the sessions left. -/
theorem rows_corpusGraph_participants (unique : Table.Unique SessionEntry.key db.sessions) :
    ∃ keep : ParticipantRow → Bool, (corpusGraph times db experiment).rows "participants" =
        ((db.participantsOf experiment.experimentId).filter keep).map times.participantRow ∧
      ∀ row, keep row = true → db.InCorpus experiment.experimentId row.participantId := by
  have inScope : ∀ v, (filterScopedTablesToSessions v).rows "participants" = v.rows "participants" :=
    fun v => rows_filterScopedTablesToSessions_other v (by decide) (by decide) (by decide)
  have research := rows_participants_filterParticipantsToSessions (filterScopedTablesToSessions
    (filterArrayByStringNotEqual "consent_declarations" "purpose" "testing"
      (filterArrayByStringNotEqual "sessions" "purpose" "testing"
        (exportRows times db experiment))))
  rw [inScope, filterArrayByStringNotEqual, Value.rows_retain, if_neg (by decide),
    filterArrayByStringNotEqual, Value.rows_retain, if_neg (by decide)] at research
  have left := rows_participants_filterParticipantsToSessions (filterScopedTablesToSessions
    ((excludeTestingSessions (exportRows times db experiment)).retain "sessions" fun row =>
      (stringMember "started_at" row).isSome))
  rw [inScope, Value.rows_retain, if_neg (by decide)] at left
  change (corpusGraph times db experiment).rows "participants" = _ at left
  change (excludeTestingSessions (exportRows times db experiment)).rows "participants" = _
    at research
  rw [left, research, rows_exportRows_participants, List.filter_filter, List.filter_map]
  refine ⟨_, rfl, fun row kept => ?_⟩
  rw [Function.comp_apply, Bool.and_eq_true] at kept
  exact integerMember_participants times experiment unique
    ((hasMemberIn_iff (participantRow_participant_id times row)).mp kept.1)

theorem consentRow_purpose (consent : ConsentDeclarationRow) :
    stringMember "purpose" (times.consentRow consent) = some consent.purpose := by
  rw [TimeTexts.consentRow, stringMember_json]
  rfl

theorem consentRow_participant_id (consent : ConsentDeclarationRow) :
    integerMember "participant_id" (times.consentRow consent) = some consent.participantId := by
  rw [TimeTexts.consentRow, integerMember_json]
  rfl

theorem consentRow_session_id (consent : ConsentDeclarationRow) :
    integerMember "session_id" (times.consentRow consent) = consent.sessionId := by
  rw [TimeTexts.consentRow, integerMember_json]
  cases consent.sessionId <;> rfl

theorem rows_exportRows_consent_declarations :
    (exportRows times db experiment).rows "consent_declarations" =
      (db.consentsOf experiment.experimentId).map times.consentRow := by
  rw [Value.rows, exportRows, Value.get?_json]
  rfl

/-- The consents left are research declarations of the sessions and participants left. -/
theorem mem_rows_corpusGraph_consents (unique : Table.Unique SessionEntry.key db.sessions)
    {row : Value} (mem : row ∈ (corpusGraph times db experiment).rows "consent_declarations") :
    ∃ consent ∈ db.consentDeclarations, row = times.consentRow consent ∧
      consent.experimentId = experiment.experimentId ∧ consent.purpose ≠ "testing" ∧
      match consent.sessionId with
      | some id => ∃ entry ∈ db.corpusSessions experiment.experimentId, entry.key.sessionId = id
      | none => db.InCorpus experiment.experimentId consent.participantId := by
  have left := rows_consents_filterScopedTablesToSessions
    ((excludeTestingSessions (exportRows times db experiment)).retain "sessions" fun row =>
      (stringMember "started_at" row).isSome)
  have research := rows_consents_filterScopedTablesToSessions
    (filterArrayByStringNotEqual "consent_declarations" "purpose" "testing"
      (filterArrayByStringNotEqual "sessions" "purpose" "testing"
        (exportRows times db experiment)))
  change (corpusGraph times db experiment).rows "consent_declarations" = List.filter (keepsConsent
    (sessionIdsOf (corpusGraph times db experiment))
    (participantIdsOf (corpusGraph times db experiment))) _ at left
  change (excludeTestingSessions (exportRows times db experiment)).rows "consent_declarations" = _
    at research
  rw [Value.rows_retain, if_neg (by decide), research, filterArrayByStringNotEqual,
    Value.rows_retain, if_pos rfl, filterArrayByStringNotEqual, Value.rows_retain,
    if_neg (by decide), rows_exportRows_consent_declarations] at left
  rw [left] at mem
  obtain ⟨mem, kept⟩ := List.mem_filter.mp mem
  obtain ⟨mem, purpose⟩ := List.mem_filter.mp (List.mem_of_mem_filter mem)
  obtain ⟨consent, consentMem, rfl⟩ := List.mem_map.mp mem
  rw [Database.consentsOf, List.mem_insertionSort, List.mem_filter, beq_iff_eq] at consentMem
  rw [consentRow_purpose] at purpose
  refine ⟨consent, consentMem.1, rfl, consentMem.2, by simpa using purpose, ?_⟩
  rw [keepsConsent, consentRow_session_id] at kept
  cases session : consent.sessionId with
  | some id =>
    rw [session] at kept
    exact (mem_sessionIdsOf_corpusGraph times experiment).mp (List.contains_iff_mem.mp kept)
  | none =>
    rw [session] at kept
    exact integerMember_participants times experiment unique
      ((hasMemberIn_iff (consentRow_participant_id times consent)).mp kept)

end

theorem forall₂_mem_right {α β : Type} {R : α → β → Prop} {xs : List α} {ys : List β}
    (pairs : List.Forall₂ R xs ys) {y : β} (mem : y ∈ ys) : ∃ x ∈ xs, R x y := by
  induction pairs with
  | nil => cases mem
  | cons pair _ ih =>
    rcases List.mem_cons.mp mem with rfl | later
    · exact ⟨_, .head _, pair⟩
    · obtain ⟨x, xMem, is⟩ := ih later
      exact ⟨x, .tail _ xMem, is⟩

/-- Redaction takes none of the names away. -/
theorem nameKeys_plain : isRedactedKey "participant_id" = false ∧ isRedactedKey "role" = false := by
  decide +kernel

theorem asStr?_redact (v : Value) : (redactSecretFields v).asStr? = v.asStr? := by
  cases v <;> rfl

theorem stringMember_redact {key : String} (plain : isRedactedKey key = false) (v : Value) :
    stringMember key (redactSecretFields v) = stringMember key v := by
  rw [stringMember, stringMember, Value.get?_redact]
  cases v.get? key with
  | none => rfl
  | some child =>
    change (redactChild key child).asStr? = child.asStr?
    rw [redactChild, plain]
    exact asStr?_redact child

/-- The catalogue lists a participant under the research id. -/
theorem projectParticipant_ok {times : TimeTexts} {row : ParticipantRow}
    {projected : Int × String × Value}
    (h : projectParticipant (times.participantRow row) = .ok projected) :
    projected.1 = row.participantId ∧ projected.2.1 = row.researchId ∧
      stringMember "participant_id" projected.2.2 = some row.researchId := by
  unfold projectParticipant at h
  obtain ⟨internalId, number, h⟩ := Except.of_bind_ok h
  obtain ⟨publicId, name, h⟩ := Except.of_bind_ok h
  cases h
  have number := required_ok number
  have name := (Option.filter_eq_some_iff.mp (required_ok name)).1
  rw [participantRow_participant_id] at number
  rw [participantRow_research_id] at name
  refine ⟨(Option.some.inj number).symm, (Option.some.inj name).symm, ?_⟩
  rw [stringMember_json]
  exact name.symm

section

variable {times : TimeTexts} {rows : List ParticipantRow}
  {projected : List (Int × String × Value)}

/-- The names by which sessions refer to participants are research ids of the catalogue. -/
theorem of_publicNames
    (catalogue : List.Forall₂ (fun row participant =>
      projectParticipant (times.participantRow row) = .ok participant) rows projected)
    {n : Int} {name : String} (found : (publicNames projected).lookup n = some name) :
    ∃ row ∈ rows, row.participantId = n ∧ row.researchId = name := by
  have fold : ∀ {projected : List (Int × String × Value)} {names : Map Int String},
      (projected.foldl (fun ids participant => AList.insert participant.1 participant.2.1 ids)
        names).lookup n = some name →
      names.lookup n = some name ∨ ∃ p ∈ projected, p.1 = n ∧ p.2.1 = name := by
    intro projected
    induction projected with
    | nil => exact .inl
    | cons participant projected ih =>
      intro names found
      rcases ih found with old | ⟨p, mem, is⟩
      · rw [Map.lookup_insert_eq] at old
        split at old
        · rename_i same
          exact .inr ⟨participant, .head _, same.symm, Option.some.inj old⟩
        · exact .inl old
      · exact .inr ⟨p, .tail _ mem, is⟩
  rcases fold found with none | ⟨p, mem, number, named⟩
  · cases none
  · have pairs := catalogue
    clear found fold
    induction pairs with
    | nil => cases mem
    | cons pair pairs ih =>
      rcases List.mem_cons.mp mem with rfl | later
      · obtain ⟨number', named', -⟩ := projectParticipant_ok pair
        exact ⟨_, .head _, number'.symm.trans number, named'.symm.trans named⟩
      · obtain ⟨row, rowMem, is⟩ := ih pairs later
        exact ⟨row, .tail _ rowMem, is⟩

/-- The document names the participants of the catalogue, each where its row stands. -/
theorem countP_catalogue
    (catalogue : List.Forall₂ (fun row participant =>
      projectParticipant (times.participantRow row) = .ok participant) rows projected)
    (name : String) :
    ((projected.map fun participant => redactSecretFields participant.2.2).countP fun document =>
      stringMember "participant_id" document == some name) =
        (rows.map ParticipantRow.researchId).count name := by
  induction catalogue with
  | nil => rfl
  | cons pair pairs ih =>
    obtain ⟨-, -, named⟩ := projectParticipant_ok pair
    rw [List.map_cons, List.map_cons, List.countP_cons, List.count_cons, ih,
      stringMember_redact nameKeys_plain.1, named]
    rfl

end

/-- An assignment has the name of its participant and the role of its row. -/
theorem projectAssignment_ok {times : TimeTexts} {names : Map Int String} {key : SessionKey}
    {member : SessionParticipantRow} {document : Value}
    (h : projectAssignment names (times.sessionParticipantRow key member) = .ok document) :
    ∃ name, names.lookup member.participantId = some name ∧
      stringMember "participant_id" document = some name ∧
      stringMember "role" document = some member.role.asStr := by
  unfold projectAssignment at h
  obtain ⟨name, found, h⟩ := Except.of_bind_ok h
  cases h
  have found := required_ok found
  rw [sessionParticipantRow_participant_id] at found
  refine ⟨name, found, ?_, ?_⟩
  · rw [stringMember_json]
    rfl
  · rw [stringMember_json, TimeTexts.sessionParticipantRow, index_json]
    rfl

/-- Whoever an event of the corpus names is in the catalogue. -/
theorem name_of_projectEvent {context : SessionContext} {row document : Value} {name : String}
    (h : context.projectEvent row = .ok document)
    (named : stringMember "participant_id" document = some name) :
    ∃ n, context.participantIds.lookup n = some name := by
  have actor : ∀ {name}, context.actor row = some name →
      ∃ n, context.participantIds.lookup n = some name := by
    intro name found
    obtain ⟨n, -, found⟩ := Option.bind_eq_some_iff.mp found
    exact ⟨n, found⟩
  unfold SessionContext.projectEvent at h
  obtain ⟨gameTimeMs, -, h⟩ := Except.of_bind_ok h
  split at h
  · unfold SessionContext.projectAction at h
    obtain ⟨participant, found, h⟩ := Except.of_bind_ok h
    cases h
    rw [stringMember_json] at named
    exact actor ((required_ok found).trans named)
  · split at h
    · unfold SessionContext.projectMessage at h
      obtain ⟨participant, found, h⟩ := Except.of_bind_ok h
      obtain ⟨tokens, -, h⟩ := Except.of_bind_ok h
      cases h
      rw [stringMember_json] at named
      exact actor ((required_ok found).trans named)
    · cases h
      rw [SessionContext.projectLog, stringMember_json] at named
      refine actor ?_
      cases found : context.actor row with
      | none =>
        rw [found] at named
        cases named
      | some participant =>
        rw [found] at named
        exact named

def timesListed (doc : Value) (name : String) : Nat :=
  (exportedParticipants doc).countP fun participant =>
    stringMember "participant_id" participant == some name

/--
An exported session stands for a stored one: its assignments are the two members, its events are
projected from the session's own, and whomever they name the document lists once.
-/
structure ExportedFrom (times : TimeTexts) (db : Database) (doc : Value) (entry : SessionEntry)
    (session : Value) : Prop where
  name : session.index "session_id" = .string entry.dialogueId
  members : List.Forall₂ (fun member assignment =>
    stringMember "role" assignment = some member.role.asStr ∧
      ∃ row ∈ db.participants, row.participantId = member.participantId ∧
        stringMember "participant_id" assignment = some row.researchId)
    entry.store.membersByRole (session.rows "participants")
  roles : ∃ first second, session.rows "participants" = [first, second] ∧
    stringMember "role" first ≠ stringMember "role" second
  events : ∃ names, List.Forall₂ (fun event document => ∃ projected,
      (entry.context times names).projectEvent (times.eventRow entry.key event) = .ok projected ∧
        document = redactSecretFields projected)
    entry.semanticEvents (session.rows "events")
  listed : ∀ row ∈ session.rows "participants" ++ session.rows "events", ∀ name,
    stringMember "participant_id" row = some name → timesListed doc name = 1

/-- The corpus holds the started research sessions, all of them and whole, and nothing else. -/
structure ClosedCorpus (times : TimeTexts) (db : Database) (experimentId : String) (doc : Value) :
    Prop where
  research : ∀ entry, entry ∈ db.corpusSessions experimentId ↔
    entry ∈ db.sessions ∧ entry.key.experimentId = experimentId ∧
      entry.store.row.purpose = .research ∧ entry.store.row.startedAt.isSome = true
  sessions : List.Forall₂ (ExportedFrom times db doc) (db.corpusSessions experimentId)
    (exportedSessions doc)
  participants : ∀ participant ∈ exportedParticipants doc, ∃ row ∈ db.participants,
    stringMember "participant_id" participant = some row.researchId ∧
      db.InCorpus experimentId row.participantId
  consents : ∀ experiment : ExperimentRow, experiment.experimentId = experimentId →
    ∀ row ∈ (corpusGraph times db experiment).rows "consent_declarations",
      ∃ consent ∈ db.consentDeclarations, row = times.consentRow consent ∧
        consent.experimentId = experimentId ∧ consent.purpose ≠ "testing" ∧
        match consent.sessionId with
        | some id => ∃ entry ∈ db.corpusSessions experimentId, entry.key.sessionId = id
        | none => db.InCorpus experimentId consent.participantId

section

variable {db : Database} {experimentId : String} {doc : Value}

theorem mem_corpusSessions_iff (entry : SessionEntry) :
    entry ∈ db.corpusSessions experimentId ↔
      entry ∈ db.sessions ∧ entry.key.experimentId = experimentId ∧
        entry.store.row.purpose = .research ∧ entry.store.row.startedAt.isSome = true := by
  rw [Database.mem_corpusSessions, SessionEntry.inCorpus, Bool.and_eq_true, beq_iff_eq, and_assoc]

/-- The two assignments of a session have different roles. -/
theorem roles_of_assignments {members : List SessionParticipantRow} {documents : List Value}
    (pairs : List.Forall₂ (fun member document =>
      stringMember "role" document = some member.role.asStr) members documents)
    (two : documents.length = 2) (roles : (members.map SessionParticipantRow.role).Nodup) :
    ∃ first second, documents = [first, second] ∧
      stringMember "role" first ≠ stringMember "role" second := by
  obtain ⟨first, second, rfl⟩ := List.length_eq_two.mp two
  obtain ⟨a, rest, roleA, later, rfl⟩ := List.forall₂_cons_right_iff.mp pairs
  obtain ⟨b, others, roleB, -, same⟩ := List.forall₂_cons_right_iff.mp later
  subst same
  refine ⟨first, second, rfl, fun same => ?_⟩
  rw [roleA, roleB] at same
  have differ : a.role ≠ b.role := by
    intro equal
    simp [equal] at roles
  cases hA : a.role <;> cases hB : b.role <;> simp_all [PlayerRole.asStr]

theorem Projection.exportedFrom {times : TimeTexts} {rows : List ParticipantRow}
    {projected : List (Int × String × Value)} {entry : SessionEntry} {session : Value}
    (projection : Projection times (publicNames projected) entry session)
    (catalogue : List.Forall₂ (fun row participant =>
      projectParticipant (times.participantRow row) = .ok participant) rows projected)
    (stored : ∀ row ∈ rows, row ∈ db.participants)
    (distinct : (rows.map ParticipantRow.researchId).Nodup)
    (exported : exportedParticipants doc =
      projected.map fun participant => redactSecretFields participant.2.2)
    (roles : Table.Unique SessionParticipantRow.role entry.store.members) :
    ExportedFrom times db doc entry (redactSecretFields session) := by
  obtain ⟨assignments, events, rfl, fromEvents, assigned, two⟩ := projection
  have once : ∀ {n name}, (publicNames projected).lookup n = some name →
      timesListed doc name = 1 := by
    intro n name found
    obtain ⟨row, mem, -, rfl⟩ := of_publicNames catalogue found
    rw [timesListed, exported, countP_catalogue catalogue]
    exact List.count_eq_one_of_mem distinct (List.mem_map_of_mem mem)
  have assignmentRows : (redactSecretFields (sessionDocument (times.sessionRow entry)
      entry.dialogueId (entry.store.row.startedAt.map fun startedAt =>
        startedAt.millis - entry.store.row.createdAt.millis) none assignments events)).rows
          "participants" = assignments.map redactSecretFields := by
    rw [Value.rows_redact _ (by decide), sessionDocument_participants]
  have eventRows : (redactSecretFields (sessionDocument (times.sessionRow entry)
      entry.dialogueId (entry.store.row.startedAt.map fun startedAt =>
        startedAt.millis - entry.store.row.createdAt.millis) none assignments events)).rows
          "events" = events.map redactSecretFields := by
    rw [Value.rows_redact _ (by decide), sessionDocument_events]
  have members : List.Forall₂ (fun member document =>
      ∃ name, (publicNames projected).lookup member.participantId = some name ∧
        stringMember "participant_id" document = some name ∧
        stringMember "role" document = some member.role.asStr)
      entry.store.membersByRole (assignments.map redactSecretFields) := by
    rw [List.forall₂_map_right_iff]
    refine assigned.imp fun member document projected => ?_
    obtain ⟨name, found, named, role⟩ := projectAssignment_ok projected
    exact ⟨name, found, (stringMember_redact nameKeys_plain.1 _).trans named,
      (stringMember_redact nameKeys_plain.2 _).trans role⟩
  constructor
  · rw [Value.index_redact _ (by decide), sessionDocument_session_id]
    rfl
  · rw [assignmentRows]
    refine members.imp fun member document ⟨name, found, named, role⟩ => ?_
    obtain ⟨row, mem, number, rfl⟩ := of_publicNames catalogue found
    exact ⟨role, row, stored row mem, number, named⟩
  · rw [assignmentRows]
    refine roles_of_assignments (members.imp fun _ _ ⟨_, _, _, role⟩ => role)
      (by rw [List.length_map, two]) ?_
    exact ((List.perm_insertionSort _ _).map _).nodup_iff.mpr roles
  · rw [eventRows]
    refine ⟨publicNames projected, List.forall₂_map_right_iff.mpr (fromEvents.imp ?_)⟩
    intro event document projected
    exact ⟨document, projected, rfl⟩
  · rw [assignmentRows, eventRows]
    intro row mem name named
    rcases List.mem_append.mp mem with mem | mem
    · obtain ⟨member, -, other, found, named', -⟩ := forall₂_mem_right members mem
      cases named.symm.trans named'
      exact once found
    · obtain ⟨document, documentMem, rfl⟩ := List.mem_map.mp mem
      obtain ⟨event, -, projected⟩ := forall₂_mem_right fromEvents documentMem
      rw [stringMember_redact nameKeys_plain.1] at named
      obtain ⟨n, found⟩ := name_of_projectEvent projected named
      exact once found

end

/-- Every export that succeeds is closed, complete and free of test data. -/
theorem exported_corpus_is_closed {state : ExportState} {db : Database}
    {experiments : List ExperimentRow} {experimentId : String} {doc : Value}
    (recorded : db.Recorded)
    (exported : state.adminExport db experiments experimentId = .ok doc) :
    ClosedCorpus state.times db experimentId doc := by
  obtain ⟨experiment, value, projected, sessions, rfl, catalogue, rfl, projections⟩ :=
    adminExport_projects recorded.sessions exported
  obtain ⟨keep, left, kept⟩ := rows_corpusGraph_participants state.times experiment recorded.sessions
  rw [left, List.forall₂_map_left_iff] at catalogue
  have stored : ∀ row ∈ (db.participantsOf experiment.experimentId).filter keep,
      row ∈ db.participants := by
    intro row mem
    have mem := List.mem_of_mem_filter mem
    rw [Database.participantsOf, List.mem_insertionSort] at mem
    exact List.mem_of_mem_filter mem
  have distinct : (((db.participantsOf experiment.experimentId).filter keep).map
      ParticipantRow.researchId).Nodup := by
    refine List.Nodup.sublist (List.filter_sublist.map _) ?_
    refine ((List.perm_insertionSort _ _).map _).nodup_iff.mpr ?_
    exact List.Nodup.sublist (List.filter_sublist.map _) recorded.researchIds
  have listing : ∀ doc, exportedParticipants (redactSecretFields doc) =
      (exportedParticipants doc).map redactSecretFields := by
    intro doc
    rw [exportedParticipants, Value.index_redact _ (by decide), Value.rows_redact _ (by decide)]
    rfl
  constructor
  · exact mem_corpusSessions_iff
  · rw [exportedSessions_redact, exportedSessions_corpusDocument, List.forall₂_map_right_iff]
    have pairs := (List.forall₂_and_left _ _).mpr ⟨fun _ mem => mem, projections⟩
    refine pairs.imp fun entry session ⟨mem, projection⟩ => ?_
    refine projection.exportedFrom catalogue stored distinct ?_
      (recorded.roles (Database.mem_corpusSessions.mp mem).1.1)
    rw [listing, exportedParticipants, corpusDocument_participants, List.map_map]
    rfl
  · rw [listing, exportedParticipants, corpusDocument_participants]
    intro participant mem
    obtain ⟨document, documentMem, rfl⟩ := List.mem_map.mp mem
    obtain ⟨p, pMem, rfl⟩ := List.mem_map.mp documentMem
    obtain ⟨row, rowMem, projected⟩ := forall₂_mem_right catalogue pMem
    obtain ⟨-, -, named⟩ := projectParticipant_ok projected
    exact ⟨row, stored row rowMem, (stringMember_redact nameKeys_plain.1 _).trans named,
      kept row (List.of_mem_filter rowMem)⟩
  · intro other same row mem
    rw [← same]
    exact mem_rows_corpusGraph_consents state.times other recorded.sessions mem

/-- Both participants' rows are written, the creator's by the rest of the own request. -/
def TallyAction.membersWritten : List TallyAction :=
  .spawn (.admission (human 1) (.persist .A)) :: steps 0 4 0 ++
    .spawn (.pair (human 2) .find) :: steps 1 6 0

theorem playedDatabase_recorded (action : Value) : (playedDatabase action).Recorded where
  sessions := playedDatabase_unique action
  participants := by
    change ([1, 2] : List Int).Nodup
    decide
  researchIds := by
    change ["calm-otter", "red-owl"].Nodup
    decide
  memberships entry mem := by
    cases List.mem_singleton.mp mem
    change [ParticipantSessionId.human 1, .human 2].Nodup
    decide
  written entry mem := by
    cases List.mem_singleton.mp mem
    have h : ((sessionMachine tallyGame {}).exec (TallyAction.creation.initial {})
        TallyAction.membersWritten).map (fun w => w.shared.store.seats) =
          some [(.human 1, .A), (.human 2, .B)] := rfl
    obtain ⟨room, ran, seats⟩ := Option.map_eq_some_iff.mp h
    refine ⟨tallyGame, {}, 0, room, ⟨TallyAction.creation, .exec .refl ?_ ran⟩, seats.symm⟩
    intro action mem _ call pc same
    subst same
    simp [TallyAction.membersWritten, TallyAction.steps] at mem

theorem exported_corpus_is_closed_played :
    ∃ doc, exportState.adminExport (playedDatabase .null) exportedExperiments "exp" = .ok doc ∧
      ClosedCorpus exportState.times (playedDatabase .null) "exp" doc := by
  obtain ⟨doc, exported⟩ := playedDatabase_exported
  exact ⟨doc, exported, exported_corpus_is_closed (playedDatabase_recorded _) exported⟩

end Parlando
