import Parlando.Data.Except
import Parlando.Proofs.Store
import Parlando.StoreMachine

namespace Parlando

namespace Database

variable {db : Database} {key : SessionKey} {entry : SessionEntry} {experimentId : String}

/-- The number handed out next is larger than every number in use. -/
theorem lt_nextSessionId (mem : entry ∈ db.sessions) (same : entry.key.experimentId = experimentId) :
    entry.key.sessionId < db.nextSessionId experimentId := by
  have used : entry.key.sessionId ∈ (db.sessions.filter fun entry =>
      entry.key.experimentId == experimentId).map fun entry => entry.key.sessionId :=
    List.mem_map.mpr ⟨entry, List.mem_filter.mpr ⟨mem, by simp [same]⟩, rfl⟩
  obtain ⟨largest, found⟩ := Option.isSome_iff_exists.mp (List.isSome_max?_of_mem used)
  have bound := (List.max?_eq_some_iff.mp found).2 _ used
  rw [nextSessionId, found]
  simp only [Option.getD_some]
  omega

theorem nextSessionId_fresh (experimentId : String) :
    ∀ entry ∈ db.sessions, entry.key ≠ ⟨experimentId, db.nextSessionId experimentId⟩ := by
  intro entry mem same
  have bound := lt_nextSessionId mem (congrArg SessionKey.experimentId same)
  rw [same] at bound
  exact absurd bound (Int.lt_irrefl _)

/-- Writing back what a session holds changes nothing. -/
theorem setStore_self (unique : Table.Unique SessionEntry.key db.sessions)
    (found : db.session? key = some entry) : db.setStore key entry.store = db := by
  rw [setStore, unique.update_self found rfl]

theorem unique_setStore (unique : Table.Unique SessionEntry.key db.sessions)
    (store : SessionStore) : Table.Unique SessionEntry.key (db.setStore key store).sessions :=
  unique.update fun _ => rfl

theorem mem_setStore {store : SessionStore} (mem : entry ∈ (db.setStore key store).sessions) :
    ∃ old ∈ db.sessions,
      entry = { old with store := if old.key = key then store else old.store } := by
  obtain ⟨old, oldMem, rfl⟩ := Table.mem_update mem
  refine ⟨old, oldMem, ?_⟩
  split <;> rfl

theorem session?_setStore (unique : Table.Unique SessionEntry.key db.sessions)
    (found : db.session? key = some entry) (store : SessionStore) :
    (db.setStore key store).session? key = some { entry with store } := by
  obtain ⟨mem, rfl⟩ := Table.find?_mem found
  have written : ({ entry with store } : SessionEntry) ∈
      (db.setStore entry.key store).sessions :=
    List.mem_map.mpr ⟨entry, mem, if_pos rfl⟩
  exact (unique_setStore unique store).find? written

theorem updateSession_cases (db : Database) (key : SessionKey)
    (update : SessionStore → SessionStore × Bool) :
    (∃ entry, db.session? key = some entry ∧ db.updateSession key update =
      (db.setStore key (update entry.store).1, (update entry.store).2)) ∨
    (db.session? key = none ∧ db.updateSession key update = (db, false)) := by
  unfold updateSession
  cases found : db.session? key with
  | none => exact .inr ⟨rfl, rfl⟩
  | some entry => exact .inl ⟨entry, rfl, rfl⟩

variable {participantId : Int} {preview : ParticipantDataPreview}

/-- The session's dialogue is among those a preview of the participant's data lists. -/
def listed (db : Database) (experimentId : String) (participantId : Int) (entry : SessionEntry) :
    Bool :=
  entry.key.experimentId == experimentId &&
    (db.participantDataPreview experimentId participantId).sessionIds.contains entry.dialogueId

theorem listed_of_involves (mem : entry ∈ db.sessions)
    (involved : involves experimentId participantId entry = true) :
    db.listed experimentId participantId entry = true := by
  have inExperiment := (Bool.and_eq_true_iff.mp involved).1
  simp only [listed, inExperiment, participantDataPreview, List.contains_eq_mem,
    List.mem_mergeSort, List.mem_map, List.mem_filter, Bool.true_and, decide_eq_true_eq]
  exact ⟨entry, ⟨mem, involved⟩, rfl⟩

/-- The tables without the rows a deletion of the participant's data removes. -/
def withoutParticipant (db : Database) (experimentId : String) (participantId : Int) : Database :=
  { db with
    participants := db.participants.filter fun row =>
      !(row.experimentId == experimentId && row.participantId == participantId)
    sessions := db.sessions.filter fun entry => !db.listed experimentId participantId entry
    consentDeclarations := (db.deleteConsents experimentId participantId).consentDeclarations }

/-- Clearing rows of sessions that are removed afterwards makes no difference. -/
theorem filter_map_cleared {p : SessionEntry → Bool} {f : SessionEntry → SessionEntry}
    {entries : List SessionEntry} (same : ∀ entry ∈ entries, p (f entry) = p entry)
    (kept : ∀ entry ∈ entries, p entry = true → f entry = entry) :
    (entries.map f).filter p = entries.filter p := by
  induction entries with
  | nil => rfl
  | cons entry entries ih =>
    have rest := ih (fun e mem => same e (.tail _ mem)) fun e mem => kept e (.tail _ mem)
    have head := same entry (.head _)
    cases picked : p entry with
    | true =>
      have id := kept entry (.head _) picked
      simp only [List.map_cons, List.filter_cons, picked, if_true, id, rest]
    | false => simp [head, picked, rest]

/-- A session whose rows of both child tables are deleted where the participant is a member. -/
def cleared (experimentId : String) (participantId : Int) (entry : SessionEntry) : SessionEntry :=
  if involves experimentId participantId entry then
    { entry with store := { entry.store with events := [], members := [] } }
  else entry

theorem deleteMembers_deleteEvents (db : Database) (experimentId : String) (participantId : Int) :
    ((db.deleteEvents experimentId participantId).deleteMembers experimentId participantId) =
      { db with sessions := db.sessions.map (cleared experimentId participantId) } := by
  simp only [deleteEvents, deleteMembers, List.map_map]
  congr 1
  refine List.map_congr_left fun entry _ => ?_
  simp only [Function.comp, cleared]
  by_cases involved : involves experimentId participantId entry = true
  · simp only [involved, if_true]
    rw [if_pos]
    exact involved
  · simp only [involved, Bool.false_eq_true, if_false]

/-- The session is about to be removed for its dialogue only, and its rows stand in the way. -/
def obstructs (db : Database) (experimentId : String) (participantId : Int)
    (entry : SessionEntry) : Bool :=
  db.listed experimentId participantId entry && !involves experimentId participantId entry &&
    !(entry.store.events.isEmpty && entry.store.members.isEmpty)

/-- What a deletion of sessions by dialogue does after the child rows were deleted. -/
theorem deleteSessions_cleared (db : Database) (experimentId : String) (participantId : Int) :
    (((db.deleteConsents experimentId participantId).deleteEvents experimentId
      participantId).deleteMembers experimentId participantId).deleteSessions experimentId
        (db.participantDataPreview experimentId participantId).sessionIds =
      if db.sessions.any (db.obstructs experimentId participantId) then .error foreignKeyFailed
      else .ok { db.withoutParticipant experimentId participantId with
        participants := db.participants } := by
  have blocked : ∀ entry, (db.listed experimentId participantId
      (cleared experimentId participantId entry) &&
      !((cleared experimentId participantId entry).store.events.isEmpty &&
        (cleared experimentId participantId entry).store.members.isEmpty)) =
      db.obstructs experimentId participantId entry := by
    intro entry
    unfold cleared obstructs
    cases involved : involves experimentId participantId entry <;>
      simp [listed]
  have gone : (db.sessions.map (cleared experimentId participantId)).filter (fun entry =>
      !db.listed experimentId participantId entry) =
      db.sessions.filter fun entry => !db.listed experimentId participantId entry := by
    refine filter_map_cleared (fun entry _ => ?_) fun entry mem other => ?_
    · unfold cleared
      split <;> rfl
    · refine if_neg fun involved => ?_
      rw [listed_of_involves mem involved] at other
      cases other
  rw [deleteMembers_deleteEvents]
  change (if (db.sessions.map (cleared experimentId participantId)).any (fun entry =>
      db.listed experimentId participantId entry &&
        !(entry.store.events.isEmpty && entry.store.members.isEmpty)) then _
    else Except.ok { db.deleteConsents experimentId participantId with
      sessions := (db.sessions.map (cleared experimentId participantId)).filter fun entry =>
        !db.listed experimentId participantId entry }) = _
  rw [List.any_map, gone]
  simp only [Function.comp_def, blocked]
  rfl

/-- The participant is still referred to once the deletion's other statements have run. -/
def leftReferenced (db : Database) (experimentId : String) (participantId : Int) : Bool :=
  (db.participants.any fun row =>
    row.experimentId == experimentId && row.participantId == participantId) &&
    (db.withoutParticipant experimentId participantId).participantReferenced participantId

/-- What the deletion of the participant's own row does after all its other statements. -/
theorem deleteParticipant_last (db : Database) (experimentId : String) (participantId : Int) :
    ({ db.withoutParticipant experimentId participantId with
      participants := db.participants } : Database).deleteParticipant experimentId participantId =
      if db.leftReferenced experimentId participantId then .error foreignKeyFailed
      else .ok (db.withoutParticipant experimentId participantId) := rfl

/-- The transaction `delete_participant_data` by its outcomes. -/
theorem deleteParticipantData_eq (db : Database) (experimentId : String) (participantId : Int) :
    db.deleteParticipantData experimentId participantId =
      if (db.participantDataPreview experimentId participantId).hasNonTerminalSession then
        .error "affected sessions are live or non-terminal"
      else if db.sessions.any (db.obstructs experimentId participantId) ||
          db.leftReferenced experimentId participantId then .error foreignKeyFailed
      else .ok (db.withoutParticipant experimentId participantId,
        db.participantDataPreview experimentId participantId) := by
  simp only [deleteParticipantData]
  split
  · rfl
  · rw [deleteSessions_cleared]
    cases db.sessions.any (db.obstructs experimentId participantId)
    · have verified : ((db.withoutParticipant experimentId participantId).participants.any
          fun row => row.experimentId == experimentId && row.participantId == participantId) =
            false := by
        refine List.any_eq_false.mpr fun row mem same => ?_
        have kept := (List.mem_filter.mp mem).2
        rw [same] at kept
        cases kept
      simp only [Bool.false_eq_true, if_false, Bool.false_or]
      change (Database.deleteParticipant _ _ _ >>= _) = _
      rw [deleteParticipant_last]
      cases db.leftReferenced experimentId participantId
      · change (if _ then _ else _) = _
        rw [verified]
        rfl
      · rfl
    · rfl

/-- A deletion that succeeds found every affected session ended, and removed its rows. -/
theorem deleteParticipantData_ok {db' : Database}
    (h : db.deleteParticipantData experimentId participantId = .ok (db', preview)) :
    preview = db.participantDataPreview experimentId participantId ∧
      preview.hasNonTerminalSession = false ∧
      db' = db.withoutParticipant experimentId participantId := by
  rw [deleteParticipantData_eq] at h
  repeat' split at h
  all_goals cases h
  rename_i ended _
  exact ⟨rfl, by simpa using ended, rfl⟩

end Database

namespace Operation

variable {db db' : Database} {operation : Operation} {answer : Answer} {key : SessionKey}

/--
A transaction on one session does to that session's rows what it does to a session on its own, and
nothing to any other row; without the session it changes nothing.
-/
theorem apply_target (unique : Table.Unique SessionEntry.key db.sessions)
    (target : operation.target? = some key) (h : operation.apply db = .ok (db', answer)) :
    (∃ entry, db.session? key = some entry ∧
      db' = db.setStore key (operation.onStore entry.store).1 ∧
      answer = accepted (operation.onStore entry.store).2) ∨
    (db.session? key = none ∧ db' = db ∧ ∀ key, answer ≠ .created key) := by
  cases found : db.session? key with
  | none =>
    refine .inr ⟨rfl, ?_⟩
    cases operation <;> simp only [target?, reduceCtorEq, Option.some.injEq] at target
    case commitSessionTransition events sessionEnd now =>
      cases events with
      | nil => cases target
      | cons first events =>
        simp only [List.head?_cons, Option.map_some, Option.some.injEq] at target
        subst target
        simp only [apply, Database.commitSessionTransition, found] at h
        split at h <;> cases h
    all_goals
      subst target
      simp only [apply, Database.completeSessionInitialization, Database.startSession,
        Database.touchSessionActivity, Database.updateSession, Database.failSessionInitialization,
        Database.addSessionParticipant, Database.appendSessionEvent, Database.endSession,
        found] at h
      cases h <;> exact ⟨rfl, nofun⟩
  | some entry =>
    refine .inl ⟨entry, rfl, ?_⟩
    have self := Database.setStore_self unique found
    cases operation <;> simp only [target?, reduceCtorEq, Option.some.injEq] at target
    case commitSessionTransition events sessionEnd now =>
      cases events with
      | nil => cases target
      | cons first events =>
        simp only [List.head?_cons, Option.map_some, Option.some.injEq] at target
        subst target
        simp only [apply, Database.commitSessionTransition, found] at h
        repeat' split at h
        all_goals cases h
        · rename_i ended
          have refused := entry.store.commitSessionTransition_ended
            ((first :: events).map Prod.snd) sessionEnd now ended
          simp only [onStore, refused, self, and_self]
        · exact ⟨rfl, rfl⟩
    case endSession key record sessionEnd now =>
      subst target
      simp only [apply, Database.endSession, found] at h
      repeat' split at h
      all_goals cases h
      · rename_i ended
        simp only [onStore, SessionStore.endSession_ended ended, self, and_self]
      · exact ⟨rfl, rfl⟩
    all_goals
      subst target
      simp only [apply, Database.completeSessionInitialization, Database.startSession,
        Database.touchSessionActivity, Database.updateSession, Database.failSessionInitialization,
        Database.addSessionParticipant, Database.appendSessionEvent, found] at h
      repeat' split at h
      all_goals cases h
      all_goals exact ⟨rfl, rfl⟩

inductive SessionsChange (before after : List SessionEntry) (answer : Answer) : Prop where
  | removed (fewer : after.Sublist before) (other : ∀ key, answer ≠ .created key)
  | reconnected (id : ParticipantSessionId) (status : String)
      (leftAt reconnectDeadlineAt : Option Timestamp)
      (rows : after = before.map fun entry => { entry with
        store := entry.store.updateSessionParticipantConnection id status leftAt
          reconnectDeadlineAt }) (other : ∀ key, answer ≠ .created key)
  | created (session : SessionRecord) (sessionId : Int) (dialogueId : String) (purpose : Purpose)
      (now : Timestamp)
      (fresh : ∀ entry ∈ before, entry.key ≠ ⟨session.experimentId, sessionId⟩)
      (unused : ∀ entry ∈ before, entry.publicSessionId ≠ session.publicSessionId)
      (dialogue : ∀ entry ∈ before, entry.dialogueId ≠ dialogueId)
      (rows : after = before ++ [Database.newSession session sessionId dialogueId purpose now])
      (key : answer = .created ⟨session.experimentId, sessionId⟩)

/-- A new session takes the next number and identifiers nobody has. -/
theorem createSession_ok {session : SessionRecord} {dialogueIds : List String} {now : Timestamp}
    {sessionId : Int} (h : db.createSession session dialogueIds now = .ok (db', sessionId)) :
    ∃ dialogueId purpose, sessionId = db.nextSessionId session.experimentId ∧
      (∀ entry ∈ db.sessions, entry.publicSessionId ≠ session.publicSessionId) ∧
      (∀ entry ∈ db.sessions, entry.dialogueId ≠ dialogueId) ∧
      db' = { db with sessions :=
        db.sessions ++ [Database.newSession session sessionId dialogueId purpose now] } := by
  unfold Database.createSession at h
  repeat' split at h
  all_goals cases h
  rename_i dialogueId drawn unused _
  refine ⟨dialogueId, _, rfl, ?_, ?_, rfl⟩
  · intro entry mem same
    exact unused (List.any_eq_true.mpr ⟨entry, mem, by simp [same]⟩)
  · intro entry mem same
    have free := List.find?_some drawn
    simp only [Bool.not_eq_true', List.any_eq_false, beq_iff_eq] at free
    exact free entry mem same

/-- Transactions add participants under new numbers and remove them. -/
inductive ParticipantsChange (before after : Database) : Prop where
  | removed (fewer : after.participants.Sublist before.participants)
      (sequence : after.participantSequence = before.participantSequence)
  | inserted (row : ParticipantRow) (number : row.participantId = before.participantSequence + 1)
      (rows : after.participants = before.participants ++ [row])
      (sequence : after.participantSequence = before.participantSequence + 1)

theorem ParticipantsChange.same (participants : db'.participants = db.participants)
    (sequence : db'.participantSequence = db.participantSequence) : ParticipantsChange db db' :=
  .removed (participants ▸ List.Sublist.refl _) sequence

structure Registered (before after : Database) : Prop where
  sessions : after.sessions = before.sessions
  participants : ParticipantsChange before after

theorem insertParticipant_registered {participant : ParticipantRecord}
    {identifiers : List String} {now : Timestamp} {row : ParticipantRow}
    (h : db.insertParticipant participant identifiers now = .ok (db', row)) :
    Registered db db' := by
  unfold Database.insertParticipant at h
  split at h <;> cases h
  exact ⟨rfl, .inserted _ rfl rfl rfl⟩

theorem upsertParticipant_registered {participant : ParticipantRecord}
    {identifiers : List String} {now : Timestamp} {participantId : Int}
    (h : db.upsertParticipant participant identifiers now = .ok (db', participantId)) :
    Registered db db' := by
  simp only [Database.upsertParticipant] at h
  split at h
  · cases h
    exact ⟨rfl, .same rfl rfl⟩
  · obtain ⟨⟨inserted, row⟩, insert, h⟩ := Except.of_bind_ok h
    cases h
    exact insertParticipant_registered insert

theorem admitProlificSubmission_registered {submission : ProlificSubmissionRecord}
    {identifiers : List String} {id : ParticipantSessionId} {now : Timestamp}
    {admission : ProlificAdmission}
    (h : db.admitProlificSubmission submission identifiers id now = .ok (db', admission)) :
    Registered db db' := by
  unfold Database.admitProlificSubmission at h
  repeat' split at h
  · cases h
  · cases h
    exact ⟨rfl, .same rfl rfl⟩
  · obtain ⟨⟨inserted, row⟩, insert, h⟩ := Except.of_bind_ok h
    obtain ⟨sessions, change⟩ := insertParticipant_registered insert
    simp only at h
    split at h
    · cases h
    · cases h
      refine ⟨sessions, ?_⟩
      cases change with
      | removed fewer sequence => exact .removed fewer sequence
      | inserted row number rows sequence => exact .inserted row number rows sequence

theorem SessionsChange.same {before after : List SessionEntry} (rows : after = before)
    (other : ∀ key, answer ≠ .created key) : SessionsChange before after answer :=
  .removed (rows ▸ List.Sublist.refl _) other

/--
A transaction on no particular session removes sessions, marks a connection or adds one session,
and registers or removes participants.
-/
theorem apply_untargeted (target : operation.target? = none)
    (h : operation.apply db = .ok (db', answer)) :
    SessionsChange db.sessions db'.sessions answer ∧ ParticipantsChange db db' := by
  cases operation <;> simp only [target?, reduceCtorEq] at target
  case upsertParticipant =>
    obtain ⟨⟨inserted, row⟩, insert, h⟩ := Except.of_bind_ok h
    cases h
    obtain ⟨sessions, participants⟩ := upsertParticipant_registered insert
    exact ⟨.same sessions nofun, participants⟩
  case admitProlificSubmission =>
    obtain ⟨⟨inserted, row⟩, insert, h⟩ := Except.of_bind_ok h
    cases h
    obtain ⟨sessions, participants⟩ := admitProlificSubmission_registered insert
    exact ⟨.same sessions nofun, participants⟩
  case recordConsentDeclaration =>
    obtain ⟨inserted, insert, h⟩ := Except.of_bind_ok h
    cases h
    unfold Database.recordConsentDeclaration at insert
    split at insert <;> cases insert
    exact ⟨.same rfl nofun, .same rfl rfl⟩
  case createSession =>
    obtain ⟨⟨inserted, sessionId⟩, insert, h⟩ := Except.of_bind_ok h
    cases h
    obtain ⟨dialogueId, purpose, rfl, unused, dialogue, rfl⟩ := createSession_ok insert
    exact ⟨.created _ _ dialogueId purpose _ (db.nextSessionId_fresh _) unused dialogue rfl rfl,
      .same rfl rfl⟩
  case updateSessionParticipantConnection id status leftAt reconnectDeadlineAt =>
    cases h
    exact ⟨.reconnected id status leftAt reconnectDeadlineAt rfl nofun, .same rfl rfl⟩
  case commitSessionTransition events sessionEnd now =>
    cases events with
    | nil =>
      cases h
      exact ⟨.same rfl nofun, .same rfl rfl⟩
    | cons first events => cases target
  case deleteParticipantData experimentId participantId =>
    obtain ⟨⟨deleted, preview⟩, delete, h⟩ := Except.of_bind_ok h
    cases h
    obtain ⟨-, -, rfl⟩ := Database.deleteParticipantData_ok delete
    exact ⟨.removed List.filter_sublist nofun, .removed List.filter_sublist rfl⟩

theorem apply_participants (unique : Table.Unique SessionEntry.key db.sessions)
    (h : operation.apply db = .ok (db', answer)) : ParticipantsChange db db' := by
  cases target : operation.target? with
  | some key =>
    rcases apply_target unique target h with ⟨entry, -, rfl, -⟩ | ⟨-, rfl, -⟩
    · exact .same rfl rfl
    · exact .same rfl rfl
  | none => exact (apply_untargeted target h).2

theorem accepted_other (changed : Bool) (key : SessionKey) : accepted changed ≠ .created key := by
  cases changed <;> exact nofun

/-- Only `create_session` answers with a new session number. -/
theorem isCreation_of_created (h : operation.apply db = .ok (db', .created key)) :
    operation.isCreation = true := by
  cases operation
  case createSession => rfl
  case completeSessionInitialization => exact absurd (congrArg Prod.snd (Except.ok.inj h)) (accepted_other _ _)
  case startSession => exact absurd (congrArg Prod.snd (Except.ok.inj h)) (accepted_other _ _)
  case touchSessionActivity => cases h
  case updateSessionParticipantConnection => cases h
  case commitSessionTransition =>
    obtain ⟨result, -, h⟩ := Except.of_bind_ok h
    exact absurd (congrArg Prod.snd (Except.ok.inj h)) (accepted_other _ _)
  case endSession =>
    obtain ⟨result, -, h⟩ := Except.of_bind_ok h
    exact absurd (congrArg Prod.snd (Except.ok.inj h)) (accepted_other _ _)
  all_goals
    obtain ⟨result, -, h⟩ := Except.of_bind_ok h
    cases h

end Operation

end Parlando
