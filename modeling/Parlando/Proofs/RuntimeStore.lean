import Parlando.Proofs.Database
import Parlando.RuntimeStore

namespace Parlando

open Concurrency

variable {members members' : List SessionParticipantRow} {record : SessionEventRecord}
  {store : SessionStore} {clock : Timestamp}

theorem ActedBy.mono (acted : ActedBy members record)
    (kept : ∀ member ∈ members, ∃ member' ∈ members',
      member'.participantId = member.participantId) : ActedBy members' record := by
  obtain ⟨member, mem, actor⟩ := acted
  obtain ⟨member', mem', same⟩ := kept member mem
  exact ⟨member', mem', actor.trans (congrArg some same.symm)⟩

theorem RuntimeRecord.mono (written : RuntimeRecord members record)
    (kept : ∀ member ∈ members, ∃ member' ∈ members',
      member'.participantId = member.participantId) : RuntimeRecord members' record := by
  cases written with
  | action kind actor => exact .action kind (actor.mono kept)
  | message kind actor texts call id role plain payload =>
    exact .message kind (actor.mono kept) texts call id role plain payload
  | transcript kind actor texts call id role recognized segment streamStart start stop tokens
      clocked payload =>
    exact .transcript kind (actor.mono kept) texts call id role recognized segment streamStart
      start stop tokens clocked payload
  | speechTiming kind isAlphanumeric characters originMs messageId summary payload =>
    exact .speechTiming kind isAlphanumeric characters originMs messageId summary payload
  | log kind => exact .log kind
  | other kind notTiming => exact .other kind notTiming

namespace SessionStore

structure Exportable (clock : Timestamp) (store : SessionStore) : Prop where
  created : store.row.createdAt ≤ clock
  started : ∀ startedAt, store.row.startedAt = some startedAt → store.row.createdAt ≤ startedAt
  written : ∀ event ∈ store.events, RuntimeRecord store.members event.toSessionEventRecord

namespace Exportable

theorem later (ok : store.Exportable clock) {clock' : Timestamp} (le : clock ≤ clock') :
    store.Exportable clock' :=
  ⟨Int.le_trans ok.created le, ok.started, ok.written⟩

/-- A row of the same creation and start, and members that are still there. -/
theorem sameEvents (ok : store.Exportable clock) {store' : SessionStore}
    (events : store'.events = store.events)
    (created : store'.row.createdAt = store.row.createdAt)
    (started : store'.row.startedAt = store.row.startedAt)
    (kept : ∀ member ∈ store.members, ∃ member' ∈ store'.members,
      member'.participantId = member.participantId) : store'.Exportable clock where
  created := created ▸ ok.created
  started := by
    rw [created, started]
    exact ok.started
  written := by
    rw [events]
    intro event mem
    exact (ok.written event mem).mono kept

theorem insertEvent (ok : store.Exportable clock) (written : RuntimeRecord store.members record)
    (gameTimeMs : Int) : (store.insertEvent record gameTimeMs).Exportable clock where
  created := ok.created
  started := ok.started
  written := by
    intro event mem
    rcases List.mem_append.mp mem with old | new
    · exact ok.written event old
    · cases List.mem_singleton.mp new
      exact written

theorem insertEvents (ok : store.Exportable clock) {records : List SessionEventRecord}
    (written : ∀ record ∈ records, RuntimeRecord store.members record) (gameTimeMs : Int) :
    (store.insertEvents records gameTimeMs).Exportable clock := by
  induction records generalizing store with
  | nil => exact ok
  | cons record records ih =>
    have first := ok.insertEvent (written record (.head _)) gameTimeMs
    exact ih first fun other mem => written other (.tail _ mem)

theorem persistTerminalValue (ok : store.Exportable clock) (sessionEnd : SessionEnd)
    (endedAt : Timestamp) : (store.persistTerminalValue sessionEnd endedAt).Exportable clock := by
  refine ok.sameEvents rfl ?_ ?_ ?_
  · simp only [SessionStore.persistTerminalValue]
    split <;> rfl
  · simp only [SessionStore.persistTerminalValue]
    split <;> rfl
  · intro member mem
    refine ⟨_, List.mem_map_of_mem mem, ?_⟩
    split <;> rfl

theorem startSession (ok : store.Exportable clock) {startedAt : Timestamp}
    (le : clock ≤ startedAt) (idleDeadlineAt : Timestamp) :
    (store.startSession startedAt idleDeadlineAt).1.Exportable startedAt := by
  unfold SessionStore.startSession
  split
  · refine ⟨Int.le_trans ok.created le, ?_, ?_⟩
    · intro t started
      cases started
      exact Int.le_trans ok.created le
    · intro event mem
      obtain ⟨old, oldMem, rfl⟩ := List.mem_map.mp mem
      exact ok.written old oldMem
  · exact ok.later le

theorem failSessionInitialization (ok : store.Exportable clock) (reasonCode : String)
    (now : Timestamp) : (store.failSessionInitialization reasonCode now).Exportable clock := by
  have written : RuntimeRecord store.members (initializationFailed reasonCode) :=
    .other rfl (by simp [initializationFailed])
  have inserted := ok.insertEvent written now.millis
  unfold SessionStore.failSessionInitialization
  split
  · exact inserted.sameEvents rfl rfl rfl fun member mem => ⟨member, mem, rfl⟩
  · exact inserted

theorem addSessionParticipant (ok : store.Exportable clock) (member : SessionParticipantRow) :
    (store.addSessionParticipant member).Exportable clock := by
  unfold SessionStore.addSessionParticipant
  split
  · refine ok.sameEvents rfl rfl rfl fun row mem => ⟨_, List.mem_map_of_mem mem, ?_⟩
    split <;> rfl
  · exact ok.sameEvents rfl rfl rfl fun row mem => ⟨row, List.mem_append_left _ mem, rfl⟩

theorem commitSessionTransition (ok : store.Exportable clock) {records : List SessionEventRecord}
    (written : ∀ record ∈ records, RuntimeRecord store.members record)
    (sessionEnd : Option SessionEnd) (now : Timestamp) :
    (store.commitSessionTransition records sessionEnd now).1.Exportable clock := by
  have inserted := ok.insertEvents written (store.storedGameTimeMs now)
  unfold SessionStore.commitSessionTransition
  split
  · exact ok
  · split
    · exact ok
    · cases sessionEnd with
      | none => exact inserted
      | some sessionEnd => exact inserted.persistTerminalValue sessionEnd now

theorem endSession (ok : store.Exportable clock) (written : RuntimeRecord store.members record)
    (sessionEnd : SessionEnd) (now : Timestamp) :
    (store.endSession record sessionEnd now).1.Exportable clock := by
  unfold SessionStore.endSession
  split
  · exact ok
  · exact (ok.insertEvent written _).persistTerminalValue sessionEnd now

/-- What a transaction keeps of the rows of its session. -/
theorem onStore (ok : store.Exportable clock) {operation : Operation}
    (le : ∀ t, operation.reading? = some t → clock ≤ t)
    (written : ∀ event ∈ operation.records, RuntimeRecord store.members event.2) :
    (operation.onStore store).1.Exportable (operation.reading?.getD clock) := by
  have same : ∀ store' : SessionStore, store'.Exportable clock →
      store'.Exportable (operation.reading?.getD clock) := by
    intro store' ok'
    cases reading : operation.reading? with
    | none => exact ok'
    | some t => exact ok'.later (le t reading)
  cases operation with
  | startSession key startedAt idleDeadlineAt => exact ok.startSession (le _ rfl) idleDeadlineAt
  | completeSessionInitialization key =>
    refine same _ ?_
    simp only [Operation.onStore, SessionStore.completeSessionInitialization]
    split
    · exact ok.sameEvents rfl rfl rfl fun member mem => ⟨member, mem, rfl⟩
    · exact ok
  | touchSessionActivity key activityAt idleDeadlineAt =>
    refine same _ ?_
    simp only [Operation.onStore, SessionStore.touchSessionActivity]
    split
    · exact ok.sameEvents rfl rfl rfl fun member mem => ⟨member, mem, rfl⟩
    · exact ok
  | failSessionInitialization key reasonCode now =>
    exact same _ (ok.failSessionInitialization reasonCode now)
  | addSessionParticipant key member => exact same _ (ok.addSessionParticipant member)
  | appendSessionEvent key record now =>
    exact same _ (ok.insertEvent (written (key, record) (.head _)) _)
  | commitSessionTransition events sessionEnd now =>
    refine same _ (ok.commitSessionTransition ?_ sessionEnd now)
    intro record mem
    obtain ⟨event, eventMem, rfl⟩ := List.mem_map.mp mem
    exact written event eventMem
  | endSession key record sessionEnd now =>
    exact same _ (ok.endSession (written (key, record) (.head _)) sessionEnd now)
  | _ => exact same _ ok

end Exportable

end SessionStore

namespace Operation

variable {db db' : Database} {operation : Operation} {answer : Answer}

theorem createSession_drawn {session : SessionRecord} {dialogueIds : List String}
    {now : Timestamp} {sessionId : Int}
    (h : db.createSession session dialogueIds now = .ok (db', sessionId)) :
    ∃ dialogueId ∈ dialogueIds, ∃ purpose, db' = { db with sessions :=
      db.sessions ++ [Database.newSession session sessionId dialogueId purpose now] } := by
  unfold Database.createSession at h
  repeat' split at h
  all_goals cases h
  rename_i dialogueId drawn _ _
  exact ⟨dialogueId, List.mem_of_find?_eq_some drawn, _, rfl⟩

/-- The events of a transaction that commits are all of its session. -/
theorem target_of_records {key : SessionKey} {event : SessionKey × SessionEventRecord}
    (target : operation.target? = some key) (h : operation.apply db = .ok (db', answer))
    (mem : event ∈ operation.records) : event.1 = key := by
  cases operation <;> simp only [target?, reduceCtorEq, Option.some.injEq] at target
  case commitSessionTransition events sessionEnd now =>
    cases events with
    | nil => cases target
    | cons first events =>
      simp only [List.head?_cons, Option.map_some, Option.some.injEq] at target
      subst target
      simp only [apply, Database.commitSessionTransition] at h
      split at h
      · cases h
      · rename_i own
        by_contra other
        exact own (List.any_eq_true.mpr ⟨event, mem, by simpa using other⟩)
  all_goals
    simp only [records, List.not_mem_nil, List.mem_singleton] at mem
  all_goals
    cases mem
    exact target

def NamesDrawn (db db' : Database) (identifiers : List String) : Prop :=
  ∀ row ∈ db'.participants, row ∈ db.participants ∨ row.researchId ∈ identifiers

theorem insertParticipant_drawn {participant : ParticipantRecord} {identifiers : List String}
    {now : Timestamp} {row : ParticipantRow}
    (h : db.insertParticipant participant identifiers now = .ok (db', row)) :
    NamesDrawn db db' identifiers := by
  unfold Database.insertParticipant at h
  split at h <;> cases h
  rename_i researchId drawn
  intro row mem
  rcases List.mem_append.mp mem with old | new
  · exact .inl old
  · cases List.mem_singleton.mp new
    exact .inr (List.mem_of_find?_eq_some drawn)

/-- Every participant has been there before, or is named by a word that was drawn. -/
theorem apply_participants_drawn (unique : Table.Unique SessionEntry.key db.sessions)
    (h : operation.apply db = .ok (db', answer)) : NamesDrawn db db' operation.identifiers := by
  have removed (fewer : db'.participants.Sublist db.participants) :
      NamesDrawn db db' operation.identifiers :=
    fun row mem => .inl (fewer.subset mem)
  cases target : operation.target? with
  | some key =>
    rcases apply_target unique target h with ⟨entry, -, rfl, -⟩ | ⟨-, rfl, -⟩
    · exact removed (.refl _)
    · exact removed (.refl _)
  | none =>
    cases operation <;> simp only [target?, reduceCtorEq] at target
    case upsertParticipant participant identifiers now =>
      obtain ⟨⟨after, participantId⟩, upserted, h⟩ := Except.of_bind_ok h
      cases h
      unfold Database.upsertParticipant at upserted
      split at upserted
      · cases upserted
        exact removed (.refl _)
      · obtain ⟨⟨inserted, row⟩, insert, upserted⟩ := Except.of_bind_ok upserted
        cases upserted
        exact insertParticipant_drawn insert
    case admitProlificSubmission submission identifiers id now =>
      obtain ⟨⟨after, admission⟩, admitted, h⟩ := Except.of_bind_ok h
      cases h
      unfold Database.admitProlificSubmission at admitted
      split at admitted
      · split at admitted <;> cases admitted
        exact removed (.refl _)
      · obtain ⟨⟨inserted, row⟩, insert, admitted⟩ := Except.of_bind_ok admitted
        have drawn : NamesDrawn db inserted identifiers := insertParticipant_drawn insert
        simp only at admitted
        split at admitted <;> cases admitted
        exact drawn
    case recordConsentDeclaration declaration =>
      obtain ⟨after, recorded, h⟩ := Except.of_bind_ok h
      cases h
      unfold Database.recordConsentDeclaration at recorded
      split at recorded <;> cases recorded
      exact removed (.refl _)
    case createSession session dialogueIds now =>
      obtain ⟨⟨after, sessionId⟩, created, h⟩ := Except.of_bind_ok h
      cases h
      obtain ⟨dialogueId, -, purpose, rfl⟩ := createSession_drawn created
      exact removed (.refl _)
    case updateSessionParticipantConnection =>
      cases h
      exact removed (.refl _)
    case commitSessionTransition events sessionEnd now =>
      cases events with
      | nil =>
        cases h
        exact removed (.refl _)
      | cons first events => cases target
    case deleteParticipantData experimentId participantId =>
      obtain ⟨⟨deleted, preview⟩, delete, h⟩ := Except.of_bind_ok h
      cases h
      obtain ⟨-, -, rfl⟩ := Database.deleteParticipantData_ok delete
      exact removed List.filter_sublist

end Operation

namespace ClockedStore

variable {s t : ClockedStore} {operation : Operation}

/-- Every session can be exported as far as its rows go, and everybody has a name. -/
structure Sound (s : ClockedStore) : Prop where
  unique : Table.Unique SessionEntry.key s.database.sessions
  named : ∀ entry ∈ s.database.sessions, entry.dialogueId ≠ ""
  exportable : ∀ entry ∈ s.database.sessions, entry.store.Exportable s.clock
  participants : ∀ row ∈ s.database.participants, row.researchId ≠ ""

theorem sound_initial {db : Database} (sessions : db.sessions = [])
    (participants : db.participants = []) (clock : Timestamp) : Sound ⟨db, clock⟩ where
  unique := by
    rw [Table.Unique, sessions]
    exact List.nodup_nil
  named := by simp [sessions]
  exportable := by simp [sessions]
  participants := by simp [participants]

/-- A transaction on no session in particular. -/
theorem Sound.untargeted {db' : Database} {answer : Answer} {clock : Timestamp} (sound : s.Sound)
    (le : s.clock ≤ clock) (now : ∀ t, operation.reading? = some t → t = clock)
    (words : ∀ identifier ∈ operation.identifiers, identifier ≠ "")
    (target : operation.target? = none)
    (h : operation.apply s.database = .ok (db', answer)) : Sound ⟨db', clock⟩ := by
  have participants : ∀ row ∈ db'.participants, row.researchId ≠ "" := by
    intro row mem
    rcases Operation.apply_participants_drawn sound.unique h row mem with old | drawn
    · exact sound.participants row old
    · exact words _ drawn
  have before : ∀ entry ∈ s.database.sessions, entry.store.Exportable clock :=
    fun entry mem => (sound.exportable entry mem).later le
  cases (Operation.apply_untargeted target h).1 with
  | removed fewer other =>
    exact ⟨sound.unique.of_sublist fewer, fun entry mem => sound.named entry (fewer.subset mem),
      fun entry mem => before entry (fewer.subset mem), participants⟩
  | reconnected id status leftAt reconnectDeadlineAt rows other =>
    refine ⟨?_, ?_, ?_, participants⟩
    · rw [Table.Unique, rows, List.map_map]
      exact sound.unique
    · intro entry mem
      rw [rows] at mem
      obtain ⟨old, oldMem, rfl⟩ := List.mem_map.mp mem
      exact sound.named old oldMem
    · intro entry mem
      rw [rows] at mem
      obtain ⟨old, oldMem, rfl⟩ := List.mem_map.mp mem
      refine (before old oldMem).sameEvents rfl rfl rfl fun row rowMem =>
        ⟨_, List.mem_map_of_mem rowMem, ?_⟩
      split <;> rfl
  | created session sessionId dialogueId purpose createdAt fresh unused dialogue rows key =>
    subst key
    have creates := Operation.isCreation_of_created h
    cases operation <;> simp only [Operation.isCreation, Bool.false_eq_true] at creates
    case createSession session' dialogueIds createdAt' =>
      obtain ⟨⟨after, sessionId'⟩, create, h⟩ := Except.of_bind_ok h
      obtain rfl : after = db' := congrArg Prod.fst (Except.ok.inj h)
      obtain ⟨dialogueId', drawn, purpose', is⟩ := Operation.createSession_drawn create
      obtain rfl : createdAt' = clock := now _ rfl
      rw [is] at participants ⊢
      refine ⟨?_, ?_, ?_, participants⟩
      · rw [is] at rows
        rw [rows]
        exact sound.unique.append fresh
      · intro entry mem
        rcases List.mem_append.mp mem with old | new
        · exact sound.named entry old
        · cases List.mem_singleton.mp new
          exact words _ drawn
      · intro entry mem
        rcases List.mem_append.mp mem with old | new
        · exact before entry old
        · cases List.mem_singleton.mp new
          refine ⟨Int.le_refl _, ?_, by simp [Database.newSession]⟩
          intro startedAt started
          simp only [Database.newSession] at started ⊢
          split at started <;> cases started
          exact Int.le_refl _
/-- A transaction on one session. -/
theorem Sound.targeted {db' : Database} {answer : Answer} {key : SessionKey} (sound : s.Sound)
    (target : operation.target? = some key) (runtime : operation.OfRuntime s.database)
    (le : ∀ t, operation.reading? = some t → s.clock ≤ t)
    (h : operation.apply s.database = .ok (db', answer)) :
    Sound ⟨db', operation.reading?.getD s.clock⟩ := by
  have participants : ∀ row ∈ db'.participants, row.researchId ≠ "" := by
    intro row mem
    rcases Operation.apply_participants_drawn sound.unique h row mem with old | drawn
    · exact sound.participants row old
    · exact runtime.words _ drawn
  have kept : ∀ store : SessionStore, store.Exportable s.clock →
      store.Exportable (operation.reading?.getD s.clock) := by
    intro store ok
    cases reading : operation.reading? with
    | none => exact ok
    | some t => exact ok.later (le t reading)
  rcases Operation.apply_target sound.unique target h with ⟨entry, found, rfl, -⟩ | ⟨-, rfl, -⟩
  · obtain ⟨mem, here⟩ := Table.find?_mem found
    refine ⟨Database.unique_setStore sound.unique _, ?_, ?_, participants⟩
    · intro entry' mem'
      obtain ⟨old, oldMem, rfl⟩ := Database.mem_setStore mem'
      exact sound.named old oldMem
    · intro entry' mem'
      obtain ⟨old, oldMem, rfl⟩ := Database.mem_setStore mem'
      simp only
      split
      · refine (sound.exportable entry mem).onStore le ?_
        intro event eventMem
        exact runtime.records event eventMem entry (Operation.target_of_records target h eventMem ▸ found)
      · exact kept _ (sound.exportable old oldMem)
  · exact ⟨sound.unique, sound.named, fun entry mem => kept _ (sound.exportable entry mem),
      participants⟩

theorem Sound.step (sound : s.Sound) (runtime : operation.OfRuntime s.database)
    (h : clockedStore.step s operation = some t) : t.Sound := by
  simp only [clockedStore] at h
  split at h
  · cases h
  · rename_i forward
    cases h
    have le : ∀ t, operation.reading? = some t → s.clock ≤ t := by
      intro t reading
      rw [reading, Option.any_some] at forward
      exact Int.not_lt.mp (by simpa using forward)
    unfold Operation.after
    cases applied : operation.apply s.database with
    | error message =>
      refine ⟨sound.unique, sound.named, ?_, sound.participants⟩
      intro entry mem
      have ok := sound.exportable entry mem
      cases reading : operation.reading? with
      | none => exact ok
      | some t => exact ok.later (le t reading)
    | ok result =>
      cases target : operation.target? with
      | some key => exact sound.targeted target runtime le applied
      | none =>
        refine sound.untargeted ?_ ?_ runtime.words target applied
        · cases reading : operation.reading? with
          | none => exact Int.le_refl _
          | some t => exact le t reading
        · intro t reading
          rw [reading, Option.getD_some]

theorem Sound.run {db : Database} {clock : Timestamp} (sessions : db.sessions = [])
    (participants : db.participants = [])
    (run : clockedStore.Run (fun s operation => operation.OfRuntime s.database) ⟨db, clock⟩ s) :
    s.Sound :=
  run.invariant (sound_initial sessions participants clock) fun sound runtime step =>
    sound.step runtime step

end ClockedStore

end Parlando
