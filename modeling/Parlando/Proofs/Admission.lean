import Parlando.Admission
import Parlando.Proofs.Database
import Parlando.Proofs.Steps

namespace Parlando

variable {G : Game}

namespace Database

variable {db : Database} {entry : SessionEntry}

/-- The database with one session more, under a number nobody has. -/
def added (db : Database) (entry : SessionEntry) : Database :=
  { db with sessions := db.sessions ++ [entry] }

/-- No session has the number of the new one. -/
def Fresh (db : Database) (key : SessionKey) : Prop := ∀ old ∈ db.sessions, old.key ≠ key

theorem Fresh.session? {key : SessionKey} (fresh : db.Fresh key) : db.session? key = none := by
  refine List.find?_eq_none.mpr fun old mem => ?_
  simpa using fresh old mem

theorem added_session? (fresh : db.Fresh entry.key) :
    (db.added entry).session? entry.key = some entry := by
  change List.find? _ (db.sessions ++ [entry]) = _
  rw [List.find?_append]
  change (db.session? entry.key).or _ = _
  rw [fresh.session?]
  simp

theorem added_setStore (fresh : db.Fresh entry.key) (store : SessionStore) :
    (db.added entry).setStore entry.key store = db.added { entry with store } := by
  have kept : Table.update SessionEntry.key db.sessions entry.key
      (fun old => { old with store }) = db.sessions := by
    refine (List.map_congr_left fun old mem => ?_).trans (List.map_id _)
    rw [if_neg (fresh old mem)]
    rfl
  have written : Table.update SessionEntry.key (db.sessions ++ [entry]) entry.key
      (fun old => { old with store }) = db.sessions ++ [{ entry with store }] := by
    rw [Table.update, List.map_append, ← Table.update, kept, List.map_singleton, if_pos rfl]
  simp only [setStore, added, written]

theorem appendSessionEvent_ok {db' : Database} {key : SessionKey} {record : SessionEventRecord}
    {now : Timestamp} (h : db.appendSessionEvent key record now = .ok db') :
    ∃ entry, db.session? key = some entry ∧
      db' = db.setStore key (entry.store.appendSessionEvent record now) := by
  unfold appendSessionEvent at h
  cases found : db.session? key with
  | none =>
    rw [found] at h
    cases h
  | some entry =>
    rw [found] at h
    simp only at h
    split at h <;> cases h
    exact ⟨entry, rfl, rfl⟩

/-- The store takes a membership row: its participant exists and is in no other session. -/
def AdmitsMember (db : Database) (key : SessionKey) (participant : ParticipantSession) : Prop :=
  db.hasParticipant participant.participantId = true ∧
    ∀ entry ∈ db.sessions, ∀ row ∈ entry.store.members, row.participantSessionId = participant.id →
      entry.key = key ∧ row.participantId = participant.participantId

end Database

/-- In memory the participant has the role in the session. -/
def LiveSession.Holds (session : LiveSession G) (id : ParticipantSessionId) (participantId : Int)
    (role : PlayerRole) : Prop :=
  ∃ member, session.participants.lookup id = some member ∧
    member.participantId = participantId ∧ member.role = role

/-- By the rows the participant has the role in the session. -/
def SessionEntry.Holds (entry : SessionEntry) (id : ParticipantSessionId) (participantId : Int)
    (role : PlayerRole) : Prop :=
  ∃ row ∈ entry.store.members, row.participantSessionId = id ∧
    row.participantId = participantId ∧ row.role = role

/-- The session has a row, and its membership rows are right about the participants that count. -/
def Agrees (mounted : Mounted) (db : Database) (session : LiveSession G)
    (counts : ParticipantSessionId → Prop) : Prop :=
  ∃ entry, db.session? ⟨mounted.experimentId, session.sessionId⟩ = some entry ∧
    ∀ id, counts id → ∀ participantId role,
      session.Holds id participantId role ↔ entry.Holds id participantId role

namespace Lobby

variable {mounted : Mounted} {attempt : Attempt G} {lobby before after : Lobby G}
  {id : ParticipantSessionId} {participant : ParticipantSession} {code : String}
  {session : LiveSession G}

def Absent (lobby : Lobby G) (id : ParticipantSessionId) : Prop :=
  ∀ code session, lobby.sessions.lookup code = some session → session.lifecycle.isEnded = false →
    session.participants.lookup id = none

def InStep (mounted : Mounted) (lobby : Lobby G) (id : ParticipantSessionId) : Prop :=
  ∀ code session, lobby.sessions.lookup code = some session → session.lifecycle.isEnded = false →
    (session.participants.lookup id).isSome = true →
      Agrees mounted lobby.database session fun _ => True

structure NothingLeft (before after : Lobby G) (id : ParticipantSessionId) : Prop where
  absent : after.Absent id
  memory : ∀ code, before.sessions.lookup code = none → after.sessions.lookup code = none
  rows : ∀ entry ∈ after.database.sessions, before.database.Fresh entry.key →
    entry.store.ended = true

/-- A request answered so has left the lobby as it must. -/
def Clean (mounted : Mounted) (before after : Lobby G) (id : ParticipantSessionId) :
    Except AppError ParticipantState → Prop
  | .ok _ => after.InStep mounted id
  | .error _ => NothingLeft before after id

/--
What the tables guarantee: a participant in memory stands under his id, his number is his alone,
and membership rows under his number are his.
-/
structure WellFormed (lobby : Lobby G) : Prop where
  unique : Table.Unique SessionEntry.key lobby.database.sessions
  named : ∀ id participant, lobby.participants.lookup id = some participant → participant.id = id
  distinct : ∀ id participant other otherParticipant,
    lobby.participants.lookup id = some participant →
      lobby.participants.lookup other = some otherParticipant →
        participant.participantId = otherParticipant.participantId → id = other
  identified : ∀ id participant, lobby.participants.lookup id = some participant →
    ∀ entry ∈ lobby.database.sessions, ∀ row ∈ entry.store.members,
      row.participantId = participant.participantId → row.participantSessionId = id

theorem find_some {p : LiveSession G → Bool} {pick : Nat} (found : lobby.find p pick = some code) :
    ∃ session, lobby.sessions.lookup code = some session ∧ p session = true := by
  obtain ⟨inside, here⟩ := List.getElem?_eq_some_iff.mp found
  have mem : code ∈ lobby.codesWhere p := here ▸ List.getElem_mem inside
  have holds := (List.mem_filter.mp mem).2
  cases there : lobby.sessions.lookup code with
  | none =>
    rw [there] at holds
    cases holds
  | some session =>
    rw [there] at holds
    exact ⟨session, rfl, holds⟩

theorem find_none {p : LiveSession G → Bool} {pick : Nat} (missing : lobby.find p pick = none)
    (found : lobby.sessions.lookup code = some session) : p session = false := by
  have few := List.getElem?_eq_none_iff.mp missing
  by_contra holds
  have mem : code ∈ lobby.codesWhere p := by
    refine List.mem_filter.mpr ⟨?_, ?_⟩
    · exact AList.mem_keys.mp (AList.lookup_isSome.mp (by rw [found]; rfl))
    · rw [found]
      exact Bool.eq_true_of_not_eq_false holds
  exact absurd few (Nat.not_le.mpr (Nat.mod_lt _ (List.length_pos_of_mem mem)))

/-- Where no session is found the participant is in none. -/
theorem absent_of_joined {pick : Nat} (missing : lobby.joined id pick = none)
    (found : lobby.sessions.lookup code = some session) : session.participants.lookup id = none :=
  Option.not_isSome_iff_eq_none.mp (Bool.eq_false_iff.mp (find_none missing found))

def Prepares (attempt : Attempt G) : Prop :=
  attempt.eventOk = true ∧ attempt.gameError = none ∧ attempt.initialState.toBool = true

structure New (db : Database) (entry : SessionEntry) : Prop where
  fresh : db.Fresh entry.key
  members : entry.store.members = []
  forming : entry.store.row.lifecycle = .forming
  incomplete : entry.store.row.initializationComplete = false

/-- The new row is the only one the request has inserted. -/
theorem nothingLeft_added {entry : SessionEntry} (absent : lobby.Absent id)
    (fresh : lobby.database.Fresh entry.key)
    (sessions : ∀ code, after.sessions.lookup code = lobby.sessions.lookup code)
    (database : after.database = lobby.database.added entry) :
    NothingLeft lobby after id ↔ entry.store.ended = true := by
  constructor
  · intro left
    refine left.rows entry ?_ fresh
    rw [database]
    exact List.mem_append_right _ (List.mem_singleton_self entry)
  · intro ended
    refine ⟨fun code session found => absent code session (sessions code ▸ found),
      fun code missing => (sessions code).trans missing, ?_⟩
    intro row mem other
    rw [database] at mem
    rcases List.mem_append.mp mem with mem | mem
    · exact absurd rfl (other row mem)
    · cases List.mem_singleton.mp mem
      exact ended

variable (attempt) in
theorem failInitialization_added {entry : SessionEntry} (fresh : lobby.database.Fresh entry.key)
    (forming : entry.store.row.lifecycle = .forming) (reasonCode : String) :
    ∃ row, row.key = entry.key ∧ row.store.ended = attempt.failOk ∧
      ({ lobby with database := lobby.database.added entry } : Lobby G).failInitialization attempt
        entry.key reasonCode = { lobby with database := lobby.database.added row } := by
  unfold failInitialization attempted
  cases attempt.failOk
  · exact ⟨entry, rfl, by rw [SessionStore.ended, forming]; rfl, rfl⟩
  · refine ⟨{ entry with store := entry.store.failSessionInitialization reasonCode attempt.now },
      rfl, ?_, ?_⟩
    · simp only [SessionStore.failSessionInitialization, forming, if_true]
      rfl
    · simp only [if_true, Database.failSessionInitialization, Database.added_session? fresh,
        Database.added_setStore fresh]

section
variable {entry : SessionEntry}

/-- The new row once the event of its creation is stored. -/
def opened (attempt : Attempt G) (entry : SessionEntry) (code : String) : SessionEntry :=
  let store := entry.store.appendSessionEvent (sessionCreated attempt code) attempt.now
  { entry with store }

variable (attempt code) in
theorem opened_fresh (fresh : lobby.database.Fresh entry.key) :
    lobby.database.Fresh (opened attempt entry code).key := fresh

theorem append_added (fresh : lobby.database.Fresh entry.key) :
    (lobby.database.added entry).appendSessionEvent entry.key (sessionCreated attempt code)
      attempt.now = .ok (lobby.database.added (opened attempt entry code)) := by
  simp only [Database.appendSessionEvent, Database.added_session? fresh,
    Database.added_setStore fresh]
  rfl

variable (mounted participant code) in
theorem initializeSession_failed (new : New lobby.database entry) (unprepared : ¬Prepares attempt) :
    ∃ row error, row.key = entry.key ∧ row.store.ended = attempt.failOk ∧
      ({ lobby with database := lobby.database.added entry } : Lobby G).initializeSession mounted
        attempt code entry.key participant =
        ({ lobby with database := lobby.database.added row }, .error error) := by
  unfold initializeSession attempted
  cases stored : attempt.eventOk with
  | false =>
    obtain ⟨row, key, ended, failed⟩ := failInitialization_added attempt new.fresh
      new.forming "session_event_persistence_failed"
    exact ⟨row, _, key, ended, congrArg (·, _) failed⟩
  | true =>
    simp only [if_true, append_added new.fresh]
    have failed := failInitialization_added attempt (opened_fresh attempt code new.fresh) new.forming
    cases game : attempt.gameError with
    | some message =>
      obtain ⟨row, key, ended, failed⟩ := failed "game_construction_failed"
      exact ⟨row, _, key, ended, congrArg (·, _) failed⟩
    | none =>
      cases initial : attempt.initialState with
      | error message =>
        obtain ⟨row, key, ended, failed⟩ := failed "game_state_initialization_failed"
        exact ⟨row, _, key, ended, congrArg (·, _) failed⟩
      | ok state => exact absurd ⟨stored, game, by rw [initial]; rfl⟩ unprepared

variable (mounted participant code) in
/-- A prepared initialization goes on with the session's first state. -/
theorem initializeSession_prepared (new : New lobby.database entry) (prepared : Prepares attempt) :
    ∃ state, ({ lobby with database := lobby.database.added entry } : Lobby G).initializeSession
        mounted attempt code entry.key participant =
      if attempt.timingOk then
        ({ lobby with database := lobby.database.added (opened attempt entry code) } :
          Lobby G).insertSession mounted attempt code entry.key participant state
      else ({ lobby with database := lobby.database.added (opened attempt entry code) },
        .error internalError) := by
  obtain ⟨stored, game, initial⟩ := prepared
  obtain ⟨state, initial⟩ := Except.exists_ok initial
  refine ⟨state, ?_⟩
  have there : (lobby.database.added (opened attempt entry code)).session? entry.key =
      some (opened attempt entry code) :=
    Database.added_session? (opened_fresh attempt code new.fresh)
  simp only [initializeSession, attempted, stored, if_true, append_added new.fresh, game, initial,
    there, Option.isSome_some, Bool.and_true]

variable (mounted participant) in
theorem initializeSession_dropped (new : New lobby.database entry) (prepared : Prepares attempt)
    (unused : lobby.sessions.lookup code = none)
    (incomplete : ¬(attempt.timingOk = true ∧ attempt.completeOk = true)) :
    ∃ after error, (∀ code, after.sessions.lookup code = lobby.sessions.lookup code) ∧
      after.database = lobby.database.added (opened attempt entry code) ∧
      ({ lobby with database := lobby.database.added entry } : Lobby G).initializeSession mounted
        attempt code entry.key participant = (after, .error error) := by
  obtain ⟨state, initialized⟩ := initializeSession_prepared mounted participant code new
    prepared
  rw [initialized]
  cases timing : attempt.timingOk with
  | false =>
    exact ⟨{ lobby with database := lobby.database.added (opened attempt entry code) }, _,
      fun _ => rfl, rfl, rfl⟩
  | true =>
    have failed : attempt.completeOk = false :=
      Bool.eq_false_iff.mpr fun complete => incomplete ⟨timing, complete⟩
    simp only [if_true, insertSession, failed, Bool.false_eq_true, if_false]
    refine ⟨_, _, fun other => ?_, rfl, rfl⟩
    rw [Map.lookup_erase_eq, Map.lookup_insert_eq]
    split
    · rename_i same
      rw [same, unused]
    · rfl

variable (mounted participant code) in
theorem initializeSession_done (new : New lobby.database entry) (prepared : Prepares attempt)
    (timing : attempt.timingOk = true) (complete : attempt.completeOk = true) :
    ∃ row state, row.key = entry.key ∧ row.store.members = [] ∧
      ({ lobby with database := lobby.database.added entry } : Lobby G).initializeSession mounted
        attempt code entry.key participant =
        ({ lobby with
            sessions := lobby.sessions.insert code (.created mounted.config entry.key.sessionId
              state participant attempt.now attempt.now)
            database := lobby.database.added row }, .ok (code, .A)) := by
  obtain ⟨state, initialized⟩ := initializeSession_prepared mounted participant code new
    prepared
  have there := Database.added_session? (opened_fresh attempt code new.fresh)
  have forming : (opened attempt entry code).store.row.lifecycle = .forming ∧
      (opened attempt entry code).store.row.initializationComplete = false :=
    ⟨new.forming, new.incomplete⟩
  have completes : (opened attempt entry code).store.completeSessionInitialization.2 = true := by
    simp only [SessionStore.completeSessionInitialization, forming]
    rfl
  have kept : (opened attempt entry code).store.completeSessionInitialization.1.members = [] := by
    simp only [SessionStore.completeSessionInitialization, forming]
    exact new.members
  refine ⟨{ opened attempt entry code with
    store := (opened attempt entry code).store.completeSessionInitialization.1 }, state, rfl, kept,
    ?_⟩
  have updated : (lobby.database.added (opened attempt entry code)).completeSessionInitialization
      entry.key = (lobby.database.added { opened attempt entry code with
        store := (opened attempt entry code).store.completeSessionInitialization.1 }, true) := by
    rcases Database.updateSession_cases (lobby.database.added (opened attempt entry code)) entry.key
      SessionStore.completeSessionInitialization with ⟨found, here, update⟩ | ⟨missing, -⟩
    · cases here.symm.trans there
      refine update.trans (congrArg₂ Prod.mk ?_ completes)
      exact Database.added_setStore (opened_fresh attempt code new.fresh) _
    · cases missing.symm.trans there
  simp only [initialized, timing, if_true, insertSession, complete, updated]

end

section
variable {db : Database} {entry : SessionEntry} {key : SessionKey} {member : SessionParticipant}

theorem addSessionParticipant_isOk (named : member.participantSessionId = participant.id)
    (numbered : member.participantId = participant.participantId) (now : Timestamp)
    (found : db.session? key = some entry) :
    ((db.addSessionParticipant key (memberRow member now)).toBool = true ↔
      db.AdmitsMember key participant) ∧
    ∀ db', db.addSessionParticipant key (memberRow member now) = .ok db' →
      db' = db.setStore key (entry.store.addSessionParticipant (memberRow member now)) := by
  have clash : (db.sessions.any fun other => other.store.members.any fun row =>
      row.participantSessionId == (memberRow member now).participantSessionId &&
        !(other.key == key && row.participantId == participant.participantId)) = true ↔
      ¬∀ entry ∈ db.sessions, ∀ row ∈ entry.store.members,
        row.participantSessionId = participant.id →
          entry.key = key ∧ row.participantId = participant.participantId := by
    simp only [memberRow, named, List.any_eq_true, Bool.and_eq_true, beq_iff_eq,
      Bool.not_eq_true', Bool.and_eq_false_iff, beq_eq_false_iff_ne, not_forall, exists_prop,
      not_and_or]
  have known : (memberRow member now).participantId = participant.participantId := numbered
  unfold Database.addSessionParticipant Database.AdmitsMember
  simp only [found, known]
  cases db.hasParticipant participant.participantId with
  | false => exact ⟨⟨nofun, fun admits => absurd admits.1 nofun⟩, nofun⟩
  | true =>
    simp only [Bool.not_true, Bool.false_eq_true, if_false, true_and]
    split
    · rename_i taken
      exact ⟨⟨nofun, fun free => absurd free (clash.mp taken)⟩, nofun⟩
    · rename_i free
      refine ⟨⟨fun _ => ?_, fun _ => rfl⟩, fun db' ok => (Except.ok.inj ok).symm⟩
      exact Classical.not_not.mp fun clashes => free (clash.mpr clashes)

/-- The upsert makes the rows right about its participant and leaves the others alone. -/
theorem holds_addSessionParticipant {row : SessionParticipantRow}
    (own : ∀ old ∈ entry.store.members, old.participantId = row.participantId ↔
      old.participantSessionId = row.participantSessionId) (other : ParticipantSessionId)
    (participantId : Int) (role : PlayerRole) :
    ({ entry with store := entry.store.addSessionParticipant row } : SessionEntry).Holds other
        participantId role ↔
      if other = row.participantSessionId then participantId = row.participantId ∧ role = row.role
      else entry.Holds other participantId role := by
  unfold SessionStore.addSessionParticipant SessionEntry.Holds
  cases here : entry.store.members.any fun old => old.participantId == row.participantId with
  | true =>
    obtain ⟨old, mem, same⟩ := List.any_eq_true.mp here
    have same : old.participantId = row.participantId := by simpa using same
    simp only [if_true, List.mem_map, beq_iff_eq]
    split
    · rename_i isOther
      constructor
      · rintro ⟨_, ⟨old, mem, rfl⟩, named, rfl, rfl⟩
        split at named
        · rename_i numbered
          rw [if_pos numbered]
          exact ⟨numbered, rfl⟩
        · rename_i differs
          exact absurd ((own old mem).mpr (named.trans isOther)) differs
      · rintro ⟨rfl, rfl⟩
        exact ⟨_, ⟨old, mem, rfl⟩, by rw [if_pos same]; exact isOther.symm,
          by rw [if_pos same]; exact same, by rw [if_pos same]⟩
    · rename_i isOther
      constructor
      · rintro ⟨_, ⟨old, mem, rfl⟩, named, numbered, played⟩
        split at named
        · exact absurd named.symm isOther
        · rename_i differs
          rw [if_neg differs] at numbered played
          exact ⟨old, mem, named, numbered, played⟩
      · rintro ⟨old, mem, named, numbered, played⟩
        have differs : ¬old.participantId = row.participantId := fun numbered =>
          isOther (named.symm.trans ((own old mem).mp numbered))
        exact ⟨old, ⟨old, mem, if_neg differs⟩, named, numbered, played⟩
  | false =>
    have missing : ∀ old ∈ entry.store.members,
        ¬old.participantSessionId = row.participantSessionId := fun old mem same =>
      List.any_eq_false.mp here old mem (beq_iff_eq.mpr ((own old mem).mpr same))
    simp only [Bool.false_eq_true, if_false, List.mem_append, List.mem_singleton]
    split
    · rename_i isOther
      constructor
      · rintro ⟨_, mem | rfl, named, rfl, rfl⟩
        · exact absurd (named.trans isOther) (missing _ mem)
        · exact ⟨rfl, rfl⟩
      · rintro ⟨rfl, rfl⟩
        exact ⟨row, .inr rfl, isOther.symm, rfl, rfl⟩
    · rename_i isOther
      constructor
      · rintro ⟨_, mem | rfl, named, numbered, played⟩
        · exact ⟨_, mem, named, numbered, played⟩
        · exact absurd named.symm isOther
      · rintro ⟨old, mem, named, numbered, played⟩
        exact ⟨old, .inl mem, named, numbered, played⟩

end

theorem agrees_of_found {db : Database} {entry : SessionEntry}
    {counts : ParticipantSessionId → Prop}
    (found : db.session? ⟨mounted.experimentId, session.sessionId⟩ = some entry) :
    Agrees mounted db session counts ↔ ∀ id, counts id → ∀ participantId role,
      session.Holds id participantId role ↔ entry.Holds id participantId role := by
  constructor
  · rintro ⟨other, there, agree⟩
    cases there.symm.trans found
    exact agree
  · exact fun agree => ⟨entry, found, agree⟩

variable (mounted attempt lobby id) in
/-- The event of a joined participant changes no membership. -/
theorem agrees_recordJoined (role : PlayerRole) (counts : ParticipantSessionId → Prop)
    (unique : Table.Unique SessionEntry.key lobby.database.sessions)
    (there : lobby.sessions.lookup code = some session) :
    (lobby.recordJoined mounted attempt code id role).sessions = lobby.sessions ∧
      (Agrees mounted (lobby.recordJoined mounted attempt code id role).database session counts ↔
        Agrees mounted lobby.database session counts) := by
  unfold recordJoined
  simp only [there]
  split
  · rename_i database recorded
    obtain ⟨record, -, recorded⟩ := Except.of_bind_ok recorded
    obtain ⟨_, isSession, recorded⟩ := Except.of_bind_ok recorded
    cases isSession
    refine ⟨rfl, ?_⟩
    unfold attempted at recorded
    split at recorded <;> try cases recorded
    obtain ⟨entry, found, rfl⟩ := Database.appendSessionEvent_ok recorded
    rw [agrees_of_found found, agrees_of_found (Database.session?_setStore unique found _)]
    rfl
  · exact ⟨rfl, Iff.rfl⟩

section
variable {member : SessionParticipant}

/-- An error that leaves the participant in a live session is not clean. -/
theorem not_clean_of_inside {error : AppError} (there : after.sessions.lookup code = some session)
    (live : session.lifecycle.isEnded = false)
    (inside : session.participants.lookup id = some member) :
    ¬Clean mounted before after id (.error error) := fun clean =>
  Option.some_ne_none _ (inside.symm.trans (clean.absent code session there live))

theorem inStep_iff (there : lobby.sessions.lookup code = some session)
    (live : session.lifecycle.isEnded = false)
    (inside : session.participants.lookup id = some member)
    (only : ∀ other otherSession, lobby.sessions.lookup other = some otherSession →
      (otherSession.participants.lookup id).isSome = true → other = code) :
    lobby.InStep mounted id ↔ Agrees mounted lobby.database session fun _ => True := by
  constructor
  · exact fun inStep => inStep code session there live (by rw [inside]; rfl)
  · intro agrees other otherSession found _ within
    cases only other otherSession found within
    cases found.symm.trans there
    exact agrees

theorem participantStateResponse_forming (forming : session.lifecycle.isForming = true)
    (role : PlayerRole) : ∃ state, participantStateResponse (some session) role = .ok state := by
  unfold participantStateResponse participantView
  simp only [forming, if_true]
  cases lifecycle : session.lifecycle <;> rw [lifecycle] at forming <;> cases forming
  exact ⟨_, rfl⟩

variable (lobby session member) in
/-- An enrolment is clean where the store takes the row and had the other members right. -/
theorem clean_enroll_iff {role : PlayerRole}
    (unique : Table.Unique SessionEntry.key lobby.database.sessions)
    (identified : ∀ entry ∈ lobby.database.sessions, ∀ row ∈ entry.store.members,
      row.participantId = participant.participantId → row.participantSessionId = participant.id)
    (there : lobby.sessions.lookup code = some session)
    (forming : session.lifecycle.isForming = true)
    (inside : session.participants.lookup participant.id = some member)
    (named : member.participantSessionId = participant.id)
    (numbered : member.participantId = participant.participantId)
    (only : ∀ other otherSession, lobby.sessions.lookup other = some otherSession →
      (otherSession.participants.lookup participant.id).isSome = true → other = code) :
    Clean mounted before (lobby.enroll mounted attempt code participant.id role).1 participant.id
        (lobby.enroll mounted attempt code participant.id role).2 ↔
      attempt.memberOk = true ∧
        lobby.database.AdmitsMember ⟨mounted.experimentId, session.sessionId⟩ participant ∧
        Agrees mounted lobby.database session (· ≠ participant.id) := by
  have live : session.lifecycle.isEnded = false := by
    cases lifecycle : session.lifecycle <;> rw [lifecycle] at forming <;> cases forming
    rfl
  have persisted : lobby.persistParticipant mounted attempt code participant.id =
      (attempted attempt.memberOk (lobby.database.addSessionParticipant
        ⟨mounted.experimentId, session.sessionId⟩ (memberRow member attempt.now))).map
        fun database => { lobby with database } := by
    have isMember : findMember (some session) participant.id = .ok member := by
      simp only [findMember, inside]
    unfold persistParticipant
    rw [there]
    change (findMember (some session) participant.id >>= _) = _
    rw [isMember]
    change (attempted _ _ >>= _) = _
    cases attempted attempt.memberOk _ <;> rfl
  have refused : ¬Clean mounted before lobby participant.id (.error internalError) :=
    not_clean_of_inside there live inside
  unfold enroll
  cases ok : attempt.memberOk with
  | false =>
    rw [persisted, ok]
    exact ⟨fun clean => absurd clean refused, fun met => absurd met.1 nofun⟩
  | true =>
    rw [persisted, ok]
    cases found : lobby.database.session? ⟨mounted.experimentId, session.sessionId⟩ with
    | none =>
      have missing : lobby.database.addSessionParticipant ⟨mounted.experimentId, session.sessionId⟩
          (memberRow member attempt.now) = .error foreignKeyFailed := by
        unfold Database.addSessionParticipant
        rw [found]
      simp only [attempted, if_true, missing]
      refine ⟨fun clean => absurd clean refused, ?_⟩
      rintro ⟨-, -, entry, here, -⟩
      cases here.symm.trans found
    | some entry =>
      obtain ⟨accepted, written⟩ := addSessionParticipant_isOk named numbered attempt.now found
      simp only [attempted, if_true]
      cases added : lobby.database.addSessionParticipant
          ⟨mounted.experimentId, session.sessionId⟩ (memberRow member attempt.now) with
      | error error =>
        rw [added] at accepted
        exact ⟨fun clean => absurd clean refused, fun met => absurd (accepted.mpr met.2.1) nofun⟩
      | ok database =>
        rw [added] at accepted
        have admits := accepted.mp rfl
        have stored := written database added
        obtain ⟨state, response⟩ := participantStateResponse_forming forming role
        have unique' : Table.Unique SessionEntry.key database.sessions :=
          stored ▸ Database.unique_setStore unique _
        obtain ⟨sessions, recorded⟩ := agrees_recordJoined mounted attempt
          { lobby with database } participant.id role (fun _ => True) unique' there
        simp only [Except.map, there, response]
        change InStep mounted _ _ ↔ _
        rw [inStep_iff (sessions ▸ there) live inside (by rw [sessions]; exact only), recorded, stored,
          agrees_of_found (Database.session?_setStore unique found _), agrees_of_found found]
        have own : ∀ old ∈ entry.store.members,
            old.participantId = (memberRow member attempt.now).participantId ↔
              old.participantSessionId = (memberRow member attempt.now).participantSessionId := by
          have mem := (Table.find?_mem found).1
          intro old oldMem
          constructor
          · exact fun same => (identified entry mem old oldMem (same.trans numbered)).trans named.symm
          · exact fun same =>
              (admits.2 entry mem old oldMem (same.trans named)).2.trans numbered.symm
        constructor
        · intro agree
          refine ⟨trivial, admits, fun other differs participantId role => ?_⟩
          have here := agree other trivial participantId role
          rw [holds_addSessionParticipant own, if_neg (fun same => differs (same.trans named))] at here
          exact here
        · rintro ⟨-, -, agree⟩ other - participantId role
          rw [holds_addSessionParticipant own]
          split
          · rename_i same
            cases same.trans named
            unfold LiveSession.Holds
            rw [inside]
            constructor
            · rintro ⟨_, isMember, rfl, rfl⟩
              cases isMember
              exact ⟨rfl, rfl⟩
            · rintro ⟨rfl, rfl⟩
              exact ⟨member, rfl, rfl, rfl⟩
          · rename_i differs
            exact agree other (fun same => differs (same.trans named.symm)) participantId role

end

end Lobby

def LiveSession.Presentable (session : LiveSession G) (role : PlayerRole) : Prop :=
  (participantView session role).toBool = true ∧
    match session.lifecycle with
    | .forming => True
    | .running => session.idleDeadlineAt.isSome = true
    | .ended sessionEnd => (sessionEnd.participantResults.get role).isSome = true

theorem participantView_observation {session : LiveSession G} {role : PlayerRole}
    {view : ParticipantView} (started : session.lifecycle.isForming = false)
    (h : participantView session role = .ok view) : ∃ observation, view.observation = some observation := by
  unfold participantView at h
  simp only [started, Bool.false_eq_true, if_false] at h
  obtain ⟨observation, -, h⟩ := Except.of_bind_ok h
  split at h
  · cases h
    exact ⟨observation, rfl⟩
  · obtain ⟨actions, -, h⟩ := Except.of_bind_ok h
    cases h
    exact ⟨observation, rfl⟩

theorem participantStateResponse_isOk (session : LiveSession G) (role : PlayerRole) :
    (participantStateResponse (some session) role).toBool = true ↔ session.Presentable role := by
  simp only [participantStateResponse, LiveSession.Presentable]
  cases view : participantView session role with
  | error error => simp [Except.toBool]
  | ok view =>
    cases lifecycle : session.lifecycle with
    | forming => simp [Except.toBool]
    | running =>
      obtain ⟨observation, observed⟩ := participantView_observation (by rw [lifecycle]; rfl) view
      simp only [observed]
      cases session.idleDeadlineAt <;> cases session.pause <;> simp [Except.toBool]
    | ended sessionEnd =>
      simp only
      cases sessionEnd.participantResults.get role <;> simp [Except.toBool]

namespace Lobby

variable {mounted : Mounted} {attempt : Attempt G} {lobby : Lobby G} {id : ParticipantSessionId}
  {participant : ParticipantSession} {code : String}

/-- Every check before the admission section lets the participant pass, and so does its capacity check. -/
structure Passes (mounted : Mounted) (attempt : Attempt G) (lobby : Lobby G)
    (id : ParticipantSessionId) (participant : ParticipantSession) : Prop where
  known : lobby.participants.lookup id = some participant
  readable : attempt.terminalOk = true
  unfinished : lobby.database.terminalParticipantState mounted.experimentId id = none
  gates : attempt.gatesError = none
  capacity : attempt.capacityError = none

def partnerSession (mounted : Mounted) (attempt : Attempt G) (lobby : Lobby G)
    (participant : ParticipantSession) : Option String :=
  match mounted.config.agentsMode with
  | .humanVsHuman => lobby.waiting participant attempt.pick
  | .humanVsAgent => none

def ReturnsCleanly (mounted : Mounted) (lobby : Lobby G) (id : ParticipantSessionId)
    (code : String) : Prop :=
  lobby.Absent id ∨ lobby.InStep mounted id ∧
    ∀ session member, lobby.sessions.lookup code = some session →
      session.participants.lookup id = some member → session.Presentable member.role

/-- The store takes the row of a second member and had the first one right. -/
def PairsCleanly (mounted : Mounted) (attempt : Attempt G) (lobby : Lobby G)
    (participant : ParticipantSession) (code : String) : Prop :=
  ∀ session, lobby.sessions.lookup code = some session → attempt.memberOk = true ∧
    lobby.database.AdmitsMember ⟨mounted.experimentId, session.sessionId⟩ participant ∧
    Agrees mounted lobby.database session (· ≠ participant.id)

/--
A creation goes all the way from the deadlines of its row to the membership row, or fails before
that and ends its row.
-/
structure CreatesCleanly (mounted : Mounted) (attempt : Attempt G) (lobby : Lobby G)
    (participant : ParticipantSession) : Prop where
  ends : ¬Prepares attempt → attempt.failOk = true
  completes : Prepares attempt → attempt.timingOk = true ∧ attempt.completeOk = true ∧
    attempt.memberOk = true ∧ lobby.database.AdmitsMember
      ⟨mounted.experimentId, lobby.database.nextSessionId mounted.experimentId⟩ participant

/-- No failure of the request hits a point that nothing cleans up after. -/
def Compensated (mounted : Mounted) (attempt : Attempt G) (lobby : Lobby G)
    (id : ParticipantSessionId) : Prop :=
  match lobby.joined id attempt.pick with
  | some code => lobby.ReturnsCleanly mounted id code
  | none => ∀ participant, lobby.Passes mounted attempt id participant →
    match lobby.partnerSession mounted attempt participant with
    | some code => lobby.PairsCleanly mounted attempt participant code
    | none => ∀ code, lobby.freshCode attempt = some code →
      (lobby.insertRow mounted attempt participant code).toBool = true →
        lobby.CreatesCleanly mounted attempt participant

theorem clean_return_iff (found : lobby.joined id attempt.pick = some code) :
    Clean mounted lobby lobby id (lobby.stateResponse code id) ↔
      lobby.ReturnsCleanly mounted id code := by
  obtain ⟨session, there, within⟩ := find_some found
  obtain ⟨member, inside⟩ := Option.isSome_iff_exists.mp within
  have response : lobby.stateResponse code id =
      participantStateResponse (some session) member.role := by
    simp only [stateResponse, there, Option.bind_some, inside, Option.map_some, Option.getD_some]
  have shown := participantStateResponse_isOk session member.role
  rw [response]
  cases answered : participantStateResponse (some session) member.role with
  | ok state =>
    rw [answered] at shown
    refine ⟨fun inStep => .inr ⟨inStep, fun _ _ here within => ?_⟩, ?_⟩
    · cases here.symm.trans there
      cases within.symm.trans inside
      exact shown.mp rfl
    · rintro (absent | ⟨inStep, -⟩)
      · intro other session here live within
        rw [absent other session here live] at within
        cases within
      · exact inStep
  | error error =>
    rw [answered] at shown
    constructor
    · exact fun left => .inl left.absent
    · rintro (absent | ⟨-, presentable⟩)
      · exact ⟨absent, fun _ missing => missing, fun row mem other => absurd rfl (other row mem)⟩
      · exact absurd (shown.mpr (presentable session member there inside)) nofun

/-- A request refused before it changes anything is clean. -/
theorem clean_refused (absent : lobby.Absent id) (error : AppError) :
    Clean mounted lobby lobby id (.error error) :=
  ⟨absent, fun _ missing => missing, fun row mem other => absurd rfl (other row mem)⟩

theorem Passes.participant_eq {other : ParticipantSession}
    (passes : Passes mounted attempt lobby id participant)
    (known : lobby.participants.lookup id = some other) : participant = other :=
  Option.some.inj (passes.known.symm.trans known)

/-- A request that does not get as far as its admission section changes nothing. -/
theorem createSession_stopped (missing : lobby.joined id attempt.pick = none)
    (stopped : ∀ participant, ¬Passes mounted attempt lobby id participant) :
    (lobby.createSession mounted attempt id).1 = lobby := by
  unfold createSession
  rw [missing]
  simp only
  cases readable : attempt.terminalOk with
  | false => rfl
  | true =>
    cases unfinished : lobby.database.terminalParticipantState mounted.experimentId id with
    | some found => rfl
    | none =>
      cases gates : attempt.gatesError with
      | some error => rfl
      | none =>
        unfold pairOrCreate createLiveSession
        cases known : lobby.participants.lookup id with
        | none =>
          cases mounted.config.agentsMode with
          | humanVsHuman => rfl
          | humanVsAgent => cases attempt.capacityError <;> rfl
        | some participant =>
          cases capacity : attempt.capacityError with
          | none => exact absurd ⟨known, readable, unfinished, gates, capacity⟩ (stopped participant)
          | some error =>
            cases mounted.config.agentsMode with
            | humanVsHuman =>
              simp only
              cases lobby.waiting participant attempt.pick <;> rfl
            | humanVsAgent => rfl

/-- A lobby without the participant in a session is as it must be after any answer. -/
theorem clean_of_absent (absent : lobby.Absent id) (result : Except AppError ParticipantState) :
    Clean mounted lobby lobby id result := by
  cases result with
  | error error => exact clean_refused absent error
  | ok state =>
    intro code session there live within
    rw [absent code session there live] at within
    cases within

/-- Past the checks the request pairs the participant or creates a session for him. -/
theorem createSession_passes (missing : lobby.joined id attempt.pick = none)
    (passes : Passes mounted attempt lobby id participant) :
    lobby.createSession mounted attempt id =
      match (match lobby.partnerSession mounted attempt participant with
        | none => lobby.createLiveSession mounted attempt id
        | some code => match lobby.addHuman mounted code id attempt.now with
          | .error error => (lobby, .error error)
          | .ok (role, lobby) => (lobby, .ok (code, role))) with
      | (lobby, .error error) => (lobby, .error error)
      | (lobby, .ok (code, role)) => lobby.enroll mounted attempt code id role := by
  unfold createSession pairOrCreate partnerSession
  simp only [missing, passes.readable, passes.unfinished, passes.gates, passes.known,
    passes.capacity, Bool.not_true, Bool.false_eq_true, if_false]
  cases mounted.config.agentsMode with
  | humanVsHuman => cases lobby.waiting participant attempt.pick <;> rfl
  | humanVsAgent => rfl

def paired (mounted : Mounted) (attempt : Attempt G) (session : LiveSession G)
    (participant : ParticipantSession) : LiveSession G :=
  let member : SessionParticipant := .joined mounted.config participant .B attempt.now
  { session with participants := session.participants.insert participant.id member }

theorem waiting_of_partner (partner : lobby.partnerSession mounted attempt participant = some code) :
    lobby.waiting participant attempt.pick = some code := by
  unfold partnerSession at partner
  cases mode : mounted.config.agentsMode <;> rw [mode] at partner
  · exact partner
  · cases partner

variable (mounted attempt) in
theorem addHuman_waiting {session : LiveSession G} {pick : Nat}
    (known : lobby.participants.lookup id = some participant)
    (waiting : lobby.waiting participant pick = some code)
    (there : lobby.sessions.lookup code = some session)
    (apart : session.participants.lookup participant.id = none) :
    session.lifecycle.isForming = true ∧ lobby.addHuman mounted code id attempt.now =
      .ok (.B, { lobby with
        sessions := lobby.sessions.insert code (paired mounted attempt session participant) }) := by
  obtain ⟨_, here, isOpen⟩ := find_some waiting
  cases here.symm.trans there
  simp only [LiveSession.openForPairing, Bool.and_eq_true, beq_iff_eq] at isOpen
  obtain ⟨⟨⟨forming, purpose⟩, nextRole⟩, -⟩ := isOpen
  refine ⟨forming, ?_⟩
  simp only [addHuman, known, there, LiveSession.addHumanParticipant, if_neg (not_not.mpr purpose),
    apart, nextRole]
  rfl

theorem holds_paired {session : LiveSession G} {other : ParticipantSessionId}
    (differs : other ≠ participant.id) (participantId : Int) (role : PlayerRole) :
    (paired mounted attempt session participant).Holds other participantId role ↔
      session.Holds other participantId role := by
  unfold LiveSession.Holds paired
  rw [AList.lookup_insert_ne differs]

theorem clean_pair_iff (wf : lobby.WellFormed) (missing : lobby.joined id attempt.pick = none)
    (passes : Passes mounted attempt lobby id participant)
    (partner : lobby.partnerSession mounted attempt participant = some code) :
    Clean mounted lobby (lobby.createSession mounted attempt id).1 id
        (lobby.createSession mounted attempt id).2 ↔
      lobby.PairsCleanly mounted attempt participant code := by
  obtain rfl := wf.named id participant passes.known
  have waiting := waiting_of_partner partner
  obtain ⟨session, there, -⟩ := find_some waiting
  have apart := absent_of_joined missing there
  obtain ⟨forming, added⟩ := addHuman_waiting mounted attempt passes.known waiting
    there apart
  rw [createSession_passes missing passes, partner]
  simp only [added]
  rw [clean_enroll_iff
    { lobby with
      sessions := lobby.sessions.insert code (paired mounted attempt session participant) }
    (paired mounted attempt session participant)
    (.joined mounted.config participant .B attempt.now) wf.unique
    (fun entry mem row rowMem same => wf.identified _ _ passes.known entry mem row rowMem same)
    (AList.lookup_insert _) forming (AList.lookup_insert _) rfl rfl]
  · constructor
    · rintro ⟨stored, admits, entry, found, agree⟩ _ here
      cases here.symm.trans there
      exact ⟨stored, admits, entry, found, fun other differs participantId role =>
        (holds_paired differs participantId role).symm.trans
          (agree other differs participantId role)⟩
    · intro met
      obtain ⟨stored, admits, entry, found, agree⟩ := met session there
      exact ⟨stored, admits, entry, found, fun other differs participantId role =>
        (holds_paired differs participantId role).trans (agree other differs participantId role)⟩
  · intro other otherSession found within
    by_contra differs
    rw [AList.lookup_insert_ne differs] at found
    rw [absent_of_joined missing found] at within
    cases within

theorem createLiveSession_stopped (passes : Passes mounted attempt lobby id participant)
    (stopped : ∀ code, lobby.freshCode attempt = some code →
      (lobby.insertRow mounted attempt participant code).toBool = false) :
    ∃ error, lobby.createLiveSession mounted attempt id = (lobby, .error error) := by
  unfold createLiveSession
  rw [passes.known]
  cases drawn : lobby.freshCode attempt with
  | none => exact ⟨_, rfl⟩
  | some code =>
    have failed := stopped code drawn
    cases inserted : lobby.insertRow mounted attempt participant code with
    | error error => exact ⟨internalError, by simp only [inserted]⟩
    | ok result =>
      rw [inserted] at failed
      cases failed

variable (mounted attempt lobby participant code) in
/-- The row a creation inserts is new. -/
theorem insertRow_new
    (inserted : (lobby.insertRow mounted attempt participant code).toBool = true) :
    ∃ entry, New lobby.database entry ∧
      entry.key = ⟨mounted.experimentId, lobby.database.nextSessionId mounted.experimentId⟩ ∧
      lobby.insertRow mounted attempt participant code =
        .ok (lobby.database.added entry, entry.key.sessionId) := by
  obtain ⟨⟨database, sessionId⟩, inserted⟩ := Except.exists_ok inserted
  have created := inserted
  unfold insertRow attempted at created
  split at created
  · obtain ⟨dialogueId, purpose, rfl, -, -, rfl⟩ := Operation.createSession_ok created
    refine ⟨Database.newSession _ _ dialogueId purpose attempt.now, ?_, rfl, inserted⟩
    exact ⟨lobby.database.nextSessionId_fresh mounted.experimentId, rfl, rfl, rfl⟩
  · cases created

theorem createLiveSession_inserted {entry : SessionEntry}
    (known : lobby.participants.lookup id = some participant)
    (drawn : lobby.freshCode attempt = some code)
    (key : entry.key = ⟨mounted.experimentId, lobby.database.nextSessionId mounted.experimentId⟩)
    (inserted : lobby.insertRow mounted attempt participant code =
      .ok (lobby.database.added entry, entry.key.sessionId)) :
    lobby.createLiveSession mounted attempt id =
      ({ lobby with database := lobby.database.added entry } : Lobby G).initializeSession mounted
        attempt code entry.key participant := by
  unfold createLiveSession
  simp only [known, drawn, inserted]
  rw [key]

/-- The memberships of a new session are no obstacle to anybody. -/
theorem admitsMember_added {row : SessionEntry} {key : SessionKey}
    (empty : row.store.members = []) :
    (lobby.database.added row).AdmitsMember key participant ↔
      lobby.database.AdmitsMember key participant := by
  unfold Database.AdmitsMember Database.added Database.hasParticipant
  refine and_congr_right fun _ => ⟨fun free entry mem => free entry (List.mem_append_left _ mem), ?_⟩
  intro free entry mem member memberMem
  rcases List.mem_append.mp mem with mem | mem
  · exact free entry mem member memberMem
  · cases List.mem_singleton.mp mem
    rw [empty] at memberMem
    cases memberMem

theorem clean_created_iff {entry : SessionEntry} (wf : lobby.WellFormed)
    (missing : lobby.joined participant.id attempt.pick = none)
    (known : lobby.participants.lookup participant.id = some participant)
    (fresh : lobby.database.Fresh entry.key)
    (empty : entry.store.members = []) (inExperiment : entry.key.experimentId = mounted.experimentId)
    (state : G.State) :
    let session : LiveSession G := .created mounted.config entry.key.sessionId state participant
      attempt.now attempt.now
    let created : Lobby G := { lobby with
      sessions := lobby.sessions.insert code session
      database := lobby.database.added entry }
    Clean mounted lobby (created.enroll mounted attempt code participant.id .A).1 participant.id
        (created.enroll mounted attempt code participant.id .A).2 ↔
      attempt.memberOk = true ∧ lobby.database.AdmitsMember entry.key participant := by
  intro session created
  have key : entry.key = ⟨mounted.experimentId, session.sessionId⟩ := by
    rw [← inExperiment]
    rfl
  have unique : Table.Unique SessionEntry.key created.database.sessions := wf.unique.append fresh
  have inside : session.participants.lookup participant.id =
      some (.joined mounted.config participant .A attempt.now) := by
    change (AList.singleton _ _ : Map _ _).lookup _ = _
    rw [Map.lookup_singleton, if_pos rfl]
  rw [clean_enroll_iff created session _ unique ?_ (AList.lookup_insert _) rfl
    inside rfl rfl ?_, ← key, admitsMember_added empty]
  · refine ⟨fun met => ⟨met.1, met.2.1⟩, fun met => ⟨met.1, met.2, entry, ?_, ?_⟩⟩
    · rw [← key]
      exact Database.added_session? fresh
    · intro other differs participantId role
      constructor
      · rintro ⟨member, found, -⟩
        change (AList.singleton _ _ : Map _ _).lookup _ = _ at found
        rw [Map.lookup_singleton, if_neg differs] at found
        cases found
      · rintro ⟨row, mem, -⟩
        rw [empty] at mem
        cases mem
  · intro row mem member memberMem same
    rcases List.mem_append.mp mem with mem | mem
    · exact wf.identified _ _ known row mem member memberMem same
    · cases List.mem_singleton.mp mem
      rw [empty] at memberMem
      cases memberMem
  · intro other otherSession found within
    by_contra differs
    rw [AList.lookup_insert_ne differs] at found
    rw [absent_of_joined missing found] at within
    cases within

theorem clean_create_iff (wf : lobby.WellFormed) (missing : lobby.joined id attempt.pick = none)
    (passes : Passes mounted attempt lobby id participant)
    (alone : lobby.partnerSession mounted attempt participant = none)
    (drawn : lobby.freshCode attempt = some code)
    (inserted : (lobby.insertRow mounted attempt participant code).toBool = true) :
    Clean mounted lobby (lobby.createSession mounted attempt id).1 id
        (lobby.createSession mounted attempt id).2 ↔
      lobby.CreatesCleanly mounted attempt participant := by
  obtain rfl := wf.named id participant passes.known
  have absent : lobby.Absent participant.id := fun code session there _ =>
    absent_of_joined missing there
  have unused : lobby.sessions.lookup code = none :=
    Option.isNone_iff_eq_none.mp (List.find?_some (p := fun code =>
      (lobby.sessions.lookup code).isNone) drawn)
  obtain ⟨entry, new, key, inserted⟩ := insertRow_new mounted attempt lobby participant code inserted
  rw [createSession_passes missing passes, alone]
  simp only [createLiveSession_inserted passes.known drawn key inserted]
  by_cases prepared : Prepares attempt
  · by_cases finished : attempt.timingOk = true ∧ attempt.completeOk = true
    · obtain ⟨row, state, rowKey, empty, initialized⟩ := initializeSession_done mounted
        participant code new prepared finished.1 finished.2
      simp only [initialized]
      rw [← rowKey]
      refine (clean_created_iff wf missing passes.known (rowKey ▸ new.fresh) empty
        (by rw [rowKey, key]) state).trans ?_
      rw [rowKey, key]
      exact ⟨fun met => ⟨fun unprepared => absurd prepared unprepared,
        fun _ => ⟨finished.1, finished.2, met.1, met.2⟩⟩, fun creates => (creates.completes prepared).2.2⟩
    · obtain ⟨after, error, sessions, database, initialized⟩ := initializeSession_dropped
        mounted participant new prepared unused finished
      simp only [initialized]
      have left : NothingLeft lobby after participant.id ↔ _ :=
        nothingLeft_added absent (opened_fresh attempt code new.fresh) sessions database
      have open' : (opened attempt entry code).store.ended = false := by
        rw [SessionStore.ended]
        change (entry.store.row.lifecycle == .ended) = false
        rw [new.forming]
        rfl
      rw [open'] at left
      refine left.trans ⟨fun ended => absurd ended Bool.false_ne_true, fun creates => ?_⟩
      obtain ⟨timing, complete, -⟩ := creates.completes prepared
      exact absurd ⟨timing, complete⟩ finished
  · obtain ⟨row, error, rowKey, ended, initialized⟩ := initializeSession_failed mounted
      participant code new prepared
    simp only [initialized]
    have left : NothingLeft lobby { lobby with database := lobby.database.added row }
        participant.id ↔ _ := nothingLeft_added absent (rowKey ▸ new.fresh) (fun _ => rfl) rfl
    rw [ended] at left
    refine left.trans ⟨fun failed => ⟨fun _ => failed, fun met => absurd met prepared⟩, ?_⟩
    exact fun creates => creates.ends prepared

/-- Rows that were there or name a participant in memory are all the database needs. -/
theorem WellFormed.of_rows {after : Lobby G} (wf : lobby.WellFormed)
    (participants : after.participants = lobby.participants)
    (unique : Table.Unique SessionEntry.key after.database.sessions)
    (rows : ∀ entry ∈ after.database.sessions, ∀ row ∈ entry.store.members,
      (∃ old ∈ lobby.database.sessions, ∃ oldRow ∈ old.store.members,
        oldRow.participantId = row.participantId ∧
          oldRow.participantSessionId = row.participantSessionId) ∨
      ∃ participant, lobby.participants.lookup row.participantSessionId = some participant ∧
        participant.participantId = row.participantId) : after.WellFormed where
  unique
  named := participants ▸ wf.named
  distinct := participants ▸ wf.distinct
  identified := by
    rw [participants]
    intro id participant known entry mem row rowMem same
    rcases rows entry mem row rowMem with ⟨old, oldMem, oldRow, oldRowMem, number, name⟩ |
      ⟨other, knownOther, number⟩
    · exact name.symm.trans
        (wf.identified id participant known old oldMem oldRow oldRowMem (number.trans same))
    · exact wf.distinct _ _ _ _ knownOther known (number.trans same)

/-- A change of one session's rows other than its memberships. -/
theorem WellFormed.setStore {entry : SessionEntry} {key : SessionKey} {store : SessionStore}
    {after : Lobby G} (wf : lobby.WellFormed)
    (participants : after.participants = lobby.participants)
    (database : after.database = lobby.database.setStore key store)
    (found : lobby.database.session? key = some entry)
    (members : ∀ row ∈ store.members, (∃ oldRow ∈ entry.store.members,
        oldRow.participantId = row.participantId ∧
          oldRow.participantSessionId = row.participantSessionId) ∨
      ∃ participant, lobby.participants.lookup row.participantSessionId = some participant ∧
        participant.participantId = row.participantId) : after.WellFormed := by
  obtain ⟨entryMem, isKey⟩ := Table.find?_mem found
  refine wf.of_rows participants (database ▸ Database.unique_setStore wf.unique store) ?_
  rw [database]
  intro changed mem row rowMem
  obtain ⟨old, oldMem, rfl⟩ := Database.mem_setStore mem
  simp only at rowMem
  split at rowMem
  · rename_i same
    cases wf.unique.eq oldMem entryMem (same.trans isKey.symm)
    rcases members row rowMem with ⟨oldRow, oldRowMem, same⟩ | known
    · exact .inl ⟨_, oldMem, oldRow, oldRowMem, same⟩
    · exact .inr known
  · exact .inl ⟨old, oldMem, row, rowMem, rfl, rfl⟩

theorem WellFormed.sessions {after : Lobby G} (wf : lobby.WellFormed)
    (participants : after.participants = lobby.participants)
    (database : after.database = lobby.database) : after.WellFormed :=
  wf.of_rows participants (database ▸ wf.unique) fun entry mem row rowMem =>
    .inl ⟨entry, database ▸ mem, row, rowMem, rfl, rfl⟩

theorem WellFormed.failInitialization {key : SessionKey} {reasonCode : String}
    (wf : lobby.WellFormed) : (lobby.failInitialization attempt key reasonCode).WellFormed := by
  unfold Lobby.failInitialization attempted Database.failSessionInitialization
  cases found : lobby.database.session? key with
  | none => cases attempt.failOk <;> exact wf
  | some entry =>
    cases attempt.failOk with
    | false => exact wf
    | true =>
      refine wf.setStore rfl rfl found fun row mem => .inl ⟨row, ?_, rfl, rfl⟩
      unfold SessionStore.failSessionInitialization at mem
      split at mem <;> exact mem

theorem WellFormed.insertSession {key : SessionKey} {state : G.State} (wf : lobby.WellFormed) :
    (lobby.insertSession mounted attempt code key participant state).1.WellFormed := by
  unfold Lobby.insertSession Database.completeSessionInitialization
  rcases Database.updateSession_cases lobby.database key
    SessionStore.completeSessionInitialization with ⟨entry, found, update⟩ | ⟨-, update⟩
  · have kept (after : Lobby G) (participants : after.participants = lobby.participants)
        (database : after.database = lobby.database.setStore key
          entry.store.completeSessionInitialization.1) : after.WellFormed := by
      refine wf.setStore participants database found fun row mem => .inl ⟨row, ?_, rfl, rfl⟩
      unfold SessionStore.completeSessionInitialization at mem
      split at mem <;> exact mem
    rw [update]
    cases attempt.completeOk with
    | false => exact wf.sessions rfl rfl
    | true => cases entry.store.completeSessionInitialization.2 <;> exact kept _ rfl rfl
  · rw [update]
    cases attempt.completeOk <;> exact wf.sessions rfl rfl

theorem WellFormed.append {key : SessionKey} {record : SessionEventRecord} {db : Database}
    (wf : lobby.WellFormed)
    (appended : lobby.database.appendSessionEvent key record attempt.now = .ok db) :
    ({ lobby with database := db } : Lobby G).WellFormed := by
  obtain ⟨entry, found, rfl⟩ := Database.appendSessionEvent_ok appended
  exact wf.setStore rfl rfl found fun row mem => .inl ⟨row, mem, rfl, rfl⟩

theorem WellFormed.initializeSession {key : SessionKey} (wf : lobby.WellFormed) :
    (lobby.initializeSession mounted attempt code key participant).1.WellFormed := by
  unfold Lobby.initializeSession
  split
  · exact wf.failInitialization
  · rename_i database recorded
    unfold attempted at recorded
    split at recorded <;> try cases recorded
    have appended := wf.append recorded
    simp only
    split
    · exact appended.failInitialization
    · exact appended.failInitialization
    · split
      · exact appended.insertSession
      · exact appended

theorem WellFormed.createLiveSession (wf : lobby.WellFormed) :
    (lobby.createLiveSession mounted attempt id).1.WellFormed := by
  unfold Lobby.createLiveSession
  split
  · exact wf
  · exact wf
  · rename_i participant code _ _
    cases inserted : lobby.insertRow mounted attempt participant code with
    | error error => exact wf
    | ok result =>
      obtain ⟨entry, new, -, row⟩ := insertRow_new mounted attempt lobby participant code
        (by rw [inserted]; rfl)
      cases inserted.symm.trans row
      refine WellFormed.initializeSession (wf.of_rows rfl (wf.unique.append new.fresh) ?_)
      intro changed mem row rowMem
      rcases List.mem_append.mp mem with mem | mem
      · exact .inl ⟨changed, mem, row, rowMem, rfl, rfl⟩
      · cases List.mem_singleton.mp mem
        rw [new.members] at rowMem
        cases rowMem

/-- Whom an admitted participant's session holds under his id: the participant himself. -/
def HoldsSelf (lobby : Lobby G) (code : String) (id : ParticipantSessionId) : Prop :=
  ∀ session member, lobby.sessions.lookup code = some session →
    session.participants.lookup id = some member →
      ∃ participant, lobby.participants.lookup member.participantSessionId = some participant ∧
        participant.participantId = member.participantId

theorem insertSession_ok {key : SessionKey} {state : G.State} {after : Lobby G}
    {answer : String × PlayerRole}
    (h : lobby.insertSession mounted attempt code key participant state = (after, .ok answer)) :
    answer.1 = code ∧ after.participants = lobby.participants ∧
      after.sessions = lobby.sessions.insert code (.created mounted.config key.sessionId state
        participant attempt.now attempt.now) := by
  unfold insertSession at h
  simp only at h
  repeat' split at h
  all_goals cases h
  exact ⟨rfl, rfl, rfl⟩

theorem initializeSession_ok {key : SessionKey} {after : Lobby G} {answer : String × PlayerRole}
    (h : lobby.initializeSession mounted attempt code key participant = (after, .ok answer)) :
    answer.1 = code ∧ after.participants = lobby.participants ∧
      ∃ state, after.sessions = lobby.sessions.insert code (.created mounted.config key.sessionId
        state participant attempt.now attempt.now) := by
  unfold initializeSession at h
  simp only at h
  repeat' split at h
  all_goals try cases h
  obtain ⟨same, participants, sessions⟩ := insertSession_ok h
  exact ⟨same, participants, _, sessions⟩

theorem createLiveSession_ok {after : Lobby G} {answer : String × PlayerRole}
    (wf : lobby.WellFormed)
    (h : lobby.createLiveSession mounted attempt id = (after, .ok answer)) :
    after.HoldsSelf answer.1 id := by
  unfold createLiveSession at h
  repeat' split at h
  all_goals try cases h
  rename_i participant code known _ _ database sessionId _
  obtain rfl := wf.named id participant known
  obtain ⟨same, participants, state, sessions⟩ := initializeSession_ok h
  intro session member there inside
  rw [sessions, same, AList.lookup_insert] at there
  cases there
  change (AList.singleton _ _ : Map _ _).lookup _ = _ at inside
  rw [Map.lookup_singleton, if_pos rfl] at inside
  cases inside
  exact ⟨participant, participants ▸ known, rfl⟩

theorem mem_addSessionParticipant {store : SessionStore} {new row : SessionParticipantRow}
    (mem : row ∈ (store.addSessionParticipant new).members) :
    row ∈ store.members ∨ row.participantId = new.participantId ∧
      row.participantSessionId = new.participantSessionId := by
  unfold SessionStore.addSessionParticipant at mem
  split at mem
  · obtain ⟨old, oldMem, rfl⟩ := List.mem_map.mp mem
    split
    · rename_i same
      exact .inr ⟨by simpa using same, rfl⟩
    · exact .inl oldMem
  · rcases List.mem_append.mp mem with mem | mem
    · exact .inl mem
    · cases List.mem_singleton.mp mem
      exact .inr ⟨rfl, rfl⟩

theorem WellFormed.persistParticipant {after : Lobby G} (wf : lobby.WellFormed)
    (self : lobby.HoldsSelf code id)
    (persisted : lobby.persistParticipant mounted attempt code id = .ok after) :
    after.WellFormed := by
  unfold Lobby.persistParticipant at persisted
  obtain ⟨session, there, persisted⟩ := Except.of_bind_ok persisted
  obtain ⟨member, inside, persisted⟩ := Except.of_bind_ok persisted
  obtain ⟨database, stored, persisted⟩ := Except.of_bind_ok persisted
  cases persisted
  have inside : session.participants.lookup id = some member := by
    unfold findMember at inside
    split at inside
    · cases inside
    · rename_i here
      cases here
      split at inside <;> cases inside
      assumption
  unfold attempted Database.addSessionParticipant at stored
  split at stored <;> try cases stored
  cases found : lobby.database.session? ⟨mounted.experimentId, session.sessionId⟩ with
  | none =>
    rw [found] at stored
    cases stored
  | some entry =>
    rw [found] at stored
    simp only at stored
    repeat' split at stored
    all_goals cases stored
    refine wf.setStore rfl rfl found fun row mem => ?_
    rcases mem_addSessionParticipant mem with old | ⟨number, name⟩
    · exact .inl ⟨row, old, rfl, rfl⟩
    · obtain ⟨participant, known, numbered⟩ := self session member (orError_ok there) inside
      rw [name, number]
      exact .inr ⟨participant, known, numbered⟩

theorem WellFormed.recordJoined {role : PlayerRole} (wf : lobby.WellFormed) :
    (lobby.recordJoined mounted attempt code id role).WellFormed := by
  unfold Lobby.recordJoined
  simp only
  split
  · rename_i database recorded
    obtain ⟨record, -, recorded⟩ := Except.of_bind_ok recorded
    obtain ⟨session, -, recorded⟩ := Except.of_bind_ok recorded
    unfold attempted at recorded
    split at recorded <;> try cases recorded
    exact wf.append recorded
  · exact wf

theorem WellFormed.enroll {role : PlayerRole} (wf : lobby.WellFormed)
    (self : lobby.HoldsSelf code id) :
    (lobby.enroll mounted attempt code id role).1.WellFormed := by
  unfold Lobby.enroll
  split
  · exact wf
  · rename_i persisted
    exact (wf.persistParticipant self persisted).recordJoined

/-- Every request, clean or not, leaves a lobby that the next one's theorem applies to. -/
theorem WellFormed.createSession (wf : lobby.WellFormed) :
    (lobby.createSession mounted attempt id).1.WellFormed := by
  cases here : lobby.joined id attempt.pick with
  | some code =>
    simp only [Lobby.createSession, here]
    exact wf
  | none =>
    by_cases stopped : ∀ participant, ¬Passes mounted attempt lobby id participant
    · rw [show (lobby.createSession mounted attempt id).1 = lobby from createSession_stopped here stopped]
      exact wf
    · obtain ⟨participant, passes⟩ := not_forall_not.mp stopped
      obtain rfl := wf.named id participant passes.known
      rw [createSession_passes here passes]
      cases partner : lobby.partnerSession mounted attempt participant with
      | none =>
        simp only
        have kept : (lobby.createLiveSession mounted attempt participant.id).1.WellFormed :=
          wf.createLiveSession
        rcases created : lobby.createLiveSession mounted attempt participant.id with
          ⟨after, _ | ⟨code, role⟩⟩
        · rw [created] at kept
          exact kept
        · rw [created] at kept
          exact kept.enroll (createLiveSession_ok wf created)
      | some code =>
        obtain ⟨session, there, -⟩ := find_some (waiting_of_partner partner)
        obtain ⟨-, added⟩ := addHuman_waiting mounted attempt passes.known
          (waiting_of_partner partner) there (absent_of_joined here there)
        simp only [added]
        refine WellFormed.enroll (wf.sessions rfl rfl) ?_
        intro session' member there' inside
        rw [AList.lookup_insert] at there'
        cases there'
        change (AList.insert _ _ _ : Map _ _).lookup _ = _ at inside
        rw [AList.lookup_insert] at inside
        cases inside
        exact ⟨participant, passes.known, rfl⟩

/--
A request leaves nothing behind where it fails and everything in step where it succeeds, exactly
where its failures are compensated.
-/
theorem failed_admission_leaves_nothing (mounted : Mounted) (attempt : Attempt G) (lobby : Lobby G)
    (id : ParticipantSessionId) (wf : lobby.WellFormed) :
    Clean mounted lobby (lobby.createSession mounted attempt id).1 id
        (lobby.createSession mounted attempt id).2 ↔
      lobby.Compensated mounted attempt id := by
  unfold Compensated
  cases here : lobby.joined id attempt.pick with
  | some code =>
    have returned : lobby.createSession mounted attempt id = (lobby, lobby.stateResponse code id) := by
      simp only [createSession, here]
    rw [returned]
    exact clean_return_iff here
  | none =>
    simp only
    by_cases stopped : ∀ participant, ¬Passes mounted attempt lobby id participant
    · rw [createSession_stopped here stopped]
      exact iff_of_true (clean_of_absent (fun code session there _ =>
        absent_of_joined here there) _) fun participant passes => absurd passes (stopped participant)
    · obtain ⟨participant, passes⟩ := not_forall_not.mp stopped
      have only : ∀ other, Passes mounted attempt lobby id other → participant = other :=
        fun other others => passes.participant_eq others.known
      cases partner : lobby.partnerSession mounted attempt participant with
      | some code =>
        rw [clean_pair_iff wf here passes partner]
        refine ⟨fun met other others => ?_, fun met => ?_⟩
        · rw [← only other others, partner]
          exact met
        · have paired := met participant passes
          rw [partner] at paired
          exact paired
      | none =>
        by_cases created : ∃ code, lobby.freshCode attempt = some code ∧
            (lobby.insertRow mounted attempt participant code).toBool = true
        · obtain ⟨code, drawn, inserted⟩ := created
          rw [clean_create_iff wf here passes partner drawn inserted]
          refine ⟨fun met other others => ?_, fun met => ?_⟩
          · rw [← only other others, partner]
            exact fun _ _ _ => met
          · have creates := met participant passes
            rw [partner] at creates
            exact creates code drawn inserted
        · obtain ⟨error, refused⟩ := createLiveSession_stopped passes fun code drawn =>
            Bool.eq_false_iff.mpr fun inserted => created ⟨code, drawn, inserted⟩
          rw [createSession_passes here passes, partner]
          simp only [refused]
          refine iff_of_true (clean_refused (fun code session there _ =>
            absent_of_joined here there) error) fun other others => ?_
          rw [← only other others, partner]
          exact fun code drawn inserted => absurd ⟨code, drawn, inserted⟩ created

/-- One participant, who has not asked for a session yet. -/
def registered : Lobby tallyGame where
  participants := AList.singleton (.human 1) (TallyAction.human 1)
  database := {
    experiments := ["e"]
    participants := [⟨1, "p", "e", "human", "direct", none, .null, 0⟩]
    participantSequence := 1 }

theorem registered_wellFormed : registered.WellFormed where
  unique := List.nodup_nil
  named id participant known := by
    change (AList.singleton _ _ : Map _ _).lookup _ = _ at known
    rw [Map.lookup_singleton] at known
    split at known <;> cases known
    rename_i same
    exact same.symm
  distinct id participant other otherParticipant known knownOther numbered := by
    change (AList.singleton _ _ : Map _ _).lookup _ = _ at known knownOther
    rw [Map.lookup_singleton] at known knownOther
    split at known <;> cases known
    split at knownOther <;> cases knownOther
    rename_i isFirst isSecond
    exact isFirst.trans isSecond.symm
  identified _ _ _ entry mem := absurd mem List.not_mem_nil

def tallyMounted : Mounted := ⟨{}, "e", 1, "1"⟩

/-- A request in which only the write of the membership row may fail. -/
def tallyAttempt (memberOk : Bool) : Attempt tallyGame :=
  { now := 0, sessionCodes := ["r"], dialogueIds := ["d"], initialState := .ok (0 : Nat), memberOk }

theorem failed_admission_leaves_nothing_tally :
    registered.WellFormed ∧ Clean tallyMounted registered
      (registered.createSession tallyMounted (tallyAttempt true) (.human 1)).1 (.human 1)
      (registered.createSession tallyMounted (tallyAttempt true) (.human 1)).2 := by
  refine ⟨registered_wellFormed, (failed_admission_leaves_nothing tallyMounted (tallyAttempt true)
    registered (.human 1) registered_wellFormed).mpr ?_⟩
  intro participant passes code drawn inserted
  have isHuman : participant = TallyAction.human 1 := passes.participant_eq rfl
  subst isHuman
  exact ⟨fun unprepared => absurd ⟨rfl, rfl, rfl⟩ unprepared, fun _ => ⟨rfl, rfl, rfl, rfl,
    fun entry mem => absurd mem List.not_mem_nil⟩⟩

/-- The membership row is refused, and the participant of the failed request has a live session. -/
theorem failed_admission_leaves_participant : ¬Clean tallyMounted registered
      (registered.createSession tallyMounted (tallyAttempt false) (.human 1)).1 (.human 1)
      (registered.createSession tallyMounted (tallyAttempt false) (.human 1)).2 := by
  have ran : ∃ after session member,
      registered.createSession tallyMounted (tallyAttempt false) (.human 1) =
        (after, .error internalError) ∧ after.sessions.lookup "r" = some session ∧
      session.lifecycle.isEnded = false ∧
      session.participants.lookup (.human 1) = some member := ⟨_, _, _, rfl, rfl, rfl, rfl⟩
  obtain ⟨after, session, member, ran, there, live, inside⟩ := ran
  rw [ran]
  exact not_clean_of_inside there live inside

end Lobby

end Parlando
