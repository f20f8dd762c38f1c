import Parlando.Consents
import Parlando.Proofs.Admission

namespace Parlando

open Concurrency

variable {G : Game} {form : ConsentForm} {mounted : Mounted}

namespace ConsentTask

def holds (id : ParticipantSessionId) (item : String) (accepted : Bool) : ConsentTask G → Bool
  | consent caller _ (.record _ _ stored _) | consent caller _ (.remember _ stored) =>
    caller == id && stored.lookup item == some accepted
  | _ => false

def subject? : ConsentTask G → Option (ParticipantSessionId × Int)
  | consent id _ (.session participant _) | consent id _ (.record participant _ _ _)
  | consent id _ (.remember participant _) => some (id, participant.participantId)
  | _ => none

def admits? : ConsentTask G → Option ParticipantSessionId
  | create id _ .prepare | create id _ .admission => some id
  | _ => none

def carried (w : Pool (ConsentDesk G) (ConsentTask G)) (pid : Nat) (id : ParticipantSessionId)
    (participantId : Int) (item : String) : Bool :=
  (List.range w.tasks.length).any fun q => q != pid &&
    w.tasks[q]?.any fun task =>
      (w.shared.lobby.database.lastDeclared participantId item).any fun accepted =>
        task.holds id item accepted

/--
What a consent request and an admission must find: nobody is taken in anew with declarations of
earlier on record, a request is refused by the store only where memory does not fall behind, the
updates of memory follow the order of the declarations, and no refusal comes between the check of
consent and the admission.
-/
def inOrder (form : ConsentForm) (mounted : Mounted) (w : Pool (ConsentDesk G) (ConsentTask G)) :
    Pool.Action (ConsentTask G) ConsentInput → Bool
  | .spawn _ => true
  | .run pid input =>
    match w.tasks[pid]? with
    | some (.register participant false) =>
      (w.shared.lobby.participants.lookup participant.id).isSome ||
        !w.shared.lobby.database.consentDeclarations.any fun row =>
          row.participantId == participant.participantId
    | some (.consent id _ (.record participant sessionId stored left)) =>
      (ConsentPc.next input left).all fun declared =>
        match ConsentPc.recordDeclaration form mounted w.shared input participant sessionId
            declared with
        | .error _ => stored.keys.all fun item =>
            (w.shared.lobby.participants.lookup id).isNone ||
              w.shared.decision id item ==
                w.shared.lobby.database.lastDeclared participant.participantId item ||
              carried w pid id participant.participantId item
        | .ok _ => declared.2 || !form.isRequired declared.1 ||
            w.tasks.all fun task => task.admits? != some id
    | some (.consent id _ (.remember participant stored)) =>
      (w.shared.lobby.participants.lookup id).isNone || stored.keys.all fun item =>
        w.shared.lobby.database.lastDeclared participant.participantId item == stored.lookup item ||
          carried w pid id participant.participantId item
    | some (.create id _ .consent) =>
      form.direct.consents.all fun item => !item.required ||
        w.tasks.all fun task => !task.holds id item.id false
    | _ => true

end ConsentTask

/-- The last declaration of every required item accepts it. -/
def ConsentForm.OnRecord (form : ConsentForm) (db : Database) (participantId : Int) : Prop :=
  ∀ item ∈ form.direct.consents, item.required = true →
    db.lastDeclared participantId item.id = some true

/-- Of every participant in memory, the decisions in memory are those declared last. -/
def ConsentDesk.MemoryFollows (desk : ConsentDesk G) : Prop :=
  ∀ id participant, desk.lobby.participants.lookup id = some participant →
    ∀ item, desk.decision id item = desk.lobby.database.lastDeclared participant.participantId item

/-- The participant is in a session of the memory. -/
def Lobby.Inside (lobby : Lobby G) (code : String) (id : ParticipantSessionId)
    (member : SessionParticipant) : Prop :=
  ∃ session, lobby.sessions.lookup code = some session ∧ session.participants.lookup id = some member

/--
Memory has the last decision on record, or a request that has stored it will still update memory;
an admission under way has consent for every required item.
-/
structure ConsentFollows (form : ConsentForm) (w : Pool (ConsentDesk G) (ConsentTask G)) : Prop where
  named : ∀ id participant, w.shared.lobby.participants.lookup id = some participant →
    participant.id = id ∧ w.shared.subjects.lookup id = some participant.participantId
  distinct : ∀ id other n, w.shared.subjects.lookup id = some n →
    w.shared.subjects.lookup other = some n → id = other
  asked : w.Each fun _ t => ∀ id n, t.subject? = some (id, n) →
    w.shared.subjects.lookup id = some n
  follows : ∀ id participant item, w.shared.lobby.participants.lookup id = some participant →
    w.shared.decision id item =
        w.shared.lobby.database.lastDeclared participant.participantId item ∨
      ∃ accepted, w.shared.lobby.database.lastDeclared participant.participantId item =
        some accepted ∧ w.Has fun _ t => t.holds id item accepted = true
  cleared : w.Each fun _ t => ∀ id, t.admits? = some id →
    ∃ n, w.shared.subjects.lookup id = some n ∧ form.OnRecord w.shared.lobby.database n

namespace Database

theorem lastDeclared_record {db db' : Database} {row : ConsentDeclarationRow}
    (h : db.recordConsentDeclaration row = .ok db') (n : Int) (item : String) :
    db'.lastDeclared n item =
      if row.participantId = n ∧ row.consentItemId = item then some row.accepted
      else db.lastDeclared n item := by
  unfold recordConsentDeclaration at h
  split at h
  · cases h
    by_cases mine : row.participantId = n ∧ row.consentItemId = item
    · simp [lastDeclared, mine]
    · have other : (row.participantId == n && row.consentItemId == item) = false := by
        simpa using mine
      simp [lastDeclared, mine, other]
  · cases h

theorem lastDeclared_none {db : Database} {n : Int}
    (none : (db.consentDeclarations.any fun row => row.participantId == n) = false)
    (item : String) : db.lastDeclared n item = .none := by
  have empty : (db.consentDeclarations.filter fun row =>
      row.participantId == n && row.consentItemId == item) = [] := by
    rw [List.filter_eq_nil_iff]
    intro row mem
    have := List.any_eq_false.mp none row mem
    simp_all
  rw [lastDeclared, empty]
  rfl

end Database

namespace Lobby

structure SameConsent (lobby after : Lobby G) : Prop where
  participants : after.participants = lobby.participants
  declarations : after.database.consentDeclarations = lobby.database.consentDeclarations

variable {lobby after : Lobby G} {attempt : Attempt G} {code : String}

theorem SameConsent.refl : SameConsent lobby lobby := ⟨rfl, rfl⟩

theorem SameConsent.trans {third : Lobby G} (first : SameConsent lobby after)
    (second : SameConsent after third) : SameConsent lobby third :=
  ⟨second.participants.trans first.participants, second.declarations.trans first.declarations⟩

theorem SameConsent.lastDeclared (same : SameConsent lobby after) (n : Int) (item : String) :
    after.database.lastDeclared n item = lobby.database.lastDeclared n item := by
  rw [Database.lastDeclared, same.declarations]
  rfl

structure Admits (lobby after : Lobby G) (id : ParticipantSessionId) : Prop where
  same : SameConsent lobby after
  inside : ∀ code other member, after.Inside code other member →
    lobby.Inside code other member ∨
      ∃ participant, lobby.participants.lookup id = some participant ∧
        other = participant.id ∧ member.participantId = participant.participantId

variable {id : ParticipantSessionId}

theorem Admits.of_sessions (same : SameConsent lobby after)
    (sessions : after.sessions = lobby.sessions) : Admits lobby after id where
  same
  inside _ _ _ h := .inl (by rwa [Inside, sessions] at h)

theorem attempted_ok {α : Type} {ok : Bool} {x : Except String α} {y : α}
    (h : attempted ok x = .ok y) : x = .ok y := by
  unfold attempted at h
  split at h
  · exact h
  · cases h

theorem SameConsent.append {key : SessionKey} {record : SessionEventRecord} {now : Timestamp}
    {database : Database} (h : lobby.database.appendSessionEvent key record now = .ok database) :
    SameConsent lobby { lobby with database } := by
  unfold Database.appendSessionEvent at h
  repeat' split at h
  all_goals cases h
  exact ⟨rfl, rfl⟩

theorem SameConsent.failInitialization {key : SessionKey} {reasonCode : String} :
    SameConsent lobby (lobby.failInitialization attempt key reasonCode) := by
  unfold Lobby.failInitialization
  split
  · rename_i database failed
    have failed := attempted_ok failed
    unfold Database.failSessionInitialization at failed
    split at failed <;> cases failed
    exact ⟨rfl, rfl⟩
  · exact .refl

theorem sessions_failInitialization {key : SessionKey} {reasonCode : String} :
    (lobby.failInitialization attempt key reasonCode).sessions = lobby.sessions := by
  unfold Lobby.failInitialization
  split <;> rfl

theorem declarations_completeSessionInitialization (db : Database) (key : SessionKey) :
    (db.completeSessionInitialization key).1.consentDeclarations = db.consentDeclarations := by
  unfold Database.completeSessionInitialization Database.updateSession
  split <;> rfl

/-- The session of the participant alone, and every session there was. -/
theorem inside_created {sessions : Map String (LiveSession G)} {sessionId : Int} {state : G.State}
    {participant : ParticipantSession} {started now : Timestamp}
    (sessions' : sessions = lobby.sessions.insert code
      (.created mounted.config sessionId state participant started now))
    {place : String} {other : ParticipantSessionId} {member : SessionParticipant}
    (h : ∃ session, sessions.lookup place = some session ∧
      session.participants.lookup other = some member) :
    lobby.Inside place other member ∨
      other = participant.id ∧ member.participantId = participant.participantId := by
  obtain ⟨session, there, inside⟩ := h
  rw [sessions', Map.lookup_insert_eq] at there
  split at there
  · cases there
    change (AList.singleton _ _ : Map _ _).lookup _ = _ at inside
    rw [Map.lookup_singleton] at inside
    split at inside <;> cases inside
    rename_i same
    exact .inr ⟨same, rfl⟩
  · exact .inl ⟨session, there, inside⟩

theorem admits_insertSession {key : SessionKey} {state : G.State}
    {participant : ParticipantSession} (known : lobby.participants.lookup id = some participant) :
    Admits lobby (lobby.insertSession mounted attempt code key participant state).1 id := by
  have inserted : ∀ {place other member},
      (∃ session, (lobby.sessions.insert code (.created mounted.config key.sessionId state
        participant attempt.now attempt.now)).lookup place = some session ∧
        session.participants.lookup other = some member) →
      lobby.Inside place other member ∨ ∃ participant, lobby.participants.lookup id =
        some participant ∧ other = participant.id ∧
          member.participantId = participant.participantId := by
    intro place other member h
    exact (inside_created rfl h).imp_right fun mine => ⟨participant, known, mine⟩
  have erased : ∀ {place other member},
      (∃ session, ((lobby.sessions.insert code (.created mounted.config key.sessionId state
        participant attempt.now attempt.now)).erase code).lookup place = some session ∧
        session.participants.lookup other = some member) →
      lobby.Inside place other member ∨ ∃ participant, lobby.participants.lookup id =
        some participant ∧ other = participant.id ∧
          member.participantId = participant.participantId := by
    intro place other member ⟨session, there, inside⟩
    rw [Map.lookup_erase_eq] at there
    split at there
    · cases there
    · exact inserted ⟨session, there, inside⟩
  have completed := declarations_completeSessionInitialization lobby.database key
  unfold Lobby.insertSession
  simp only
  split
  · split
    · rename_i database completes
      rw [completes] at completed
      exact ⟨⟨rfl, completed⟩, fun _ _ _ h => inserted h⟩
    · rename_i database completes
      rw [completes] at completed
      exact ⟨⟨rfl, completed⟩, fun _ _ _ h => erased h⟩
  · exact ⟨⟨rfl, rfl⟩, fun _ _ _ h => erased h⟩

/-- What a section admits from a lobby that only differs in its database. -/
theorem Admits.after_same {middle : Lobby G} (same : SameConsent lobby middle)
    (sessions : middle.sessions = lobby.sessions) (admits : Admits middle after id) :
    Admits lobby after id where
  same := same.trans admits.same
  inside place other member h := by
    rcases admits.inside place other member h with ⟨session, there, inside⟩ | ⟨participant, known, mine⟩
    · exact .inl ⟨session, sessions ▸ there, inside⟩
    · exact .inr ⟨participant, same.participants ▸ known, mine⟩

theorem admits_initializeSession {key : SessionKey} {participant : ParticipantSession}
    (known : lobby.participants.lookup id = some participant) :
    Admits lobby (lobby.initializeSession mounted attempt code key participant).1 id := by
  unfold Lobby.initializeSession
  split
  · exact .of_sessions .failInitialization sessions_failInitialization
  · rename_i database stored
    have same : SameConsent lobby { lobby with database } := .append (attempted_ok stored)
    simp only
    split
    · exact .of_sessions (same.trans .failInitialization) sessions_failInitialization
    · exact .of_sessions (same.trans .failInitialization) sessions_failInitialization
    · split
      · exact .after_same same rfl (admits_insertSession known)
      · exact .of_sessions same rfl

theorem admits_createLiveSession :
    Admits lobby (lobby.createLiveSession mounted attempt id).1 id := by
  unfold Lobby.createLiveSession
  split
  · exact .of_sessions .refl rfl
  · exact .of_sessions .refl rfl
  · rename_i participant code known _
    split
    · exact .of_sessions .refl rfl
    · rename_i database sessionId created
      have same : SameConsent lobby { lobby with database } := by
        have created := attempted_ok created
        unfold Database.createSession at created
        repeat' split at created
        all_goals cases created
        exact ⟨rfl, rfl⟩
      exact .after_same same rfl (admits_initializeSession known)

theorem admits_addHuman {role : PlayerRole} {now : Timestamp}
    (h : lobby.addHuman mounted code id now = .ok (role, after)) : Admits lobby after id := by
  unfold Lobby.addHuman at h
  split at h
  · cases h
  · rename_i participant known
    split at h
    · cases h
    · rename_i session found
      rcases added : session.addHumanParticipant mounted.config participant now with
        error | ⟨role', joined⟩
      · rw [added] at h
        cases h
      · rw [added] at h
        cases h
        refine ⟨⟨rfl, rfl⟩, fun place other member ⟨joined', there, inside⟩ => ?_⟩
        change (lobby.sessions.insert code joined).lookup place = _ at there
        rw [Map.lookup_insert_eq] at there
        split at there
        · rename_i here
          cases there
          unfold LiveSession.addHumanParticipant at added
          repeat' split at added
          all_goals cases added
          · exact .inl ⟨_, here ▸ found, inside⟩
          · change (session.participants.insert _ _).lookup other = _ at inside
            rw [Map.lookup_insert_eq] at inside
            split at inside
            · rename_i same
              cases inside
              exact .inr ⟨participant, known, same, rfl⟩
            · exact .inl ⟨session, here ▸ found, inside⟩
        · exact .inl ⟨joined', there, inside⟩

theorem admits_pairOrCreate (mounted : Mounted) (attempt : Attempt G) (lobby : Lobby G)
    (id : ParticipantSessionId) : Admits lobby (lobby.pairOrCreate mounted attempt id).1 id := by
  unfold Lobby.pairOrCreate
  split
  · split
    · exact .of_sessions .refl rfl
    · split
      · exact .of_sessions .refl rfl
      · exact admits_createLiveSession
      · split
        · exact .of_sessions .refl rfl
        · rename_i added
          exact admits_addHuman added
  · split
    · exact .of_sessions .refl rfl
    · exact admits_createLiveSession

theorem SameConsent.persistParticipant
    (h : lobby.persistParticipant mounted attempt code id = .ok after) :
    SameConsent lobby after ∧ after.sessions = lobby.sessions := by
  unfold Lobby.persistParticipant at h
  obtain ⟨session, -, h⟩ := Except.of_bind_ok h
  obtain ⟨member, -, h⟩ := Except.of_bind_ok h
  obtain ⟨database, stored, h⟩ := Except.of_bind_ok h
  cases h
  have stored := attempted_ok stored
  unfold Database.addSessionParticipant at stored
  repeat' split at stored
  all_goals cases stored
  exact ⟨⟨rfl, rfl⟩, rfl⟩

theorem SameConsent.recordJoined (mounted : Mounted) (attempt : Attempt G) (lobby : Lobby G)
    (code : String) (id : ParticipantSessionId) (role : PlayerRole) :
    SameConsent lobby (lobby.recordJoined mounted attempt code id role) ∧
      (lobby.recordJoined mounted attempt code id role).sessions = lobby.sessions := by
  unfold Lobby.recordJoined
  simp only
  split
  · rename_i database recorded
    obtain ⟨record, -, recorded⟩ := Except.of_bind_ok recorded
    obtain ⟨session, -, recorded⟩ := Except.of_bind_ok recorded
    exact ⟨.append (attempted_ok recorded), rfl⟩
  · exact ⟨.refl, rfl⟩

theorem SameConsent.enroll (role : PlayerRole) :
    SameConsent lobby (lobby.enroll mounted attempt code id role).1 ∧
      (lobby.enroll mounted attempt code id role).1.sessions = lobby.sessions := by
  unfold Lobby.enroll
  split
  · exact ⟨.refl, rfl⟩
  · rename_i middle persisted
    obtain ⟨same, sessions⟩ := SameConsent.persistParticipant persisted
    obtain ⟨joined, unchanged⟩ := SameConsent.recordJoined mounted attempt middle code id role
    exact ⟨same.trans joined, unchanged.trans sessions⟩

end Lobby

theorem ConsentTask.caller_of_holds {id other : ParticipantSessionId} {request : ConsentRequest}
    {pc : ConsentPc} {item : String} {accepted : Bool}
    (holds : (ConsentTask.consent id request pc : ConsentTask G).holds other item accepted = true) :
    other = id := by
  cases pc <;> simp_all [ConsentTask.holds]

theorem ConsentTask.mem_keys {stored : Map String Bool} {item : String} {accepted : Bool}
    (held : stored.lookup item = some accepted) : item ∈ stored.keys :=
  AList.mem_keys.mp (AList.lookup_isSome.mp (by rw [held]; rfl))

/-- What a request has stored comes before what memory had. -/
theorem ConsentDesk.decision_remember (desk : ConsentDesk G) (id : ParticipantSessionId)
    (stored : Map String Bool) (item : String) :
    (desk.remember id stored).decision id item = (stored.lookup item).or (desk.decision id item) := by
  simp only [decision, remember, AList.lookup_insert, Option.bind_some]
  cases held : stored.lookup item with
  | some accepted =>
    have mem : item ∈ stored := AList.lookup_isSome.mp (by rw [held]; rfl)
    rw [AList.lookup_union_left mem, held]
    rfl
  | none =>
    have mem : item ∉ stored := AList.lookup_eq_none.mp held
    rw [AList.lookup_union_right mem]
    cases desk.decisions.lookup id <;> rfl

section
variable {w : Pool (ConsentDesk G) (ConsentTask G)} {pid : Nat} {t t' : ConsentTask G}
  {desk : ConsentDesk G}

def consentAfter (w : Pool (ConsentDesk G) (ConsentTask G)) (pid : Nat) (desk : ConsentDesk G)
    (t' : ConsentTask G) : Pool (ConsentDesk G) (ConsentTask G) :=
  ⟨desk, w.tasks.set pid t' ++ []⟩

def ConsentTask.Other (w : Pool (ConsentDesk G) (ConsentTask G)) (pid : Nat)
    (p : ConsentTask G → Prop) : Prop :=
  ∃ q u, q ≠ pid ∧ w.tasks[q]? = some u ∧ p u

theorem ConsentTask.Other.has {p : ConsentTask G → Prop} (other : ConsentTask.Other w pid p) :
    (consentAfter w pid desk t').Has fun _ u => p u := by
  obtain ⟨q, u, different, hu, pu⟩ := other
  exact ⟨q, u, Pool.other_after different hu, pu⟩

theorem ConsentTask.other_of_has {p : ConsentTask G → Prop} (has : w.Has fun _ u => p u)
    (ht : w.tasks[pid]? = some t) (not : ¬p t) : ConsentTask.Other w pid p := by
  obtain ⟨q, u, hu, pu⟩ := has
  refine ⟨q, u, ?_, hu, pu⟩
  intro same
  subst same
  cases hu.symm.trans ht
  exact not pu

theorem ConsentTask.other_of_carried {id : ParticipantSessionId} {n : Int} {item : String}
    (h : ConsentTask.carried w pid id n item = true) :
    ∃ accepted, w.shared.lobby.database.lastDeclared n item = some accepted ∧
      ConsentTask.Other w pid fun u => u.holds id item accepted = true := by
  obtain ⟨q, -, h⟩ := List.any_eq_true.mp h
  obtain ⟨different, h⟩ := Bool.and_eq_true_iff.mp h
  obtain ⟨u, hu, h⟩ := (Option.any_eq_true _ _).mp h
  obtain ⟨accepted, last, holds⟩ := (Option.any_eq_true _ _).mp h
  exact ⟨accepted, last, q, u, by simpa using different, hu, holds⟩

namespace ConsentFollows

/-- A step that leaves participants, decisions and record alone, in which no decision is dropped. -/
theorem pass (fol : ConsentFollows form w) (ht : w.tasks[pid]? = some t)
    (same : Lobby.SameConsent w.shared.lobby desk.lobby)
    (decisions : desk.decisions = w.shared.decisions) (subjects : desk.subjects = w.shared.subjects)
    (asked : ∀ id n, t'.subject? = some (id, n) → w.shared.subjects.lookup id = some n)
    (kept : ∀ id item accepted, t.holds id item accepted = true → t'.holds id item accepted = true)
    (cleared : ∀ id, t'.admits? = some id →
      ∃ n, w.shared.subjects.lookup id = some n ∧ form.OnRecord w.shared.lobby.database n) :
    ConsentFollows form (consentAfter w pid desk t') where
  named := by
    change ∀ id participant, desk.lobby.participants.lookup id = some participant → _
    rw [same.participants]
    intro id participant known
    change _ ∧ desk.subjects.lookup id = _
    rw [subjects]
    exact fol.named id participant known
  distinct := by
    change ∀ id other n, desk.subjects.lookup id = some n → desk.subjects.lookup other = some n → _
    rw [subjects]
    exact fol.distinct
  asked := by
    refine Pool.Each.after ?_ ?_ (by simp)
    · intro id n
      change _ → desk.subjects.lookup id = _
      rw [subjects]
      exact asked id n
    · intro q u _ hu id n
      change _ → desk.subjects.lookup id = _
      rw [subjects]
      exact fol.asked q u hu id n
  follows := by
    change ∀ id participant item, desk.lobby.participants.lookup id = some participant → _
    rw [same.participants]
    intro id participant item known
    change desk.decision id item = desk.lobby.database.lastDeclared _ _ ∨
      ∃ accepted, desk.lobby.database.lastDeclared _ _ = _ ∧ _
    rw [same.lastDeclared, ConsentDesk.decision, decisions]
    rcases fol.follows id participant item known with agrees | ⟨accepted, last, has⟩
    · exact .inl agrees
    · exact .inr ⟨accepted, last, has.after ht (kept id item accepted) fun _ _ _ h => h⟩
  cleared := by
    refine Pool.Each.after ?_ ?_ (by simp)
    · intro id admits
      simp only [consentAfter, subjects, ConsentForm.OnRecord, same.lastDeclared]
      exact cleared id admits
    · intro q u _ hu id admits
      simp only [consentAfter, subjects, ConsentForm.OnRecord, same.lastDeclared]
      exact fol.cleared q u hu id admits

variable {id : ParticipantSessionId} {request : ConsentRequest} {participant : ParticipantSession}
  {sessionId : Option Int} {stored left : Map String Bool}

/-- A declaration is stored, and its request has yet to update memory. -/
theorem recorded (fol : ConsentFollows form w)
    (ht : w.tasks[pid]? = some (.consent id request (.record participant sessionId stored left)))
    {input : ConsentInput} {declared : String × Bool} {database : Database}
    (h : ConsentPc.recordDeclaration form mounted w.shared input participant sessionId declared =
      .ok database)
    (spared : declared.2 = true ∨ form.isRequired declared.1 = false ∨
      ∀ u ∈ w.tasks, u.admits? ≠ some id) :
    ConsentFollows form (consentAfter w pid
      { w.shared with lobby := { w.shared.lobby with database } }
      (.consent id request (.record participant sessionId (stored.insert declared.1 declared.2)
        (left.erase declared.1)))) := by
  have last := Database.lastDeclared_record (Lobby.attempted_ok h)
  have mine : w.shared.subjects.lookup id = some participant.participantId :=
    fol.asked pid _ ht id _ rfl
  constructor
  · exact fol.named
  · exact fol.distinct
  · refine Pool.Each.after ?_ (fun q u _ hu => fol.asked q u hu) (by simp)
    intro other n asks
    cases asks
    exact mine
  · intro other known item there
    change w.shared.decision other item = database.lastDeclared _ _ ∨
      ∃ accepted, database.lastDeclared _ _ = _ ∧ _
    rw [last]
    split
    · rename_i same
      obtain ⟨number, name⟩ := same
      have : other = id := fol.distinct _ _ _ ((fol.named other known there).2)
        (number ▸ mine)
      subst this
      have name : declared.1 = item := name
      refine .inr ⟨_, rfl, pid, _, Pool.self_after ht, ?_⟩
      rw [← name]
      simp [ConsentTask.holds]
    · rename_i different
      rcases fol.follows other known item there with agrees | ⟨accepted, was, has⟩
      · exact .inl agrees
      · refine .inr ⟨accepted, was, has.after ht ?_ fun _ _ _ h => h⟩
        intro holds
        simp only [ConsentTask.holds, Bool.and_eq_true, beq_iff_eq] at holds
        obtain ⟨rfl, holds⟩ := holds
        have number : participant.participantId = known.participantId :=
          Option.some.inj (mine.symm.trans (fol.named id known there).2)
        have name : declared.1 ≠ item := fun name => different ⟨number, name⟩
        simp [ConsentTask.holds, AList.lookup_insert_ne (Ne.symm name), holds]
  · refine Pool.Each.after ?_ ?_ (by simp)
    · intro other admits
      cases admits
    · intro q u _ hu other admits
      obtain ⟨n, subject, consents⟩ := fol.cleared q u hu other admits
      refine ⟨n, subject, fun item mem required => ?_⟩
      change database.lastDeclared n item.id = _
      rw [last]
      split
      · rename_i same
        obtain ⟨number, name⟩ := same
        have : other = id := fol.distinct _ _ _ subject (number ▸ mine)
        subst this
        rcases spared with accepted | optional | nobody
        · exact congrArg some accepted
        · have := List.any_eq_false.mp optional item mem
          simp_all
        · exact absurd admits (nobody u (List.mem_of_getElem? hu))
      · exact consents item mem required

/-- A request ends early where memory does not fall behind. -/
theorem refused (fol : ConsentFollows form w) {pc : ConsentPc}
    (ht : w.tasks[pid]? = some (.consent id request pc))
    (spared : ∀ item accepted,
      (ConsentTask.consent id request pc : ConsentTask G).holds id item accepted = true →
      w.shared.lobby.participants.lookup id = none ∨ ∃ n, w.shared.subjects.lookup id = some n ∧
        (w.shared.decision id item = w.shared.lobby.database.lastDeclared n item ∨
          ConsentTask.carried w pid id n item = true)) (result) :
    ConsentFollows form (consentAfter w pid w.shared (.consent id request (.returned result))) where
  named := fol.named
  distinct := fol.distinct
  asked := Pool.Each.after (by intro other n asks; cases asks) (fun q u _ hu => fol.asked q u hu)
    (by simp)
  cleared := Pool.Each.after (by intro other admits; cases admits)
    (fun q u _ hu => fol.cleared q u hu) (by simp)
  follows := by
    intro other known item there
    rcases fol.follows other known item there with agrees | ⟨accepted, last, has⟩
    · exact .inl agrees
    · by_cases mine : (ConsentTask.consent id request pc : ConsentTask G).holds other item
          accepted = true
      · obtain rfl : other = id := ConsentTask.caller_of_holds mine
        rcases spared item accepted mine with missing | ⟨n, subject, agrees | carried⟩
        · cases missing.symm.trans there
        · have number : n = known.participantId :=
            Option.some.inj (subject.symm.trans (fol.named other known there).2)
          exact .inl (number ▸ agrees)
        · have number : n = known.participantId :=
            Option.some.inj (subject.symm.trans (fol.named other known there).2)
          rw [number] at carried
          obtain ⟨accepted', last', other⟩ := ConsentTask.other_of_carried carried
          exact .inr ⟨accepted', last', other.has⟩
      · exact .inr ⟨accepted, last, (ConsentTask.other_of_has has ht mine).has⟩

/-- A request updates memory, in the order of the declarations on record. -/
theorem remembered (fol : ConsentFollows form w)
    (ht : w.tasks[pid]? = some (.consent id request (.remember participant stored)))
    (spared : ∀ item ∈ stored.keys, w.shared.lobby.participants.lookup id = none ∨
      w.shared.lobby.database.lastDeclared participant.participantId item = stored.lookup item ∨
      ConsentTask.carried w pid id participant.participantId item = true) (result) :
    ConsentFollows form (consentAfter w pid (w.shared.remember id stored)
      (.consent id request (.returned result))) where
  named := fol.named
  distinct := fol.distinct
  asked := Pool.Each.after (by intro other n asks; cases asks) (fun q u _ hu => fol.asked q u hu)
    (by simp)
  cleared := Pool.Each.after (by intro other admits; cases admits)
    (fun q u _ hu => fol.cleared q u hu) (by simp)
  follows := by
    intro other known item there
    change (w.shared.remember id stored).decision other item = w.shared.lobby.database.lastDeclared _ _ ∨
      ∃ accepted, w.shared.lobby.database.lastDeclared _ _ = _ ∧ _
    by_cases here : other = id
    · subst here
      have number : participant.participantId = known.participantId :=
        Option.some.inj ((fol.asked pid _ ht other _ rfl).symm.trans (fol.named other known there).2)
      rw [ConsentDesk.decision_remember]
      cases held : stored.lookup item with
      | some accepted =>
        rcases spared item (ConsentTask.mem_keys held) with missing | agrees | carried
        · cases missing.symm.trans there
        · rw [number, held] at agrees
          exact .inl agrees.symm
        · rw [number] at carried
          obtain ⟨accepted', last', other⟩ := ConsentTask.other_of_carried carried
          exact .inr ⟨accepted', last', other.has⟩
      | none =>
        rcases fol.follows other known item there with agrees | ⟨accepted, last, has⟩
        · exact .inl agrees
        · refine .inr ⟨accepted, last, (ConsentTask.other_of_has has ht ?_).has⟩
          simp [ConsentTask.holds, held]
    · have after : (w.shared.remember id stored).decision other item =
          w.shared.decision other item := by
        simp [ConsentDesk.decision, ConsentDesk.remember, AList.lookup_insert_ne here]
      rw [after]
      rcases fol.follows other known item there with agrees | ⟨accepted, last, has⟩
      · exact .inl agrees
      · refine .inr ⟨accepted, last, (ConsentTask.other_of_has has ht ?_).has⟩
        simp [ConsentTask.holds, Ne.symm here]

/-- A participant enters memory who has declared nothing, or was there before. -/
theorem registered (fol : ConsentFollows form w) {participant : ParticipantSession}
    (ht : w.tasks[pid]? = some (.register participant false))
    (mints : w.shared.mints participant = true)
    (spared : (w.shared.lobby.participants.lookup participant.id).isSome = true ∨
      (w.shared.lobby.database.consentDeclarations.any fun row =>
        row.participantId == participant.participantId) = false) :
    ConsentFollows form (consentAfter w pid (w.shared.createParticipant participant)
      (.register participant true)) := by
  by_cases known : (w.shared.lobby.participants.lookup participant.id).isSome = true
  · rw [ConsentDesk.createParticipant, if_pos known]
    exact fol.pass ht .refl rfl rfl (by intro id n asks; cases asks) (by simp [ConsentTask.holds])
      (by intro id admits; cases admits)
  · have silent := spared.resolve_left known
    rw [ConsentDesk.createParticipant, if_neg known]
    have subjects : ∀ {id n}, w.shared.subjects.lookup id = some n →
        (w.shared.subjects.insert participant.id participant.participantId).lookup id = some n := by
      intro id n subject
      by_cases here : id = participant.id
      · subst here
        rw [ConsentDesk.mints, subject] at mints
        rw [AList.lookup_insert, ← beq_iff_eq.mp mints]
      · rw [AList.lookup_insert_ne here, subject]
    have fresh : ∀ {id}, w.shared.subjects.lookup id = some participant.participantId →
        id = participant.id := by
      intro id subject
      cases same : w.shared.subjects.lookup participant.id with
      | some n =>
        rw [ConsentDesk.mints, same] at mints
        exact fol.distinct _ _ _ subject (same.trans (congrArg some (beq_iff_eq.mp mints)))
      | none =>
        rw [ConsentDesk.mints, same] at mints
        have := Map.lookup_mem_values subject
        simp_all
    constructor
    · intro id other there
      change (w.shared.lobby.participants.insert participant.id participant).lookup id = _ at there
      by_cases here : id = participant.id
      · subst here
        rw [AList.lookup_insert] at there
        cases there
        exact ⟨rfl, AList.lookup_insert _⟩
      · rw [AList.lookup_insert_ne here] at there
        obtain ⟨name, number⟩ := fol.named id other there
        exact ⟨name, subjects number⟩
    · intro id other n subject subject'
      change (w.shared.subjects.insert _ _).lookup id = _ at subject
      change (w.shared.subjects.insert _ _).lookup other = _ at subject'
      rw [Map.lookup_insert_eq] at subject subject'
      split at subject <;> split at subject'
      · simp_all
      · rename_i here there
        cases subject
        exact here ▸ (fresh subject').symm
      · rename_i here there
        cases subject'
        exact there ▸ fresh subject
      · exact fol.distinct id other n subject subject'
    · refine Pool.Each.after (by intro id n asks; cases asks) ?_ (by simp)
      intro q u _ hu id n asks
      exact subjects (fol.asked q u hu id n asks)
    · intro id other item there
      change (w.shared.lobby.participants.insert participant.id participant).lookup id = _ at there
      by_cases here : id = participant.id
      · subst here
        rw [AList.lookup_insert] at there
        cases there
        refine .inl ?_
        change Option.bind ((w.shared.decisions.insert _ _).lookup _) _ =
          w.shared.lobby.database.lastDeclared _ _
        rw [Database.lastDeclared_none silent, AList.lookup_insert]
        rfl
      · rw [AList.lookup_insert_ne here] at there
        change Option.bind ((w.shared.decisions.insert _ _).lookup _) _ =
          w.shared.lobby.database.lastDeclared _ _ ∨
            ∃ accepted, w.shared.lobby.database.lastDeclared _ _ = _ ∧ _
        rw [AList.lookup_insert_ne here]
        rcases fol.follows id other item there with agrees | ⟨accepted, last, has⟩
        · exact .inl agrees
        · refine .inr ⟨accepted, last, (ConsentTask.other_of_has has ht ?_).has⟩
          simp [ConsentTask.holds]
    · refine Pool.Each.after (by intro id admits; cases admits) ?_ (by simp)
      intro q u _ hu id admits
      obtain ⟨n, subject, consents⟩ := fol.cleared q u hu id admits
      exact ⟨n, subjects subject, consents⟩

/-- Stale participants are dropped from memory. -/
theorem dropped (fol : ConsentFollows form w) {pc pc' : DropPc}
    (ht : w.tasks[pid]? = some (.cleanup pc)) (stale attached : List ParticipantSessionId) :
    ConsentFollows form (consentAfter w pid (w.shared.dropParticipants stale attached)
      (.cleanup pc')) := by
  have kept : ∀ {id participant},
      (w.shared.dropParticipants stale attached).lobby.participants.lookup id = some participant →
      w.shared.lobby.participants.lookup id = some participant ∧ ∀ item,
        (w.shared.dropParticipants stale attached).decision id item =
          w.shared.decision id item := by
    intro id participant there
    simp only [ConsentDesk.dropParticipants, Map.lookup_retain] at there
    split at there
    · rename_i keeps
      refine ⟨there, fun item => ?_⟩
      simp only [ConsentDesk.decision, ConsentDesk.dropParticipants, Map.lookup_retain, keeps,
        if_true]
    · cases there
  constructor
  · intro id participant there
    exact fol.named id participant (kept there).1
  · exact fol.distinct
  · exact Pool.Each.after (by intro id n asks; cases asks) (fun q u _ hu => fol.asked q u hu)
      (by simp)
  · intro id participant item there
    obtain ⟨known, decisions⟩ := kept there
    change (w.shared.dropParticipants stale attached).decision id item =
      w.shared.lobby.database.lastDeclared _ _ ∨
        ∃ accepted, w.shared.lobby.database.lastDeclared _ _ = _ ∧ _
    rw [decisions]
    rcases fol.follows id participant item known with agrees | ⟨accepted, last, has⟩
    · exact .inl agrees
    · exact .inr ⟨accepted, last, has.after ht (by simp [ConsentTask.holds]) fun _ _ _ h => h⟩
  · exact Pool.Each.after (by intro id admits; cases admits) (fun q u _ hu => fol.cleared q u hu)
      (by simp)

/-- A participant who passes the check has consent on record for every required item. -/
theorem consents_of_check (fol : ConsentFollows form w)
    (checked : w.shared.requireConsent form id = .ok ())
    (spared : ∀ item ∈ form.direct.consents, item.required = true →
      ∀ u ∈ w.tasks, u.holds id item.id false = false) :
    ∃ n, w.shared.subjects.lookup id = some n ∧ form.OnRecord w.shared.lobby.database n := by
  unfold ConsentDesk.requireConsent at checked
  split at checked
  · cases checked
  · rename_i participant known
    refine ⟨participant.participantId, (fol.named id participant known).2, ?_⟩
    intro item mem required
    simp only at checked
    split at checked
    · rename_i complete
      have decided : w.shared.decision id item.id = some true := by
        have := List.filter_eq_nil_iff.mp (List.isEmpty_iff.mp complete) item mem
        cases decision : w.shared.decision id item.id <;> simp_all
      rcases fol.follows id participant item.id known with agrees | ⟨accepted, last, has⟩
      · exact agrees.symm.trans decided
      · cases accepted with
        | true => exact last
        | false =>
          obtain ⟨q, u, hu, holds⟩ := has
          have := spared item mem required u (List.mem_of_getElem? hu)
          simp_all
    · cases checked

theorem step_consent (fol : ConsentFollows form w) {input : ConsentInput} {pc pc' : ConsentPc}
    (ht : w.tasks[pid]? = some (.consent id request pc))
    (met : ConsentTask.inOrder form mounted w (.run pid input) = true)
    (h : pc.step form mounted id request w.shared input = some (desk, pc')) :
    ConsentFollows form (consentAfter w pid desk (.consent id request pc')) := by
  simp only [ConsentTask.inOrder, ht] at met
  cases pc with
  | call =>
    simp only [ConsentPc.step] at h
    split at h
    · cases h
      exact fol.pass ht .refl rfl rfl (by intro _ _ asks; cases asks) (by simp [ConsentTask.holds])
        (by intro _ admits; cases admits)
    · split at h
      · cases h
        exact fol.pass ht .refl rfl rfl (by intro _ _ asks; cases asks)
          (by simp [ConsentTask.holds]) (by intro _ admits; cases admits)
      · rename_i participant known
        cases h
        refine fol.pass ht .refl rfl rfl ?_ (by simp [ConsentTask.holds]) ?_
        · intro other n asks
          split at asks <;> cases asks
          exact (fol.named id participant known).2
        · intro other admits
          split at admits <;> cases admits
  | session participant changed =>
    cases h
    refine fol.pass ht .refl rfl rfl ?_ (by simp [ConsentTask.holds])
      (by intro _ admits; cases admits)
    intro other n asks
    cases asks
    exact fol.asked pid _ ht id _ rfl
  | record participant sessionId stored left =>
    simp only [ConsentPc.step] at h
    split at h
    · cases h
      refine fol.pass ht .refl rfl rfl ?_ (by simp [ConsentTask.holds])
        (by intro _ admits; cases admits)
      intro other n asks
      cases asks
      exact fol.asked pid _ ht id _ rfl
    · rename_i declared next
      simp only [next, Option.all_some] at met
      split at h
      · rename_i failed
        cases h
        rw [failed] at met
        refine fol.refused ht (fun item accepted holds => ?_) _
        have held : stored.lookup item = some accepted := by simpa [ConsentTask.holds] using holds
        have := List.all_eq_true.mp met item (ConsentTask.mem_keys held)
        rcases (by simpa [or_assoc] using this : _ ∨ _) with missing | agrees
        · exact .inl missing
        · exact .inr ⟨_, fol.asked pid _ ht id _ rfl, agrees⟩
      · rename_i database stored
        cases h
        rw [stored] at met
        refine fol.recorded ht stored ?_
        simpa [or_assoc] using met
  | remember participant stored =>
    simp only [ConsentPc.step] at h
    have spared : ∀ item ∈ stored.keys, w.shared.lobby.participants.lookup id = none ∨
        w.shared.lobby.database.lastDeclared participant.participantId item =
          stored.lookup item ∨
        ConsentTask.carried w pid id participant.participantId item = true := by
      intro item listed
      rcases Bool.or_eq_true_iff.mp met with missing | ordered
      · exact .inl (Option.isNone_iff_eq_none.mp missing)
      · have := List.all_eq_true.mp ordered item listed
        exact .inr (by simpa using this)
    split at h
    · rename_i missing
      cases h
      exact fol.refused ht (fun _ _ _ => .inl missing) _
    · cases h
      exact fol.remembered ht spared _
  | returned result => cases h

theorem step_create (fol : ConsentFollows form w) {attempt : Attempt G} {input : ConsentInput}
    {pc pc' : CreateSessionPc} (ht : w.tasks[pid]? = some (.create id attempt pc))
    (met : ConsentTask.inOrder form mounted w (.run pid input) = true)
    (h : pc.step form mounted id attempt w.shared input = some (desk, pc')) :
    ConsentFollows form (consentAfter w pid desk (.create id attempt pc')) := by
  have quiet : ∀ {t' : ConsentTask G} {desk : ConsentDesk G},
      Lobby.SameConsent w.shared.lobby desk.lobby → desk.decisions = w.shared.decisions →
      desk.subjects = w.shared.subjects → t'.subject? = none →
      (∀ other, t'.admits? = some other → ∃ n, w.shared.subjects.lookup other = some n ∧
        form.OnRecord w.shared.lobby.database n) →
      ConsentFollows form (consentAfter w pid desk t') := by
    intro t' desk same decisions subjects unasked cleared
    refine fol.pass ht same decisions subjects ?_ (by simp [ConsentTask.holds]) cleared
    intro other n asks
    cases unasked.symm.trans asks
  have idle : ∀ {other : ParticipantSessionId},
      (none : Option ParticipantSessionId) = some other → ∃ n,
        w.shared.subjects.lookup other = some n ∧ form.OnRecord w.shared.lobby.database n := by
    intro other admits
    cases admits
  cases pc with
  | call =>
    simp only [CreateSessionPc.step] at h
    split at h <;> cases h <;> exact quiet .refl rfl rfl rfl fun _ => idle
  | terminal =>
    simp only [CreateSessionPc.step] at h
    repeat' split at h
    all_goals cases h; exact quiet .refl rfl rfl rfl fun _ => idle
  | intake =>
    simp only [CreateSessionPc.step] at h
    split at h <;> cases h <;> exact quiet .refl rfl rfl rfl fun _ => idle
  | consent =>
    simp only [CreateSessionPc.step] at h
    split at h
    · cases h
      exact quiet .refl rfl rfl rfl fun _ => idle
    · rename_i checked
      cases h
      refine quiet .refl rfl rfl rfl fun other admits => ?_
      cases admits
      refine fol.consents_of_check checked fun item mem required u there => ?_
      simp only [ConsentTask.inOrder, ht] at met
      have spared := List.all_eq_true.mp met item mem
      rw [required] at spared
      have spared : ∀ u ∈ w.tasks, u.holds id item.id false = false := by simpa using spared
      exact spared u there
  | prepare =>
    simp only [CreateSessionPc.step] at h
    split at h <;> cases h
    · exact quiet .refl rfl rfl rfl fun _ => idle
    · refine quiet .refl rfl rfl rfl fun other admits => ?_
      cases admits
      exact fol.cleared pid _ ht id rfl
  | admission =>
    have admits := Lobby.admits_pairOrCreate mounted attempt w.shared.lobby id
    simp only [CreateSessionPc.step] at h
    split at h <;> rename_i lobby _ paired <;> cases h <;> rw [paired] at admits
    all_goals exact quiet admits.same rfl rfl rfl fun _ => idle
  | enroll code role =>
    cases h
    exact quiet (Lobby.SameConsent.enroll role).1 rfl rfl rfl fun _ => idle
  | returned result => cases h

theorem step (fol : ConsentFollows form w) {a : Pool.Action (ConsentTask G) ConsentInput}
    {w' : Pool (ConsentDesk G) (ConsentTask G)}
    (met : ConsentTask.inOrder form mounted w a = true)
    (h : (consentProgram form mounted).machine.step w a = some w') : ConsentFollows form w' := by
  rcases Program.step_cases h with ⟨t, rfl, entered, rfl⟩ |
    ⟨pid, input, t, desk, t', started, rfl, ht, hs, rfl⟩
  · have entered : t.entry = true := entered
    refine ⟨fol.named, fol.distinct, ?_, ?_, ?_⟩
    · refine fol.asked.append (fun _ _ h => h) fun _ id n asks => ?_
      cases t with
      | consent _ _ pc => cases pc <;> first | exact absurd entered Bool.false_ne_true | cases asks
      | _ => cases asks
    · intro id participant item known
      rcases fol.follows id participant item known with agrees | ⟨accepted, last, has⟩
      · exact .inl agrees
      · exact .inr ⟨accepted, last, has.append⟩
    · refine fol.cleared.append (fun _ _ h => h) fun _ id admits => ?_
      cases t with
      | create _ _ pc => cases pc <;> first | exact absurd entered Bool.false_ne_true | cases admits
      | _ => cases admits
  · obtain ⟨⟨desk, t'⟩, stepped, same⟩ := Option.map_eq_some_iff.mp hs
    cases same
    cases t with
    | consent id request pc =>
      obtain ⟨⟨desk, pc'⟩, moved, same⟩ := Option.map_eq_some_iff.mp stepped
      cases same
      exact fol.step_consent ht met moved
    | create id attempt pc =>
      obtain ⟨⟨desk, pc'⟩, moved, same⟩ := Option.map_eq_some_iff.mp stepped
      cases same
      exact fol.step_create ht met moved
    | register participant done =>
      cases done with
      | true => cases stepped
      | false =>
        simp only [ConsentTask.step] at stepped
        split at stepped <;> cases stepped
        rename_i mints
        simp only [ConsentTask.inOrder, ht] at met
        exact fol.registered ht mints (by simpa using met)
    | cleanup pc =>
      obtain ⟨⟨desk, pc'⟩, moved, same⟩ := Option.map_eq_some_iff.mp stepped
      cases same
      cases pc with
      | sessions =>
        cases moved
        exact fol.pass ht .refl rfl rfl (by intro _ _ asks; cases asks)
          (by simp [ConsentTask.holds]) (by intro _ admits; cases admits)
      | expired attached =>
        cases moved
        exact fol.dropped ht input.stale attached
      | unattached attached =>
        cases moved
        exact fol.dropped ht input.stale attached
      | returned => cases moved
    | reclaim code done =>
      cases done with
      | true => cases stepped
      | false =>
        cases stepped
        exact fol.pass ht ⟨rfl, rfl⟩ rfl rfl (by intro _ _ asks; cases asks)
          (by simp [ConsentTask.holds]) (by intro _ admits; cases admits)

theorem run {database : Database} (run : (consentProgram form mounted).machine.Run
    (fun w a => ConsentTask.inOrder form mounted w a = true) (ConsentDesk.started database) w) :
    ConsentFollows form w := by
  refine run.invariant ⟨?_, ?_, ?_, ?_, ?_⟩ fun fol met h => fol.step met h
  · intro id participant known
    cases known
  · intro id other n subject
    cases subject
  · intro q t ht
    cases ht
  · intro id participant item known
    cases known
  · intro q t ht
    cases ht

/-- Only the section of an admission puts its own participant into a session. -/
theorem inside_step (fol : ConsentFollows form w) {a : Pool.Action (ConsentTask G) ConsentInput}
    {w' : Pool (ConsentDesk G) (ConsentTask G)} {code : String} {member : SessionParticipant}
    (h : (consentProgram form mounted).machine.step w a = some w')
    (inside : w'.shared.lobby.Inside code id member)
    (outside : ∀ member, ¬w.shared.lobby.Inside code id member) :
    form.OnRecord w'.shared.lobby.database member.participantId := by
  rcases Program.step_cases h with ⟨t, rfl, -, rfl⟩ |
    ⟨pid, input, t, desk, t', started, rfl, ht, hs, rfl⟩
  · exact absurd inside (outside member)
  · have moved : ∀ {desk' : ConsentDesk G}, desk = desk' →
        desk'.lobby.sessions = w.shared.lobby.sessions → False := by
      intro desk' same sessions
      subst same
      obtain ⟨session, there, known⟩ := inside
      exact outside member ⟨session, sessions ▸ there, known⟩
    obtain ⟨⟨desk', t'⟩, stepped, same⟩ := Option.map_eq_some_iff.mp hs
    cases same
    cases t with
    | consent caller request pc =>
      obtain ⟨⟨desk, pc'⟩, moved', same⟩ := Option.map_eq_some_iff.mp stepped
      cases same
      refine absurd ?_ (moved rfl)
      cases pc <;> simp only [ConsentPc.step] at moved' <;> repeat' split at moved'
      all_goals cases moved' <;> rfl
    | create caller attempt pc =>
      obtain ⟨⟨desk, pc'⟩, moved', same⟩ := Option.map_eq_some_iff.mp stepped
      cases same
      cases pc with
      | admission =>
        have admits := Lobby.admits_pairOrCreate mounted attempt w.shared.lobby caller
        simp only [CreateSessionPc.step] at moved'
        split at moved' <;> rename_i lobby _ paired <;> cases moved' <;> rw [paired] at admits
        all_goals
          rcases admits.inside code id member inside with before | ⟨participant, known, rfl, number⟩
          · exact absurd before (outside member)
          · obtain ⟨n, subject, consents⟩ := fol.cleared pid _ ht caller rfl
            cases subject.symm.trans (fol.named caller participant known).2
            intro item mem required
            rw [number, admits.same.lastDeclared]
            exact consents item mem required
      | enroll place role =>
        cases moved'
        exact absurd (Lobby.SameConsent.enroll role).2 (moved rfl)
      | _ =>
        refine absurd ?_ (moved rfl)
        simp only [CreateSessionPc.step] at moved'
        repeat' split at moved'
        all_goals cases moved' <;> rfl
    | register participant done =>
      refine absurd ?_ (moved rfl)
      cases done with
      | true => cases stepped
      | false =>
        simp only [ConsentTask.step] at stepped
        split at stepped <;> cases stepped
        unfold ConsentDesk.createParticipant
        split <;> rfl
    | cleanup pc =>
      obtain ⟨⟨desk, pc'⟩, moved', same⟩ := Option.map_eq_some_iff.mp stepped
      cases same
      refine absurd ?_ (moved rfl)
      cases pc <;> cases moved' <;> rfl
    | reclaim place done =>
      cases done with
      | true => cases stepped
      | false =>
        cases stepped
        obtain ⟨session, there, known⟩ := inside
        change (w.shared.lobby.sessions.erase place).lookup code = _ at there
        rw [Map.lookup_erase_eq] at there
        split at there
        · cases there
        · exact absurd ⟨session, there, known⟩ (outside member)

end ConsentFollows

end

/--
In runs in which nobody is taken in anew with declarations of earlier on record, the store refuses
no request that would leave memory behind, memory is updated in the order of the declarations, and
no refusal comes between check and admission: whenever no request is under way, the decisions in
memory are those declared last, and nobody is admitted who has not accepted every required item.
-/
theorem consent_memory_follows_record {database : Database}
    {w : Pool (ConsentDesk G) (ConsentTask G)}
    (run : (consentProgram form mounted).machine.Run
      (fun w a => ConsentTask.inOrder form mounted w a = true) (ConsentDesk.started database) w) :
    ((∀ t ∈ w.tasks, t.isDone = true) → w.shared.MemoryFollows) ∧
    ∀ {a w' code id member}, (consentProgram form mounted).machine.step w a = some w' →
      w'.shared.lobby.Inside code id member →
      (∀ member, ¬w.shared.lobby.Inside code id member) →
      form.OnRecord w'.shared.lobby.database member.participantId := by
  have fol := ConsentFollows.run run
  refine ⟨?_, fol.inside_step⟩
  intro quiet id participant known item
  rcases fol.follows id participant item known with agrees | ⟨accepted, -, q, t, ht, holds⟩
  · exact agrees
  · have done := quiet t (List.mem_of_getElem? ht)
    cases t with
    | consent caller request pc => cases pc <;> first | cases holds | cases done
    | _ => cases holds

namespace ConsentTask

/-- Consent to the recording is required, that to a publication is not. -/
def voiceForm : ConsentForm where
  direct := { consents := [⟨"voice", "Recording", "We record you.", true⟩,
    ⟨"corpus", "Publication", "We publish it.", false⟩] }
  textHash := "sha256:0"

def voiceDatabase : Database where
  experiments := ["e"]
  participants := [⟨1, "p", "e", "human", "direct", none, .null, 0⟩]
  participantSequence := 1

abbrev VoiceAction := Pool.Action (ConsentTask tallyGame) ConsentInput

abbrev voiceMachine := (consentProgram (G := tallyGame) voiceForm Lobby.tallyMounted).machine

def voiceRun (pid steps : Nat) : List VoiceAction := List.replicate steps (.run pid {})

/-- The participant accepts the recording. -/
def accepted : List VoiceAction :=
  .spawn (.register (TallyAction.human 1) false) :: .run 0 {} ::
  .spawn (.consent (.human 1) { decisions := AList.singleton "voice" true } .call) :: voiceRun 1 5

def asked : List VoiceAction :=
  .spawn (.create (.human 1) (Lobby.tallyAttempt true) .call) :: []

/-- The recording is refused on record; the store fails on the other item. -/
def halfStored : List VoiceAction :=
  .spawn (.consent (.human 1)
    { decisions := (AList.singleton "corpus" true).insert "voice" false } .call) ::
  voiceRun 2 3 ++ [.run 2 { storeOk := false }]

end ConsentTask

open ConsentTask in
theorem consent_memory_follows_record_accepted :
    (∃ w : Pool (ConsentDesk tallyGame) (ConsentTask tallyGame),
      (∀ t ∈ w.tasks, t.isDone = true) ∧ w.shared.decision (.human 1) "voice" = some true ∧
      w.shared.MemoryFollows) ∧
    ∃ (w : Pool (ConsentDesk tallyGame) (ConsentTask tallyGame)) (member : SessionParticipant),
      w.shared.lobby.Inside "r" (.human 1) member ∧
      voiceForm.OnRecord w.shared.lobby.database member.participantId := by
  constructor
  · have h : ((voiceMachine.restrict (inOrder voiceForm Lobby.tallyMounted)).exec (ConsentDesk.started voiceDatabase) accepted).map
        (fun w => (w.tasks.all isDone, w.shared.decision (.human 1) "voice")) =
          some (true, some true) := rfl
    obtain ⟨w, ran, observed⟩ := Option.map_eq_some_iff.mp h
    obtain ⟨quiet, decided⟩ := Prod.mk.inj observed
    have quiet := List.all_eq_true.mp quiet
    exact ⟨w, quiet, decided, (consent_memory_follows_record
      (Machine.Run.of_exec (fun _ _ met => met) ran)).1 quiet⟩
  · have h : ((voiceMachine.restrict (inOrder voiceForm Lobby.tallyMounted)).exec (ConsentDesk.started voiceDatabase)
        (accepted ++ asked ++ voiceRun 2 5)).bind (fun w => (voiceMachine.step w (.run 2 {})).map
          fun w' => ((w.shared.lobby.sessions.lookup "r").isNone,
            ((w'.shared.lobby.sessions.lookup "r").bind fun session =>
              session.participants.lookup (.human 1)).isSome)) = some (true, true) := rfl
    obtain ⟨w, ran, h⟩ := Option.bind_eq_some_iff.mp h
    obtain ⟨w', stepped, observed⟩ := Option.map_eq_some_iff.mp h
    obtain ⟨missing, inside⟩ := Prod.mk.inj observed
    obtain ⟨member, inside⟩ := Option.isSome_iff_exists.mp inside
    obtain ⟨session, there, known⟩ := Option.bind_eq_some_iff.mp inside
    refine ⟨w', member, ⟨session, there, known⟩, (consent_memory_follows_record
      (Machine.Run.of_exec (fun _ _ met => met) ran)).2 stepped ⟨session, there, known⟩ ?_⟩
    intro other ⟨before, there', _⟩
    rw [there'] at missing
    cases missing

open ConsentTask in
/-- The refusal is on record, memory has the consent, and the participant is admitted. -/
theorem consent_memory_left_behind :
    ∃ w w' : Pool (ConsentDesk tallyGame) (ConsentTask tallyGame),
      voiceMachine.Run Machine.unguarded
        (ConsentDesk.started voiceDatabase) w ∧
      (∀ t ∈ w.tasks, t.isDone = true) ∧ ¬w.shared.MemoryFollows ∧
      voiceMachine.Run Machine.unguarded w w' ∧
      (∀ member, ¬w.shared.lobby.Inside "r" (.human 1) member) ∧
      ∃ member, w'.shared.lobby.Inside "r" (.human 1) member ∧
        ¬voiceForm.OnRecord w'.shared.lobby.database member.participantId := by
  have h : (voiceMachine.exec (ConsentDesk.started voiceDatabase) (accepted ++ halfStored)).bind
      (fun w => (voiceMachine.exec w (asked ++ voiceRun 3 6)).map fun w' =>
        (w.tasks.all isDone, w.shared.decision (.human 1) "voice",
          w.shared.lobby.participants.lookup (.human 1),
          w.shared.lobby.database.lastDeclared 1 "voice",
          (w.shared.lobby.sessions.lookup "r").isNone,
          w'.shared.lobby.database.lastDeclared 1 "voice",
          ((w'.shared.lobby.sessions.lookup "r").bind fun session =>
            session.participants.lookup (.human 1)).map SessionParticipant.participantId)) =
      some (true, some true, some (TallyAction.human 1), some false, true, some false,
        some 1) := rfl
  obtain ⟨w, ran, h⟩ := Option.bind_eq_some_iff.mp h
  obtain ⟨w', ran', observed⟩ := Option.map_eq_some_iff.mp h
  simp only [Prod.mk.injEq] at observed
  obtain ⟨quiet, decided, known, refused, missing, refused', inside⟩ := observed
  obtain ⟨member, inside, number⟩ := Option.map_eq_some_iff.mp inside
  obtain ⟨session, there, joined⟩ := Option.bind_eq_some_iff.mp inside
  refine ⟨w, w', .of_exec_unguarded ran, List.all_eq_true.mp quiet, ?_, .of_exec_unguarded ran', ?_,
    member, ⟨session, there, joined⟩, ?_⟩
  · intro follows
    have := follows _ _ known "voice"
    rw [decided] at this
    cases this.trans refused
  · intro other ⟨before, there', _⟩
    rw [there'] at missing
    cases missing
  · intro record
    have := record ⟨"voice", "Recording", "We record you.", true⟩ (.head _) rfl
    rw [number] at this
    cases this.symm.trans refused'

end Parlando
