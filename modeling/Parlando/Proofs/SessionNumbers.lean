import Parlando.Proofs.Database

namespace Parlando

open Concurrency

/-- A live session, cached after its end or not, or its logger: what it writes is under its number. -/
structure Holder where
  key : SessionKey
  publicSessionId : String
  deriving DecidableEq

/-- The store and everything in the process that still holds a session number. -/
structure Host where
  database : Database
  holders : List Holder := []

inductive HostAction where
  | createSession (session : SessionRecord) (dialogueIds : List String) (now : Timestamp)
  /-- A transaction of a live session or of its log writer. -/
  | write (holder : Holder) (operation : Operation)
  /-- A transaction on no particular session, a deletion of a participant's data among them. -/
  | other (operation : Operation)
  /-- The process lets go of a session and of its logger. -/
  | drop (holder : Holder)

namespace Host

def createSession (s : Host) (session : SessionRecord) (dialogueIds : List String)
    (now : Timestamp) : Host :=
  match (Operation.createSession session dialogueIds now).apply s.database with
  | .ok (db, .created key) => ⟨db, ⟨key, session.publicSessionId⟩ :: s.holders⟩
  | _ => s

end Host

def host : Machine Host HostAction where
  step s
    | .createSession session dialogueIds now => some (s.createSession session dialogueIds now)
    | .write holder operation =>
      if holder ∈ s.holders ∧ operation.target? = some holder.key then
        some { s with database := operation.after s.database }
      else none
    | .other operation =>
      if operation.target? = none ∧ operation.isCreation = false then
        some { s with database := operation.after s.database }
      else none
    | .drop holder => some { s with holders := s.holders.erase holder }

/-- No holder has the number that follows the largest one stored for the experiment. -/
def NumberUnheld (s : Host) (action : HostAction) : Prop :=
  ∀ session dialogueIds now, action = .createSession session dialogueIds now →
    ∀ holder ∈ s.holders,
      holder.key ≠ ⟨session.experimentId, s.database.nextSessionId session.experimentId⟩

/--
What a holder writes is stored under the row that was created for its session, and nowhere once
that row is deleted.
-/
def StoresOwn (db : Database) (holder : Holder) : Prop :=
  ∀ operation : Operation, operation.target? = some holder.key →
    (∀ entry ∈ (operation.after db).sessions,
      entry.publicSessionId ≠ holder.publicSessionId → entry ∈ db.sessions) ∧
    ((∀ entry ∈ db.sessions, entry.publicSessionId ≠ holder.publicSessionId) →
      operation.after db = db)

namespace Host

variable {s s' : Host} {action : HostAction}

/-- Every row under a held number is the holder's own. -/
structure Sound (s : Host) : Prop where
  unique : Table.Unique SessionEntry.key s.database.sessions
  own : ∀ holder ∈ s.holders, ∀ entry ∈ s.database.sessions, entry.key = holder.key →
    entry.publicSessionId = holder.publicSessionId

theorem Sound.storesOwn (sound : s.Sound) {holder : Holder} (held : holder ∈ s.holders) :
    StoresOwn s.database holder := by
  intro operation target
  rw [Operation.after]
  cases applied : operation.apply s.database with
  | error message => exact ⟨fun entry mem _ => mem, fun _ => rfl⟩
  | ok result =>
    rcases Operation.apply_target sound.unique target applied with
      ⟨entry, found, stored, -⟩ | ⟨-, same, -⟩
    · obtain ⟨mem, here⟩ := Table.find?_mem found
      have own := sound.own holder held entry mem here
      refine ⟨fun entry' mem' other => ?_, fun deleted => absurd own (deleted entry mem)⟩
      simp only [stored] at mem'
      obtain ⟨old, oldMem, rfl⟩ := Database.mem_setStore mem'
      have differ : old.key ≠ holder.key := fun same =>
        other (sound.own holder held old oldMem same)
      rw [if_neg differ]
      exact oldMem
    · simp only [same]
      exact ⟨fun entry mem _ => mem, fun _ => trivial⟩

theorem Sound.write (sound : s.Sound) {holder : Holder} {operation : Operation}
    (target : operation.target? = some holder.key) :
    Sound { s with database := operation.after s.database } := by
  rw [Operation.after]
  cases applied : operation.apply s.database with
  | error message => exact sound
  | ok result =>
    rcases Operation.apply_target sound.unique target applied with
      ⟨entry, -, stored, -⟩ | ⟨-, same, -⟩
    · refine ⟨?_, fun other held entry' mem' => ?_⟩
      · simp only [stored]
        exact Database.unique_setStore sound.unique _
      · simp only [stored] at mem'
        obtain ⟨old, oldMem, rfl⟩ := Database.mem_setStore mem'
        exact sound.own other held old oldMem
    · simp only [same]
      exact sound

theorem Sound.other (sound : s.Sound) {operation : Operation} (target : operation.target? = none)
    (noCreation : operation.isCreation = false) :
    Sound { s with database := operation.after s.database } := by
  rw [Operation.after]
  cases applied : operation.apply s.database with
  | error message => exact sound
  | ok result =>
    obtain ⟨db', answer⟩ := result
    cases (Operation.apply_untargeted target applied).1 with
    | removed fewer =>
      exact ⟨sound.unique.of_sublist fewer, fun holder held entry mem =>
        sound.own holder held entry (fewer.subset mem)⟩
    | reconnected id status leftAt reconnectDeadlineAt rows =>
      refine ⟨?_, fun holder held entry mem => ?_⟩
      · simp only [Table.Unique, rows, List.map_map]
        exact sound.unique
      · simp only [rows] at mem
        obtain ⟨old, oldMem, rfl⟩ := List.mem_map.mp mem
        exact sound.own holder held old oldMem
    | created session sessionId dialogueId purpose now fresh unused dialogue rows key =>
      subst key
      rw [Operation.isCreation_of_created applied] at noCreation
      cases noCreation

theorem Sound.createSession (sound : s.Sound) {session : SessionRecord}
    {dialogueIds : List String} {now : Timestamp}
    (unheld : ∀ holder ∈ s.holders,
      holder.key ≠ ⟨session.experimentId, s.database.nextSessionId session.experimentId⟩) :
    (s.createSession session dialogueIds now).Sound := by
  unfold Host.createSession
  split
  · rename_i db key applied
    obtain ⟨⟨inserted, sessionId⟩, insert, answered⟩ := Except.of_bind_ok applied
    cases answered
    obtain ⟨dialogueId, purpose, rfl, -, -, rfl⟩ := Operation.createSession_ok insert
    refine ⟨sound.unique.append (s.database.nextSessionId_fresh _), ?_⟩
    intro holder held entry mem same
    rcases List.mem_cons.mp held with rfl | held
    · rcases List.mem_append.mp mem with old | new
      · exact absurd same (s.database.nextSessionId_fresh _ entry old)
      · cases List.mem_singleton.mp new
        rfl
    · rcases List.mem_append.mp mem with old | new
      · exact sound.own holder held entry old same
      · cases List.mem_singleton.mp new
        exact absurd same.symm (unheld holder held)
  · exact sound

theorem Sound.step (sound : s.Sound) (met : NumberUnheld s action)
    (h : host.step s action = some s') : s'.Sound := by
  cases action with
  | createSession session dialogueIds now =>
    cases h
    exact sound.createSession (met session dialogueIds now rfl)
  | write holder operation =>
    obtain ⟨⟨-, target⟩, stepped⟩ := Option.ite_none_right_eq_some.mp h
    cases stepped
    exact sound.write target
  | other operation =>
    obtain ⟨⟨target, noCreation⟩, stepped⟩ := Option.ite_none_right_eq_some.mp h
    cases stepped
    exact sound.other target noCreation
  | drop holder =>
    cases h
    exact ⟨sound.unique, fun other held => sound.own other (List.mem_of_mem_erase held)⟩

end Host

/--
In a process that starts without sessions of its own: as long as no session is created under a
number something in the process still holds, whatever a holder writes goes under its own row.
-/
theorem events_stay_with_their_session {db : Database} {s : Host}
    (unique : Table.Unique SessionEntry.key db.sessions) (run : host.Run NumberUnheld ⟨db, []⟩ s)
    {holder : Holder} (held : holder ∈ s.holders) : StoresOwn s.database holder := by
  have sound : s.Sound := run.invariant ⟨unique, fun _ held => absurd held List.not_mem_nil⟩
    fun sound met step => sound.step met step
  exact sound.storesOwn held

/-- Whether the action creates no session under a number that is still held. -/
def unheld (s : Host) : HostAction → Bool
  | .createSession session _ _ => s.holders.all fun holder =>
      holder.key ≠ ⟨session.experimentId, s.database.nextSessionId session.experimentId⟩
  | _ => true

theorem numberUnheld_of_unheld (s : Host) (action : HostAction) (met : unheld s action = true) :
    NumberUnheld s action := by
  rintro session dialogueIds now rfl holder held
  simpa using List.all_eq_true.mp met holder held

def sessionOf (publicSessionId : String) : SessionRecord where
  experimentId := "exp"
  publicSessionId
  mode := "human_vs_human"
  lifecycle := .forming
  purpose := "research"
  waitingTimeoutSeconds := 600
  maximumLifetimeSeconds := 3600
  configRevision := 1
  gameVersion := "1"

def left : SessionEventRecord := ⟨"participant_left", none, none, .null, none⟩

def deletedSession : List HostAction :=
  let holder : Holder := ⟨⟨"exp", 1⟩, "s_1"⟩
  [.other (.upsertParticipant ⟨"exp", "human", "direct", none, .null⟩ ["calm-otter"] 0),
    .createSession (sessionOf "s_1") ["blue-fox"] 0,
    .write holder (.addSessionParticipant ⟨"exp", 1⟩ {
      participantId := 1
      participantSessionId := .human 0
      source := .direct
      role := .A
      joinedAt := 0
      connectionStatus := "disconnected" }),
    .write holder (.endSession ⟨"exp", 1⟩ left ⟨.technicalFailure, none, {}⟩ 0),
    .other (.deleteParticipantData "exp" 1)]

theorem events_stay_after_drop :
    ∃ s, (host.restrict unheld).exec ⟨{ experiments := ["exp"] }, []⟩
        (deletedSession ++ [.drop ⟨⟨"exp", 1⟩, "s_1"⟩,
          .createSession (sessionOf "s_2") ["red-owl"] 0]) = some s ∧
      StoresOwn s.database ⟨⟨"exp", 1⟩, "s_2"⟩ := by
  have reached : (host.restrict unheld).exec ⟨{ experiments := ["exp"] }, []⟩
      (deletedSession ++ [.drop ⟨⟨"exp", 1⟩, "s_1"⟩,
        .createSession (sessionOf "s_2") ["red-owl"] 0]) = some _ := rfl
  have unique : Table.Unique SessionEntry.key ({ experiments := ["exp"] } : Database).sessions :=
    List.nodup_nil
  exact ⟨_, reached, events_stay_with_their_session unique
    (.of_exec numberUnheld_of_unheld reached) (by decide +kernel)⟩

/-- A cached session whose number was freed and taken again writes into the new session. -/
theorem freed_number_taken_again :
    ∃ s, host.Run Machine.unguarded ⟨{ experiments := ["exp"] }, []⟩ s ∧
      ∃ holder ∈ s.holders, ¬StoresOwn s.database holder := by
  have reached : host.exec ⟨{ experiments := ["exp"] }, []⟩
      (deletedSession ++ [.createSession (sessionOf "s_2") ["red-owl"] 0]) = some _ := rfl
  refine ⟨_, .of_exec_unguarded reached, ⟨⟨"exp", 1⟩, "s_1"⟩, by decide +kernel, fun own => ?_⟩
  have stored := (own (.appendSessionEvent ⟨"exp", 1⟩ left 0) rfl).2 (by decide +kernel)
  have events := congrArg
    (fun db : Database => (db.sessions.map fun entry => entry.store.events.length).sum) stored
  revert events
  decide +kernel

end Parlando
