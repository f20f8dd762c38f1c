import Parlando.Proofs.Database

namespace Parlando

open Concurrency

/-- What an observer notes about one session since its row was created. -/
structure SessionHistory where
  /-- When the events in the table occurred, in insertion order. -/
  occurrences : List Timestamp := []
  starts : Nat := 0

namespace Operation

def occurrences : Operation → List Timestamp
  | failSessionInitialization _ _ now => [now]
  | appendSessionEvent _ _ now => [now]
  | commitSessionTransition events _ now => List.replicate events.length now
  | endSession _ _ _ now => [now]
  | _ => []

def starts : Operation → Nat
  | startSession _ _ _ => 1
  | _ => 0

def extend (operation : Operation) (history : SessionHistory) : SessionHistory where
  occurrences := history.occurrences ++ operation.occurrences
  starts := history.starts + operation.starts

theorem extend_silent {operation : Operation} (history : SessionHistory)
    (silent : operation.occurrences = []) (noStart : operation.starts = 0) :
    operation.extend history = history := by
  rw [extend, silent, noStart, List.append_nil, Nat.add_zero]

def note (operation : Operation) (answer : Answer) (histories : SessionKey → SessionHistory) :
    SessionKey → SessionHistory :=
  match answer, operation.target? with
  | .created key, _ => Function.update histories key {}
  | .done, some key => Function.update histories key (operation.extend (histories key))
  | _, _ => histories

/--
The transaction fails, answers that it did nothing, or is called to fail an initialization that is
over, for which `fail_session_initialization` has no answer of its own.
-/
def Refused (db : Database) (operation : Operation) : Prop :=
  (∃ message, operation.apply db = .error message) ∨
  (∃ db', operation.apply db = .ok (db', .refused)) ∨
  ∃ key reasonCode now entry, operation = .failSessionInitialization key reasonCode now ∧
    db.session? key = some entry ∧ entry.store.row.lifecycle ≠ .forming

/-- A `fail_session_initialization` finds its row still forming. -/
def FailsForming (db : Database) (operation : Operation) : Prop :=
  ∀ key reasonCode now, operation = .failSessionInitialization key reasonCode now →
    ∀ entry, db.session? key = some entry → entry.store.row.lifecycle = .forming

end Operation

/-- The store under observation. -/
structure Observed where
  database : Database
  histories : SessionKey → SessionHistory

def observedStore : Machine Observed Operation where
  step s operation := some (match operation.apply s.database with
    | .ok (db, answer) => ⟨db, operation.note answer s.histories⟩
    | .error _ => s)

/-- One session's events stand on one clock. -/
structure OneClock (store : SessionStore) (history : SessionHistory) : Prop where
  indices : store.events.map SessionEvent.eventIndex =
    (List.range store.events.length).map fun i : Nat => (i : Int) + 1
  times : ∀ startedAt, store.row.startedAt = some startedAt →
    store.events.map SessionEvent.gameTimeMs =
      history.occurrences.map fun occurred => occurred.millis - startedAt.millis
  rebasedOnce : history.starts ≤ 1

/-- The invariant: before the start the clock is absolute, and only a forming row can start. -/
structure Clocked (store : SessionStore) (history : SessionHistory) : Prop where
  indices : store.events.map SessionEvent.eventIndex =
    (List.range store.events.length).map fun i : Nat => (i : Int) + 1
  times : store.events.map SessionEvent.gameTimeMs =
    history.occurrences.map store.storedGameTimeMs
  forming : store.row.lifecycle = .forming → store.row.startedAt = none ∧ history.starts = 0
  rebasedOnce : history.starts ≤ 1

namespace Clocked

variable {store store' : SessionStore} {history : SessionHistory}

theorem oneClock (clocked : Clocked store history) : OneClock store history where
  indices := clocked.indices
  times startedAt started := by
    rw [clocked.times]
    refine List.map_congr_left fun occurred _ => ?_
    rw [SessionStore.storedGameTimeMs, started]
  rebasedOnce := clocked.rebasedOnce

theorem foldl_max_range (n : Nat) :
    ((List.range n).map fun i : Nat => (i : Int) + 1).foldl max 0 = n := by
  induction n with
  | zero => rfl
  | succ n ih =>
    rw [List.range_succ, List.map_append, List.foldl_append, ih]
    simp only [List.map_cons, List.map_nil, List.foldl_cons, List.foldl_nil]
    omega

theorem maxEventIndex (clocked : Clocked store history) :
    store.maxEventIndex = store.events.length := by
  rw [← foldl_max_range store.events.length, ← clocked.indices, List.foldl_map]
  rfl

/-- An event under the next index and at its time on the session's clock. -/
theorem insertEvent (clocked : Clocked store history) (record : SessionEventRecord)
    (occurred : Timestamp) :
    Clocked (store.insertEvent record (store.storedGameTimeMs occurred))
      { history with occurrences := history.occurrences ++ [occurred] } where
  indices := by
    simp only [SessionStore.insertEvent, List.map_append, clocked.indices, List.length_append,
      List.map_cons, List.map_nil, List.length_singleton, List.range_succ, clocked.maxEventIndex]
  times := by
    simp only [SessionStore.insertEvent, List.map_append, clocked.times, List.map_cons,
      List.map_nil]
    rfl
  forming := clocked.forming
  rebasedOnce := clocked.rebasedOnce

/-- Events that occurred together, one after the other. -/
theorem insertEvents (clocked : Clocked store history) (records : List SessionEventRecord)
    (occurred : Timestamp) :
    Clocked (store.insertEvents records (store.storedGameTimeMs occurred))
      { history with
        occurrences := history.occurrences ++ List.replicate records.length occurred } := by
  induction records generalizing store history with
  | nil => simpa [SessionStore.insertEvents] using clocked
  | cons record records ih =>
    have rest := ih (clocked.insertEvent record occurred)
    rw [List.append_assoc] at rest
    exact rest

/-- Only the row changes, and it keeps its start. -/
theorem sameEvents (clocked : Clocked store history) (events : store'.events = store.events)
    (startedAt : store'.row.startedAt = store.row.startedAt)
    (forming : store'.row.lifecycle = .forming → store.row.lifecycle = .forming) :
    Clocked store' history where
  indices := by rw [events, clocked.indices]
  times := by
    rw [events, clocked.times]
    refine List.map_congr_left fun occurred _ => ?_
    rw [SessionStore.storedGameTimeMs, SessionStore.storedGameTimeMs, startedAt]
  forming := fun again => startedAt ▸ clocked.forming (forming again)
  rebasedOnce := clocked.rebasedOnce

theorem persistTerminalValue (clocked : Clocked store history) (sessionEnd : SessionEnd)
    (endedAt : Timestamp) : Clocked (store.persistTerminalValue sessionEnd endedAt) history := by
  refine clocked.sameEvents rfl ?_ ?_
  · simp only [SessionStore.persistTerminalValue]
    split <;> rfl
  · simp only [SessionStore.persistTerminalValue]
    split
    · exact id
    · intro forming
      cases forming

/-- The start rebases the events of the waiting session to the game clock. -/
theorem startSession (clocked : Clocked store history) (startedAt idleDeadlineAt : Timestamp)
    (forming : store.row.lifecycle = .forming) (ready : store.row.initializationComplete = true) :
    Clocked (store.startSession startedAt idleDeadlineAt).1
      { history with starts := history.starts + 1 } := by
  obtain ⟨absolute, first⟩ := clocked.forming forming
  rw [SessionStore.startSession, if_pos ⟨forming, ready⟩]
  constructor
  · simpa [Function.comp_def] using clocked.indices
  · have times : store.events.map SessionEvent.gameTimeMs =
        history.occurrences.map Timestamp.millis := by
      rw [clocked.times]
      refine List.map_congr_left fun occurred _ => ?_
      rw [SessionStore.storedGameTimeMs, absolute]
    calc (store.events.map fun event =>
          { event with gameTimeMs := event.gameTimeMs - startedAt.millis }).map
            SessionEvent.gameTimeMs
        = (store.events.map SessionEvent.gameTimeMs).map (· - startedAt.millis) := by
          simp [Function.comp_def]
      _ = history.occurrences.map fun occurred => occurred.millis - startedAt.millis := by
          rw [times, List.map_map]
          rfl
  · intro again
    cases again
  · simp [first]

/-- A failed initialization of a forming row inserts its event at the absolute time, as all others. -/
theorem failSessionInitialization (clocked : Clocked store history) (reasonCode : String)
    (occurred : Timestamp) (forming : store.row.lifecycle = .forming) :
    Clocked (store.failSessionInitialization reasonCode occurred)
      { history with occurrences := history.occurrences ++ [occurred] } := by
  have absolute : occurred.millis = store.storedGameTimeMs occurred := by
    rw [SessionStore.storedGameTimeMs, (clocked.forming forming).1]
  rw [SessionStore.failSessionInitialization, if_pos forming, absolute]
  exact (clocked.insertEvent _ occurred).sameEvents rfl rfl nofun

theorem commitSessionTransition (clocked : Clocked store history)
    {records : List SessionEventRecord} (sessionEnd : Option SessionEnd) (occurred : Timestamp)
    (some' : records ≠ []) (isOpen : store.ended = false) :
    Clocked (store.commitSessionTransition records sessionEnd occurred).1
      { history with
        occurrences := history.occurrences ++ List.replicate records.length occurred } := by
  have inserted := clocked.insertEvents records occurred
  rw [SessionStore.commitSessionTransition_open some' isOpen]
  cases sessionEnd with
  | none => exact inserted
  | some sessionEnd => exact inserted.persistTerminalValue sessionEnd occurred

theorem endSession (clocked : Clocked store history) (record : SessionEventRecord)
    (sessionEnd : SessionEnd) (occurred : Timestamp) (isOpen : store.ended = false) :
    Clocked (store.endSession record sessionEnd occurred).1
      { history with occurrences := history.occurrences ++ [occurred] } := by
  rw [SessionStore.endSession, if_neg (by simp [isOpen])]
  exact (clocked.insertEvent record occurred).persistTerminalValue sessionEnd occurred

/-- A new row has no events; created as running, its clock starts at once. -/
theorem newSession (session : SessionRecord) (sessionId : Int) (dialogueId : String)
    (purpose : Purpose) (now : Timestamp) :
    Clocked (Database.newSession session sessionId dialogueId purpose now).store {} where
  indices := rfl
  times := rfl
  forming forming := by
    have other : session.lifecycle ≠ .running := by
      rw [show session.lifecycle = .forming from forming]
      exact nofun
    exact ⟨if_neg other, rfl⟩
  rebasedOnce := Nat.zero_le 1

/-- What a transaction on a session does keeps its clock, and what it refuses to do is not done. -/
theorem onStore {operation : Operation} (clocked : Clocked store history)
    (fails : ∀ key reasonCode now, operation = .failSessionInitialization key reasonCode now →
      store.row.lifecycle = .forming) :
    ((operation.onStore store).2 = true ∧
      Clocked (operation.onStore store).1 (operation.extend history)) ∨
    operation.onStore store = (store, false) := by
  cases operation
  case completeSessionInitialization key =>
    rw [Operation.extend_silent history rfl rfl]
    simp only [Operation.onStore, SessionStore.completeSessionInitialization]
    split
    · exact .inl ⟨rfl, clocked.sameEvents rfl rfl id⟩
    · exact .inr rfl
  case failSessionInitialization key reasonCode now =>
    exact .inl ⟨rfl, clocked.failSessionInitialization reasonCode now (fails _ _ _ rfl)⟩
  case startSession key startedAt idleDeadlineAt =>
    by_cases ready : store.row.lifecycle = .forming ∧ store.row.initializationComplete = true
    · refine .inl ⟨?_, ?_⟩
      · rw [Operation.onStore, SessionStore.startSession, if_pos ready]
      · simp only [Operation.extend, Operation.occurrences, List.append_nil]
        exact clocked.startSession startedAt idleDeadlineAt ready.1 ready.2
    · rw [Operation.onStore, SessionStore.startSession, if_neg ready]
      exact .inr rfl
  case touchSessionActivity key activityAt idleDeadlineAt =>
    rw [Operation.extend_silent history rfl rfl]
    refine .inl ⟨rfl, ?_⟩
    simp only [Operation.onStore, SessionStore.touchSessionActivity]
    split
    · exact clocked.sameEvents rfl rfl id
    · exact clocked
  case addSessionParticipant key member =>
    rw [Operation.extend_silent history rfl rfl]
    refine .inl ⟨rfl, ?_⟩
    simp only [Operation.onStore, SessionStore.addSessionParticipant]
    split <;> exact clocked.sameEvents rfl rfl id
  case appendSessionEvent key record now => exact .inl ⟨rfl, clocked.insertEvent record now⟩
  case commitSessionTransition events sessionEnd now =>
    cases events with
    | nil => exact .inr rfl
    | cons first events =>
      cases isOpen : store.ended with
      | true => exact .inr (store.commitSessionTransition_ended _ _ now isOpen)
      | false =>
        refine .inl ⟨?_, ?_⟩
        · rw [Operation.onStore, SessionStore.commitSessionTransition_open (by simp) isOpen]
        · have moved : Clocked
              (store.commitSessionTransition ((first :: events).map Prod.snd) sessionEnd now).1 _ :=
            clocked.commitSessionTransition sessionEnd now (by simp) isOpen
          rw [List.length_map] at moved
          exact moved
  case endSession key record sessionEnd now =>
    cases isOpen : store.ended with
    | true => exact .inr (SessionStore.endSession_ended isOpen)
    | false => exact .inl ⟨(SessionStore.endSession_open isOpen).1,
        clocked.endSession record sessionEnd now isOpen⟩
  all_goals
    rw [Operation.extend_silent history rfl rfl]
    exact .inl ⟨rfl, clocked⟩

end Clocked

namespace Observed

variable {s : Observed} {operation : Operation} {db' : Database} {answer : Answer}

/-- Every session in the table has its notes right. -/
structure Sound (s : Observed) : Prop where
  unique : Table.Unique SessionEntry.key s.database.sessions
  clocked : ∀ entry ∈ s.database.sessions, Clocked entry.store (s.histories entry.key)

theorem note_untargeted {histories : SessionKey → SessionHistory}
    (target : operation.target? = none) (other : ∀ key, answer ≠ .created key) :
    operation.note answer histories = histories := by
  unfold Operation.note
  rw [target]
  cases answer with
  | created key => exact absurd rfl (other key)
  | _ => rfl

theorem note_done {histories : SessionKey → SessionHistory} {key : SessionKey}
    (target : operation.target? = some key) :
    operation.note (Operation.accepted true) histories key = operation.extend (histories key) := by
  simp only [Operation.note, Operation.accepted, target]
  exact Function.update_self _ _ _

theorem note_refused {histories : SessionKey → SessionHistory} :
    operation.note (Operation.accepted false) histories = histories := rfl

theorem note_other {histories : SessionKey → SessionHistory} {key key' : SessionKey}
    (target : operation.target? = some key) (other : ∀ key, answer ≠ .created key)
    (differ : key' ≠ key) : operation.note answer histories key' = histories key' := by
  unfold Operation.note
  rw [target]
  cases answer with
  | created key => exact absurd rfl (other key)
  | done => exact Function.update_of_ne differ _ _
  | refused => rfl

theorem Sound.untargeted (sound : s.Sound) (target : operation.target? = none)
    (h : operation.apply s.database = .ok (db', answer)) :
    Sound ⟨db', operation.note answer s.histories⟩ := by
  cases (Operation.apply_untargeted target h).1 with
  | removed fewer other =>
    rw [note_untargeted target other]
    exact ⟨sound.unique.of_sublist fewer, fun entry mem =>
      sound.clocked entry (fewer.subset mem)⟩
  | reconnected id status leftAt reconnectDeadlineAt rows other =>
    rw [note_untargeted target other]
    constructor
    · rw [Table.Unique, rows, List.map_map]
      exact sound.unique
    · rw [rows]
      intro entry mem
      obtain ⟨old, oldMem, rfl⟩ := List.mem_map.mp mem
      exact (sound.clocked old oldMem).sameEvents rfl rfl fun forming => forming
  | created session sessionId dialogueId purpose now fresh unused dialogue rows key =>
    subst key
    constructor
    · rw [rows]
      exact sound.unique.append fresh
    · rw [rows]
      intro entry mem
      simp only [Operation.note]
      rcases List.mem_append.mp mem with old | new
      · rw [Function.update_of_ne (fresh entry old)]
        exact sound.clocked entry old
      · cases List.mem_singleton.mp new
        rw [show (Database.newSession session sessionId dialogueId purpose now).key =
          ⟨session.experimentId, sessionId⟩ from rfl, Function.update_self]
        exact .newSession session sessionId dialogueId purpose now

theorem Sound.targeted {key : SessionKey} (sound : s.Sound)
    (target : operation.target? = some key) (met : operation.FailsForming s.database)
    (h : operation.apply s.database = .ok (db', answer)) :
    Sound ⟨db', operation.note answer s.histories⟩ := by
  rcases Operation.apply_target sound.unique target h with
    ⟨entry, found, rfl, rfl⟩ | ⟨missing, rfl, other⟩
  · obtain ⟨mem, here⟩ := Table.find?_mem found
    refine ⟨Database.unique_setStore sound.unique _, fun entry' mem' => ?_⟩
    obtain ⟨old, oldMem, rfl⟩ := Database.mem_setStore mem'
    change Clocked _ (operation.note _ s.histories old.key)
    by_cases same : old.key = key
    · have own := sound.unique.eq oldMem mem (same.trans here.symm)
      subst own
      rw [if_pos same]
      rcases (sound.clocked old oldMem).onStore fun k reasonCode now is =>
          met k reasonCode now is old ((Option.some.inj (is ▸ target)).symm ▸ found) with
        ⟨done, clocked⟩ | refused
      · rw [done, same, note_done target]
        exact same ▸ clocked
      · rw [refused, note_refused]
        exact sound.clocked old oldMem
    · rw [note_other target (Operation.accepted_other _) same, if_neg same]
      exact sound.clocked old oldMem
  · refine ⟨sound.unique, fun entry mem => ?_⟩
    change Clocked _ (operation.note _ s.histories entry.key)
    rw [note_other target other (Table.find?_none missing entry mem)]
    exact sound.clocked entry mem

theorem Sound.step {s' : Observed} (sound : s.Sound) (met : operation.FailsForming s.database)
    (h : observedStore.step s operation = some s') : s'.Sound := by
  cases Option.some.inj h
  cases applied : operation.apply s.database with
  | error message => exact sound
  | ok result =>
    cases target : operation.target? with
    | none => exact sound.untargeted target applied
    | some key => exact sound.targeted target met applied

theorem Sound.run {db : Database} (empty : db.sessions = [])
    (run : observedStore.Run (fun s operation => operation.FailsForming s.database)
      ⟨db, fun _ => {}⟩ s) : s.Sound := by
  refine run.invariant ⟨?_, ?_⟩ fun sound met step => sound.step met step
  · rw [Table.Unique, empty]
    exact List.nodup_nil
  · rw [empty]
    exact fun entry mem => absurd mem List.not_mem_nil

/-- A refusal that is answered as one leaves every row alone. -/
theorem Sound.apply_refused (sound : s.Sound) (met : operation.FailsForming s.database)
    (h : operation.apply s.database = .ok (db', .refused)) : db' = s.database := by
  cases target : operation.target? with
  | some key =>
    rcases Operation.apply_target sound.unique target h with
      ⟨entry, found, rfl, refused⟩ | ⟨-, same, -⟩
    · rcases (sound.clocked entry (Table.find?_mem found).1).onStore fun k reasonCode now is =>
          met k reasonCode now is entry ((Option.some.inj (is ▸ target)).symm ▸ found) with
        ⟨done, -⟩ | unchanged
      · rw [done] at refused
        cases refused
      · rw [unchanged]
        exact Database.setStore_self sound.unique found
    · exact same
  | none =>
    cases operation <;> simp only [Operation.target?, reduceCtorEq] at target
    case commitSessionTransition events sessionEnd now =>
      cases events with
      | nil =>
        cases h
        rfl
      | cons first events => cases target
    case updateSessionParticipantConnection => cases h
    all_goals
      obtain ⟨result, -, h⟩ := Except.of_bind_ok h
      cases h

theorem Sound.refused (sound : s.Sound) (met : operation.FailsForming s.database)
    (refused : operation.Refused s.database) : operation.after s.database = s.database := by
  rw [Operation.after]
  rcases refused with ⟨message, h⟩ | ⟨db', h⟩ | ⟨key, reasonCode, now, entry, is, found, settled⟩
  · rw [h]
  · rw [h]
    exact sound.apply_refused met h
  · exact absurd (met key reasonCode now is entry found) settled

/-- Failing an initialization that is over adds an event to the session. -/
theorem Sound.fails_over {key : SessionKey} {reasonCode : String} {now : Timestamp}
    {entry : SessionEntry} (sound : s.Sound) (found : s.database.session? key = some entry) :
    (Operation.failSessionInitialization key reasonCode now).after s.database ≠ s.database := by
  have written : (Operation.failSessionInitialization key reasonCode now).after s.database =
      s.database.setStore key (entry.store.failSessionInitialization reasonCode now) := by
    simp only [Operation.after, Operation.apply, Database.failSessionInitialization, found]
    rfl
  intro same
  have again := Database.session?_setStore sound.unique found
    (entry.store.failSessionInitialization reasonCode now)
  rw [← written, same, found] at again
  have more := congrArg (fun e : SessionEntry => e.store.events.length) (Option.some.inj again)
  simp only [SessionStore.failSessionInitialization] at more
  split at more <;> simp [SessionStore.insertEvent] at more

/-- A step leaves the rows alone where it is refused exactly if it fails no started initialization. -/
theorem Sound.refused_iff (sound : s.Sound) :
    (operation.Refused s.database → operation.after s.database = s.database) ↔
      operation.FailsForming s.database := by
  refine ⟨fun unchanged key reasonCode now is entry found => ?_, sound.refused⟩
  by_contra settled
  subst is
  exact sound.fails_over found
    (unchanged (.inr (.inr ⟨key, reasonCode, now, entry, rfl, found, settled⟩)))

end Observed

/--
From an empty table of sessions: as long as every `fail_session_initialization` finds its row still
forming, the events of each session are numbered in insertion order, stand on the game clock once
there is one, are rebased at most once, and a refused transaction changes no row.
-/
theorem one_event_clock {db : Database} {s : Observed} (empty : db.sessions = [])
    (run : observedStore.Run (fun s operation => operation.FailsForming s.database)
      ⟨db, fun _ => {}⟩ s) :
    (∀ entry ∈ s.database.sessions, OneClock entry.store (s.histories entry.key)) ∧
    ∀ operation : Operation,
      (operation.Refused s.database → operation.after s.database = s.database) ↔
        operation.FailsForming s.database :=
  ⟨fun entry mem => ((Observed.Sound.run empty run).clocked entry mem).oneClock,
    fun _ => (Observed.Sound.run empty run).refused_iff⟩

/-- A store with one experiment and no sessions yet. -/
def emptyStore : Observed := ⟨{ experiments := ["exp"] }, fun _ => {}⟩

def waitingSession : SessionRecord where
  experimentId := "exp"
  publicSessionId := "s_1"
  mode := "human_vs_human"
  lifecycle := .forming
  purpose := "research"
  waitingTimeoutSeconds := 600
  maximumLifetimeSeconds := 3600
  configRevision := 1
  gameVersion := "1"

/-- A waiting session that logs, starts two seconds later and logs again. -/
def startedSession : List Operation :=
  let log : SessionEventRecord := ⟨"log", none, none, .null, none⟩
  [.createSession waitingSession ["blue-fox"] (Timestamp.seconds 1),
    .appendSessionEvent ⟨"exp", 1⟩ log (Timestamp.seconds 1),
    .completeSessionInitialization ⟨"exp", 1⟩,
    .startSession ⟨"exp", 1⟩ (Timestamp.seconds 3) (Timestamp.seconds 60),
    .appendSessionEvent ⟨"exp", 1⟩ log (Timestamp.seconds 5)]

def Operation.isNoFailure : Operation → Bool
  | failSessionInitialization _ _ _ => false
  | _ => true

theorem failsForming_of_isNoFailure (s : Observed) (operation : Operation)
    (other : operation.isNoFailure = true) : operation.FailsForming s.database := by
  rintro key reasonCode now rfl
  cases other

theorem one_event_clock_started :
    ∃ s, (observedStore.restrict fun _ operation => operation.isNoFailure).exec emptyStore
        startedSession = some s ∧
      (s.database.sessions.map fun entry => entry.store.events.map SessionEvent.gameTimeMs) =
        [[-2000, 2000]] ∧
      ∀ entry ∈ s.database.sessions, OneClock entry.store (s.histories entry.key) := by
  refine ⟨_, rfl, rfl, ?_⟩
  have reached : (observedStore.restrict fun _ operation => operation.isNoFailure).exec emptyStore
      startedSession = some _ := rfl
  exact (one_event_clock rfl (.of_exec failsForming_of_isNoFailure reached)).1

/-- Failing the initialization of a started session puts an absolute time on its clock. -/
theorem failed_initialization_off_clock :
    ∃ s, observedStore.Run Machine.unguarded emptyStore s ∧
      ∃ entry ∈ s.database.sessions, ¬OneClock entry.store (s.histories entry.key) := by
  have reached : observedStore.exec emptyStore (startedSession ++
      [.failSessionInitialization ⟨"exp", 1⟩ "agent" (Timestamp.seconds 7)]) = some _ := rfl
  refine ⟨_, .of_exec_unguarded reached, _, .head _, fun clock => ?_⟩
  have times : [-2000, 2000, 7000] =
      [Timestamp.seconds 1, Timestamp.seconds 5, Timestamp.seconds 7].map fun occurred =>
        Timestamp.millis occurred - Timestamp.millis (Timestamp.seconds 3) := clock.times _ rfl
  revert times
  decide

end Parlando
