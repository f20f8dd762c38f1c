import Parlando.Data.Except
import Parlando.Proofs.Logs
import Parlando.Proofs.TalkSteps

namespace Parlando

open Concurrency

variable {G : Game}

namespace SessionEventRecord

def isSpoken (record : SessionEventRecord) : Bool :=
  ["game_action_accepted", "conversation_message"].contains record.eventType

def isTerminal (record : SessionEventRecord) : Bool := terminalEvents.contains record.eventType

theorem not_spoken_of_terminal {record : SessionEventRecord} (terminal : record.isTerminal = true) :
    record.isSpoken = false := by
  simp only [isTerminal, terminalEvents, List.contains_eq_mem, List.mem_cons, List.not_mem_nil,
    or_false, decide_eq_true_eq] at terminal
  rcases terminal with type | type | type <;> simp [isSpoken, type]

theorem not_terminal_of_accepted {record : SessionEventRecord} (accepted : record.isAccepted = true) :
    record.isTerminal = false := by
  simp only [isAccepted, beq_iff_eq] at accepted
  simp [isTerminal, terminalEvents, accepted]

end SessionEventRecord

namespace SessionStore

variable {store : SessionStore} {record : SessionEventRecord} {now : Timestamp}

/-- What was said and done in the session, oldest first. -/
def words (store : SessionStore) : List SessionEvent :=
  store.events.filter fun event => event.isSpoken

theorem le_maxEventIndex {event : SessionEvent} (mem : event ∈ store.events) :
    event.eventIndex ≤ store.maxEventIndex := by
  have bound : ∀ (events : List SessionEvent) (start : Int),
      start ≤ events.foldl (fun index event => max index event.eventIndex) start ∧
      ∀ e ∈ events, e.eventIndex ≤ events.foldl (fun index e => max index e.eventIndex) start := by
    intro events
    induction events with
    | nil => exact fun start => ⟨Int.le_refl _, fun e mem => by cases mem⟩
    | cons first rest ih =>
      intro start
      obtain ⟨above, each⟩ := ih (max start first.eventIndex)
      refine ⟨Int.le_trans (Int.le_max_left _ _) above, fun e mem => ?_⟩
      rcases List.mem_cons.mp mem with rfl | mem
      · exact Int.le_trans (Int.le_max_right _ _) above
      · exact each e mem
  exact (bound store.events 0).2 event mem

/-- Everything said and done stands before every terminal event. -/
def WordsFirst (store : SessionStore) : Prop :=
  ∀ word ∈ store.events, ∀ last ∈ store.events, word.isSpoken = true → last.isTerminal = true →
    word.eventIndex < last.eventIndex

def Told (store : SessionStore) : Prop := ∃ last ∈ store.events, last.isTerminal = true

theorem mem_insertEvent {gameTimeMs : Int} {event : SessionEvent}
    (mem : event ∈ (store.insertEvent record gameTimeMs).events) :
    event ∈ store.events ∨
      event.toSessionEventRecord = record ∧ event.eventIndex = store.maxEventIndex + 1 := by
  rcases List.mem_append.mp mem with old | new
  · exact .inl old
  · cases List.mem_singleton.mp new
    exact .inr ⟨rfl, rfl⟩

/-- A terminal event, or any event of a log without one, may join the log. -/
theorem WordsFirst.insertEvent (first : store.WordsFirst) (gameTimeMs : Int)
    (fits : record.isSpoken = true → ¬store.Told) :
    (store.insertEvent record gameTimeMs).WordsFirst := by
  intro word wordMem last lastMem spoken terminal
  rcases mem_insertEvent wordMem with wordOld | ⟨wordNew, _⟩
  · rcases mem_insertEvent lastMem with lastOld | ⟨-, index⟩
    · exact first word wordOld last lastOld spoken terminal
    · have bound := le_maxEventIndex wordOld
      omega
  · rw [wordNew] at spoken
    rcases mem_insertEvent lastMem with lastOld | ⟨lastNew, -⟩
    · exact absurd ⟨last, lastOld, terminal⟩ (fits spoken)
    · rw [lastNew] at terminal
      rw [SessionEventRecord.not_spoken_of_terminal terminal] at spoken
      cases spoken

theorem told_insertEvent {gameTimeMs : Int} :
    (store.insertEvent record gameTimeMs).Told ↔ store.Told ∨ record.isTerminal = true := by
  constructor
  · rintro ⟨last, mem, terminal⟩
    rcases mem_insertEvent mem with old | ⟨new, -⟩
    · exact .inl ⟨last, old, terminal⟩
    · exact .inr (new ▸ terminal)
  · rintro (⟨last, mem, terminal⟩ | terminal)
    · exact ⟨last, List.mem_append_left _ mem, terminal⟩
    · exact ⟨_, List.mem_append_right _ (.head _), terminal⟩

theorem words_insertEvent {gameTimeMs : Int} (silent : record.isSpoken = false) :
    (store.insertEvent record gameTimeMs).words = store.words := by
  simp [words, insertEvent, silent]

/-- The invariant of the rows: the log is closed by a terminal event exactly where the row is ended. -/
structure Closes (store : SessionStore) : Prop where
  first : store.WordsFirst
  told : store.Told ↔ store.ended = true

theorem Closes.of_open (isOpen : store.ended = false) (silent : ¬store.Told) : store.Closes where
  first _ _ last mem _ terminal := absurd ⟨last, mem, terminal⟩ silent
  told := iff_of_false silent (by simp [isOpen])

theorem Closes.sameEvents {store' : SessionStore} (closes : store.Closes)
    (events : store'.events = store.events) (ended : store'.ended = store.ended) :
    store'.Closes where
  first := by
    rw [WordsFirst, events]
    exact closes.first
  told := by
    rw [Told, events, ended]
    exact closes.told

/-- An event that ends nothing, and that says something only while the row is open. -/
theorem Closes.insertEvent (closes : store.Closes) (gameTimeMs : Int)
    (fits : record.isSpoken = true → store.ended = false) (other : record.isTerminal = false) :
    (store.insertEvent record gameTimeMs).Closes where
  first := closes.first.insertEvent gameTimeMs fun spoken told => by
    rw [closes.told, fits spoken] at told
    cases told
  told := by
    rw [told_insertEvent, other, closes.told]
    exact or_iff_left (by simp)

/-- A terminal event together with the end of the row. -/
theorem Closes.persistTerminalValue (closes : store.Closes) (gameTimeMs : Int)
    (sessionEnd : SessionEnd) (isOpen : store.ended = false) (terminal : record.isTerminal = true) :
    ((store.insertEvent record gameTimeMs).persistTerminalValue sessionEnd now).Closes where
  first := closes.first.insertEvent gameTimeMs fun spoken => by
    rw [SessionEventRecord.not_spoken_of_terminal terminal] at spoken
    cases spoken
  told := by
    have ended : ((store.insertEvent record gameTimeMs).persistTerminalValue sessionEnd now).ended =
        true := (endedWith_persistTerminalValue isOpen).ended
    exact ⟨fun _ => ended, fun _ => told_insertEvent.mpr (.inr terminal)⟩

end SessionStore

namespace Transaction

/-- The transaction says nothing of its own, and tells of an end exactly where it ends the row. -/
def Titled : Transaction → Prop
  | append record _ => record.isSpoken = false ∧ record.isTerminal = false
  | commit records sessionEnd _ => ∃ accepted rest, records = accepted :: rest ∧
      accepted.isAccepted = true ∧
      if sessionEnd.isSome then ∃ completed, rest = [completed] ∧ completed.isTerminal = true
      else rest = []
  | endSession record _ _ => record.isTerminal = true
  | _ => True

variable {store : SessionStore} {update : Transaction}

theorem Titled.closes (titled : update.Titled) (closes : store.Closes) :
    (update.apply store).Closes := by
  cases update with
  | append record now => exact closes.insertEvent _ (by simp [titled.1]) titled.2
  | commit records sessionEnd now =>
    obtain ⟨accepted, rest, rfl, action, shape⟩ := titled
    have other := SessionEventRecord.not_terminal_of_accepted action
    cases isOpen : store.ended with
    | true =>
      rw [apply, SessionStore.commitSessionTransition_ended _ _ _ _ isOpen]
      exact closes
    | false =>
      rw [apply, SessionStore.commitSessionTransition_open (by simp) isOpen]
      cases sessionEnd with
      | none =>
        cases shape
        exact closes.insertEvent _ (fun _ => isOpen) other
      | some sessionEnd =>
        obtain ⟨completed, rfl, terminal⟩ := shape
        exact (closes.insertEvent _ (fun _ => isOpen) other).persistTerminalValue _ sessionEnd
          isOpen terminal
  | endSession record sessionEnd now =>
    cases isOpen : store.ended with
    | true =>
      rw [apply, SessionStore.endSession_ended isOpen]
      exact closes
    | false =>
      simp only [apply, SessionStore.endSession, isOpen, Bool.false_eq_true, if_false]
      exact closes.persistTerminalValue _ sessionEnd isOpen titled
  | start startedAt idleDeadlineAt =>
    simp only [apply, SessionStore.startSession]
    split
    · rename_i forming
      have isOpen : store.ended = false := by simp [SessionStore.ended, forming.1]
      refine .of_open rfl ?_
      rintro ⟨last, mem, terminal⟩
      obtain ⟨event, old, rfl⟩ := List.mem_map.mp mem
      rw [closes.told.mp ⟨event, old, terminal⟩] at isOpen
      cases isOpen
    · exact closes
  | touch activityAt idleDeadlineAt =>
    refine closes.sameEvents ?_ ?_ <;> simp only [apply, SessionStore.touchSessionActivity] <;>
      split <;> rfl
  | connection => exact closes.sameEvents rfl rfl
  | addMember member =>
    refine closes.sameEvents ?_ ?_ <;> simp only [apply, SessionStore.addSessionParticipant] <;>
      split <;> rfl

/-- After the end a session's own transactions say nothing. -/
theorem Titled.words (titled : update.Titled) (ended : store.ended = true) :
    (update.apply store).words = store.words := by
  cases update with
  | append record now => exact SessionStore.words_insertEvent titled.1
  | commit records sessionEnd now =>
    rw [apply, SessionStore.commitSessionTransition_ended _ _ _ _ ended]
  | endSession record sessionEnd now => rw [apply, SessionStore.endSession_ended ended]
  | start startedAt idleDeadlineAt =>
    have settled : ¬(store.row.lifecycle = .forming ∧ store.row.initializationComplete = true) := by
      rintro ⟨forming, -⟩
      simp [SessionStore.ended, forming] at ended
    rw [apply, SessionStore.startSession, if_neg settled]
  | touch activityAt idleDeadlineAt =>
    simp only [apply, SessionStore.touchSessionActivity]
    split <;> rfl
  | connection => rfl
  | addMember member =>
    simp only [apply, SessionStore.addSessionParticipant]
    split <;> rfl

end Transaction

theorem SubmitCall.acceptedRecord_eventType {call : SubmitCall G} {transition : Transition G}
    {session : Option (LiveSession G)} {record : SessionEventRecord}
    (h : call.acceptedRecord transition session = .ok record) :
    record.eventType = "game_action_accepted" := by
  obtain ⟨payload, -, h⟩ := Except.of_bind_ok h
  exact (sessionEventRecord_eventType h).1

namespace SubmitPc

def Titled : SubmitPc G → Prop
  | finish _ t completion => t.completion = some completion
  | record _ t sessionEnd => sessionEnd.isSome = t.completion.isSome
  | recordCompleted _ _ sessionEnd _ accepted =>
    sessionEnd.isSome = true ∧ accepted.isAccepted = true
  | commit _ _ sessionEnd records => ∀ now, (Transaction.commit records sessionEnd now).Titled
  | _ => True

variable {config : ExperimentConfig} {call : SubmitCall G} {cell : Cell G} {pid : Nat}
  {input : Input} {sec : Section G} {pc pc' : SubmitPc G}

theorem step_titled (titled : pc.Titled) (h : pc.step config call cell pid input = some (sec, pc')) :
    pc'.Titled := by
  cases pc <;> simp only [step] at h
  case check l =>
    split at h
    · cases h
      trivial
    · split at h <;> cases h
      · rename_i completion
        exact completion
      · rename_i completion
        simp [Titled, completion]
  case finish l t completion =>
    repeat' first | split at h | cases h
    · trivial
    · trivial
    · exact ((congrArg Option.isSome titled).trans rfl).symm
  case record l t sessionEnd =>
    split at h
    · cases h
      trivial
    · rename_i accepted ok
      have action : accepted.isAccepted = true := by
        simp [SessionEventRecord.isAccepted, SubmitCall.acceptedRecord_eventType ok]
      split at h
      · rename_i completion
        cases h
        exact ⟨titled.trans (by rw [completion]; rfl), action⟩
      · rename_i completion
        cases h
        have none : sessionEnd.isSome = false := titled.trans (by rw [completion]; rfl)
        exact fun now => ⟨accepted, [], rfl, action, by simp [none]⟩
  case recordCompleted l t sessionEnd completion accepted =>
    split at h
    · cases h
      trivial
    · rename_i completed ok
      cases h
      obtain ⟨type, -, -⟩ := sessionEventRecord_eventType ok
      refine fun now => ⟨accepted, [completed], rfl, titled.2, ?_⟩
      rw [if_pos titled.1]
      exact ⟨completed, rfl, by simp [SessionEventRecord.isTerminal, terminalEvents, type]⟩
  all_goals repeat' first | split at h | cases h | trivial

end SubmitPc

/-- The event bears no name of the game's log, of the conversation or of an end. -/
def EventCall.isPlain (call : EventCall) : Bool :=
  !("game_action_accepted" :: "conversation_message" :: terminalEvents).contains call.eventType

theorem SessionEventRecord.quiet_of_plain {record : SessionEventRecord} {call : EventCall}
    (plain : call.isPlain = true) (type : record.eventType = call.eventType) :
    record.isSpoken = false ∧ record.isTerminal = false := by
  simp only [EventCall.isPlain, List.contains_cons, Bool.not_or, Bool.and_eq_true] at plain
  obtain ⟨action, message, terminal⟩ := plain
  rw [isSpoken, isTerminal, type]
  refine ⟨?_, by simpa using terminal⟩
  simp only [List.contains_cons, List.contains_nil, Bool.or_false, Bool.or_eq_false_iff]
  exact ⟨by simpa using action, by simpa using message⟩

namespace Task

def Titled : Task G → Prop
  | submit _ pc => pc.Titled
  | abandon _ _ _ (.commit _ _ record) => record.isTerminal = true
  | event call _ pc =>
    call.isPlain = true ∧ ∀ record, pc = .append record → record.eventType = call.eventType
  | _ => True

variable {config : ExperimentConfig} {cell : Cell G} {pid : Nat} {input : Input}
  {sec : Section G} {task task' : Task G} {started : List (Task G)}

theorem titled_ofSocket (call : SocketCall) (pc : SocketPc) : (ofSocket call pc : Task G).Titled := by
  cases pc <;> first | trivial | exact ⟨by simp [EventCall.isPlain, terminalEvents], by simp⟩

theorem titled_ofAgent (call : AgentCall) (pc : AgentPc) : (ofAgent call pc : Task G).Titled := by
  cases pc <;> first | trivial | exact ⟨by simp [EventCall.isPlain, terminalEvents], by simp⟩

theorem titled_ofEvent {call : EventCall} {caller : EventCaller} {pc : EventPc}
    (plain : call.isPlain = true)
    (records : ∀ record, pc = .append record → record.eventType = call.eventType) :
    (ofEvent config call caller pc : Task G).Titled := by
  cases pc with
  | returned =>
    cases caller with
    | disconnected call deadline => exact titled_ofSocket _ _
    | agentConnected call l => exact titled_ofAgent call (.startedEvent l)
    | detached => exact ⟨plain, records⟩
    | _ => trivial
  | _ => cases caller <;> exact ⟨plain, records⟩

theorem next_titled (titled : task.Titled)
    (h : task.next config cell pid input = some (sec, task', started)) : task'.Titled := by
  cases task
  all_goals
    obtain ⟨⟨sec', pc'⟩, hs, he⟩ := Option.map_eq_some_iff.mp h
    cases he
    rename_i pc
  case submit => exact SubmitPc.step_titled titled hs
  case event call caller =>
    refine titled_ofEvent titled.1 ?_
    rintro record rfl
    cases pc <;> simp only [EventPc.step] at hs
    case record =>
      split at hs <;> cases hs
      rename_i ok
      exact (sessionEventRecord_eventType ok).1
    all_goals cases hs
  case socket => exact titled_ofSocket _ _
  case agent => exact titled_ofAgent _ _
  case abandon id reason caller =>
    cases pc <;> simp only [AbandonPc.step] at hs
    case record l sessionEnd =>
      split at hs <;> cases hs
      · cases caller <;> trivial
      · rename_i ok
        have terminal := (sessionEventRecord_eventType ok).1
        cases caller <;> simp [ofAbandon, Titled, SessionEventRecord.isTerminal, terminalEvents, terminal]
    all_goals
      repeat' first | split at hs | cases hs
      all_goals cases caller <;> trivial
  case expire reason caller => cases caller <;> cases pc' <;> trivial
  case start caller => cases caller <;> cases pc' <;> trivial
  case admission participant => cases pc' <;> first | trivial | exact ⟨by simp [EventCall.isPlain, terminalEvents], by simp⟩
  case finalize => trivial
  case touch => trivial
  all_goals cases pc' <;> trivial

/-- What a task is about to write is what it has prepared. -/
theorem next_transaction {update : Transaction} (titled : task.Titled)
    (h : task.next config cell pid input = some (.transaction update, task', started)) :
    update.Titled := by
  have kind := next_kind h
  cases update <;> try trivial
  case append record now =>
    cases task <;> simp [kinds, Section.kind, Transaction.kind] at kind
    obtain ⟨⟨sec', pc'⟩, hs, he⟩ := Option.map_eq_some_iff.mp h
    rename_i pc
    cases pc <;> simp only [EventPc.step] at hs <;>
      repeat' first | split at hs | cases hs | cases he
    exact SessionEventRecord.quiet_of_plain titled.1 (titled.2 _ rfl)
  case commit records sessionEnd now =>
    obtain ⟨call, l, t, rfl, -, -⟩ := next_commit h
    exact titled now
  case endSession record sessionEnd now =>
    cases task <;> simp [kinds, Section.kind, Transaction.kind] at kind
    all_goals
      obtain ⟨⟨sec', pc'⟩, hs, he⟩ := Option.map_eq_some_iff.mp h
      rename_i pc
    case abandon =>
      cases pc <;> simp only [AbandonPc.step] at hs <;>
        repeat' first | split at hs | cases hs | cases he
      all_goals exact titled
    case expire =>
      cases pc <;> simp only [ExpirePc.step] at hs <;>
        repeat' first | split at hs | cases hs | cases he | rfl
    case finalize =>
      cases pc <;> simp only [FinalizePc.step] at hs <;>
        repeat' first | split at hs | cases hs | cases he | rfl

end Task

/-- The call stands past its active check and has not appended its event yet. -/
def MessagePc.inFlight : MessagePc → Bool
  | .role | .record _ | .append _ => true
  | _ => false

def MessageCall.Fills (call : MessageCall) (texts : SessionTexts) (payload : Value) : Prop :=
  ∃ id role, payload = call.payload texts id role

def MessagePc.Titled (texts : SessionTexts) (call : MessageCall) : MessagePc → Prop
  | record payload => call.Fills texts payload
  | append event => event.eventType = "conversation_message" ∧ call.Fills texts event.payload
  | _ => True

namespace TalkTask

def inFlight : TalkTask G → Bool
  | message _ pc | transcript _ (.message _ _ pc) => pc.inFlight
  | _ => false

def Titled (texts : SessionTexts) : TalkTask G → Prop
  | session task => task.Titled
  | message call pc | transcript _ (.message _ call pc) => pc.Titled texts call
  | _ => True

end TalkTask

inductive RowsStep (store : SessionStore) (spoke : Bool) : SessionStore → Prop where
  | same : RowsStep store spoke store
  | rows (update : Transaction) (titled : update.Titled) :
    RowsStep store spoke (update.apply store)
  | said (record : SessionEventRecord) (now : Timestamp)
    (message : record.eventType = "conversation_message") (inFlight : spoke = true) :
    RowsStep store spoke (store.appendSessionEvent record now)

namespace RowsStep

variable {store store' : SessionStore} {spoke : Bool}

theorem closes (rows : RowsStep store spoke store') (closes : store.Closes)
    (isOpen : spoke = true → store.ended = false) : store'.Closes := by
  cases rows with
  | same => exact closes
  | rows update titled => exact titled.closes closes
  | said record now message inFlight =>
    exact closes.insertEvent _ (fun _ => isOpen inFlight)
      (by simp [SessionEventRecord.isTerminal, terminalEvents, message])

theorem ended (rows : RowsStep store spoke store') (ended : store.ended = true) :
    store'.ended = true := by
  cases rows with
  | same => exact ended
  | rows update titled => exact Transaction.ended_stays ended
  | said record now message inFlight => exact ended

/-- After the end only a message in flight could say anything. -/
theorem words (rows : RowsStep store spoke store') (ended : store.ended = true)
    (landed : spoke = false) : store'.words = store.words := by
  cases rows with
  | same => rfl
  | rows update titled => exact titled.words ended
  | said record now message inFlight =>
    rw [landed] at inFlight
    cases inFlight

end RowsStep

section Steps

variable {config : ExperimentConfig} {texts : SessionTexts} {jsonBytes : Value → Nat}
  {cell : Cell G} {talk talk' : Talk G} {pid : Nat} {input : TalkInput}

namespace MessagePc

variable {call : MessageCall} {sec : Section G} {pc pc' : MessagePc}

theorem step_titled (titled : pc.Titled texts call)
    (h : pc.step config texts jsonBytes call cell input = some (sec, pc')) :
    pc'.Titled texts call := by
  cases pc <;> simp only [step] at h
  case role =>
    split at h <;> cases h
    · trivial
    · exact ⟨_, _, rfl⟩
  case record payload =>
    split at h <;> cases h
    · trivial
    · rename_i ok
      obtain ⟨type, same, -⟩ := sessionEventRecord_eventType ok
      exact ⟨type, same ▸ titled⟩
  all_goals
    repeat' first | split at h | cases h
    all_goals trivial

theorem step_rows (titled : pc.Titled texts call)
    (h : pc.step config texts jsonBytes call cell input = some (sec, pc')) :
    RowsStep cell.store pc.inFlight (cell.apply config sec).store := by
  cases pc <;> simp only [step] at h
  case append record =>
    split at h <;> cases h
    · exact .said record input.now titled.1 rfl
    · exact .same
  case touchStore activityAt =>
    cases h
    split
    · exact .rows (.touch activityAt _) trivial
    · exact .same
  all_goals
    repeat' first | split at h | cases h
    all_goals exact .same

/-- Only the active check takes a message into flight. -/
theorem step_takes_off (h : pc.step config texts jsonBytes call cell input = some (sec, pc'))
    (before : pc.inFlight = false) (after : pc'.inFlight = true) : sec = .skip := by
  cases pc <;> simp only [step] at h
  case touch =>
    cases h
    split at after <;> cases after
  all_goals
    repeat' first | split at h | cases h
    all_goals first | rfl | cases after

end MessagePc

namespace TalkTask

variable {task task' : TalkTask G} {started : List (TalkTask G)}

theorem titled_of_entry {task : TalkTask G}
    (h : (talkProgram G config texts jsonBytes).entry talk task = true) :
    task.Titled texts ∧ task.inFlight = false := by
  obtain ⟨enter, own⟩ := talk_entry h
  cases task with
  | session task =>
    refine ⟨?_, rfl⟩
    have entry := (session_entry (own task rfl)).1
    cases task with
    | submit call pc => cases pc <;> trivial
    | abandon id reason caller pc =>
      cases caller <;> cases reason <;> cases pc <;> trivial
    | event call caller pc =>
      cases caller <;> cases pc <;> first | cases entry | refine ⟨?_, fun _ same => by cases same⟩
      rw [EventCall.isPlain, List.contains_cons, Bool.not_or, Bool.and_eq_true]
      exact ⟨entry, enter⟩
    | _ => trivial
  | message call pc => cases pc <;> first | exact ⟨trivial, rfl⟩ | cases enter
  | transcript call pc => cases pc <;> first | exact ⟨trivial, rfl⟩ | cases enter

/-- A step writes what its task has prepared, and prepares what the task's name allows. -/
theorem next_rows (titled : task.Titled texts)
    (h : task.next config texts jsonBytes talk pid input = some (talk', task', started)) :
    task'.Titled texts ∧ RowsStep talk.cell.store task.inFlight talk'.cell.store := by
  cases task with
  | session task =>
    obtain ⟨⟨sec, task'', started'⟩, hn, he⟩ := Option.map_eq_some_iff.mp h
    cases he
    refine ⟨task.next_titled titled hn, ?_⟩
    cases sec with
    | transaction update => exact .rows update (task.next_transaction titled hn)
    | _ => exact .same
  | message call pc =>
    obtain ⟨⟨sec, pc'⟩, hs, he⟩ := Option.map_eq_some_iff.mp h
    cases he
    exact ⟨MessagePc.step_titled titled hs, MessagePc.step_rows titled hs⟩
  | transcript call pc =>
    obtain ⟨⟨talk'', pc'⟩, hs, he⟩ := Option.map_eq_some_iff.mp h
    cases he
    cases TranscriptPc.step_cases hs with
    | checks before after =>
      refine ⟨?_, .same⟩
      cases pc' <;> first | trivial | simp [TranscriptPc.isChecking, TranscriptPc.isRefused] at after
    | commits segment message pc pc' sec step =>
      exact ⟨MessagePc.step_titled titled step, MessagePc.step_rows titled step⟩
    | _ => exact ⟨trivial, .same⟩

/-- Only the active check takes a message into flight, and it writes nothing. -/
theorem next_takes_off
    (h : task.next config texts jsonBytes talk pid input = some (talk', task', started))
    (before : task.inFlight = false) (after : task'.inFlight = true) :
    talk'.cell.store = talk.cell.store := by
  cases task with
  | session task =>
    obtain ⟨⟨sec, task'', started'⟩, hn, he⟩ := Option.map_eq_some_iff.mp h
    cases he
    cases after
  | message call pc =>
    obtain ⟨⟨sec, pc'⟩, hs, he⟩ := Option.map_eq_some_iff.mp h
    cases he
    rw [MessagePc.step_takes_off hs before after]
    rfl
  | transcript call pc =>
    obtain ⟨⟨talk'', pc'⟩, hs, he⟩ := Option.map_eq_some_iff.mp h
    cases he
    cases TranscriptPc.step_cases hs with
    | commits segment message pc pc' sec step =>
      rw [MessagePc.step_takes_off step before after]
      rfl
    | _ => rfl

end TalkTask

end Steps

namespace TalkTask

variable (config : ExperimentConfig) (texts : SessionTexts) (jsonBytes : Value → Nat)

/-- The task's next step ends the session's row. -/
def ends (talk : Talk G) (pid : Nat) (input : TalkInput) (task : TalkTask G) : Bool :=
  !talk.cell.store.ended && (task.next config texts jsonBytes talk pid input).any fun next =>
    next.1.cell.store.ended

/-- The task's next step is an active check that lets a message pass. -/
def takesOff (talk : Talk G) (pid : Nat) (input : TalkInput) (task : TalkTask G) : Bool :=
  !task.inFlight && (task.next config texts jsonBytes talk pid input).any fun next =>
    next.2.1.inFlight

/--
The row is not ended over a message that stands between its active check and its append, and no
message passes that check once the row is ended.
-/
def landsFirst (w : Pool (Talk G) (TalkTask G)) : Pool.Action (TalkTask G) TalkInput → Bool
  | .spawn _ => true
  | .run pid input => (w.tasks[pid]?).all fun task =>
      !(task.ends config texts jsonBytes w.shared pid input && w.tasks.any inFlight) &&
      !(task.takesOff config texts jsonBytes w.shared pid input && w.shared.cell.store.ended)

end TalkTask

section Outline

variable {config : ExperimentConfig} {texts : SessionTexts} {jsonBytes : Value → Nat}
  {w : Pool (Talk G) (TalkTask G)} {talk' : Talk G} {pid : Nat} {input : TalkInput}
  {task task' : TalkTask G} {started : List (TalkTask G)}

/-- No step ends the row over a message in flight. -/
theorem open_of_landsFirst
    (met : TalkTask.landsFirst config texts jsonBytes w (.run pid input) = true)
    (ht : w.tasks[pid]? = some task)
    (h : task.next config texts jsonBytes w.shared pid input = some (talk', task', started))
    (isOpen : w.shared.cell.store.ended = false)
    (flying : w.Has fun _ (u : TalkTask G) => u.inFlight = true) :
    talk'.cell.store.ended = false := by
  obtain ⟨q, u, hu, inFlight⟩ := flying
  have any : w.tasks.any TalkTask.inFlight = true :=
    List.any_eq_true.mpr ⟨u, List.mem_of_getElem? hu, inFlight⟩
  rw [TalkTask.landsFirst, ht, Option.all_some, Bool.and_eq_true, any, TalkTask.ends, isOpen, h]
    at met
  simpa using met.1

/-- No message takes off over an ended row. -/
theorem open_of_takesOff
    (met : TalkTask.landsFirst config texts jsonBytes w (.run pid input) = true)
    (ht : w.tasks[pid]? = some task)
    (h : task.next config texts jsonBytes w.shared pid input = some (talk', task', started))
    (before : task.inFlight = false) (after : task'.inFlight = true) :
    w.shared.cell.store.ended = false := by
  rw [TalkTask.landsFirst, ht, Option.all_some, Bool.and_eq_true, TalkTask.takesOff, before, h] at met
  simpa [after] using met.2

end Outline

/-- The log is closed exactly where the row is ended, and a message flies only over an open row. -/
def wordsOutline (G : Game) (config : ExperimentConfig) (texts : SessionTexts)
    (jsonBytes : Value → Nat) :
    Outline (talkProgram G config texts jsonBytes) fun w a =>
      TalkTask.landsFirst config texts jsonBytes w a = true where
  inv talk := talk.cell.store.Closes
  asn talk _ task := task.Titled texts ∧ (task.inFlight = true → talk.cell.store.ended = false)
  entry _ _ _ enter := by
    obtain ⟨titled, landed⟩ := TalkTask.titled_of_entry enter
    exact ⟨titled, fun inFlight => by rw [landed] at inFlight; cases inFlight⟩
  step := by
    intro w pid input task talk' task' started closes each met ht hs
    have h := (talk_step hs).1
    obtain ⟨titled, flies⟩ := each pid task ht
    obtain ⟨titled', rows⟩ := TalkTask.next_rows titled h
    refine ⟨?_, ⟨titled', fun after => ?_⟩, fun u mem q => ?_⟩
    · exact rows.closes closes flies
    · cases before : task.inFlight with
      | true => exact open_of_landsFirst met ht h (flies before) ⟨pid, task, ht, before⟩
      | false =>
        rw [TalkTask.next_takes_off h before after]
        exact open_of_takesOff met ht h before after
    · obtain ⟨id, deadline, wakeAt, rfl⟩ := TalkTask.mem_started h mem
      exact ⟨trivial, fun inFlight => by cases inFlight⟩
  interference := by
    intro w pid input task talk' task' started q u closes each met ht hs other hu asn
    refine ⟨asn.1, fun inFlight => ?_⟩
    exact open_of_landsFirst met ht (talk_step hs).1 (asn.2 inFlight) ⟨q, u, hu, inFlight⟩

section Runs

variable {config : ExperimentConfig} {texts : SessionTexts} {jsonBytes : Value → Nat}
  {w w' : Pool (Talk G) (TalkTask G)}
  
theorem wordsOutline_init (creation : Creation G) :
    (wordsOutline G config texts jsonBytes).Valid (creation.talk config) where
  inv := by
    refine .of_open rfl ?_
    rintro ⟨last, mem, terminal⟩
    cases List.mem_singleton.mp mem
    simp [SessionEventRecord.isTerminal, terminalEvents] at terminal
  each _ _ h := by cases h

/-- Nothing is said in a step from an ended row. -/
theorem words_step {a : Pool.Action (TalkTask G) TalkInput}
    (valid : (wordsOutline G config texts jsonBytes).Valid w)
    (h : (talkMachine G config texts jsonBytes).step w a = some w')
    (ended : w.shared.cell.store.ended = true) :
    w'.shared.cell.store.ended = true ∧ w'.shared.cell.store.words = w.shared.cell.store.words := by
  rcases Program.step_cases h with ⟨task, -, -, rfl⟩ |
    ⟨pid, input, task, talk', task', started, rfl, ht, hs, rfl⟩
  · exact ⟨ended, rfl⟩
  · obtain ⟨titled, flies⟩ := valid.each pid task ht
    obtain ⟨-, rows⟩ := TalkTask.next_rows titled (talk_step hs).1
    have landed : task.inFlight = false := by
      cases flying : task.inFlight with
      | false => rfl
      | true =>
        rw [flies flying] at ended
        cases ended
    exact ⟨rows.ended ended, rows.words ended landed⟩

/--
As long as no row is ended over a message in flight and no message takes off over an ended row:
once the row is ended, no accepted action and no message joins the log, and all of them stand
before its terminal event.
-/
theorem nothing_said_after_end {creation : Creation G}
    (run : (talkMachine G config texts jsonBytes).Run
      (fun w a => TalkTask.landsFirst config texts jsonBytes w a = true) (creation.talk config) w)
    (ended : w.shared.cell.store.ended = true)
    (later : (talkMachine G config texts jsonBytes).Run
      (fun w a => TalkTask.landsFirst config texts jsonBytes w a = true) w w') :
    w'.shared.cell.store.words = w.shared.cell.store.words ∧ w'.shared.cell.store.Told ∧
      w'.shared.cell.store.WordsFirst := by
  have valid : ∀ {v}, (talkMachine G config texts jsonBytes).Run
      (fun w a => TalkTask.landsFirst config texts jsonBytes w a = true) w v →
      (wordsOutline G config texts jsonBytes).Valid v := fun onward =>
    Outline.Valid.run (run.trans onward) (wordsOutline_init creation)
  have kept : w'.shared.cell.store.ended = true ∧
      w'.shared.cell.store.words = w.shared.cell.store.words := by
    refine later.invariant_of_reached ⟨ended, rfl⟩ fun onward kept _ h => ?_
    obtain ⟨still, words⟩ := words_step (valid onward) h kept.1
    exact ⟨still, words.trans kept.2⟩
  have closes : w'.shared.cell.store.Closes := (valid later).inv
  exact ⟨kept.2, closes.told.mpr kept.1, closes.first⟩

end Runs

namespace TalkAction

def greetsAndLeaves : List TalkAction :=
  TallyAction.opening.map own ++ .spawn (.message greeting .require) :: steps 3 7 1 ++ leaving 4 2

def leavesWhileGreeting : List TalkAction :=
  TallyAction.opening.map own ++ .spawn (.message greeting .require) :: steps 3 2 1 ++ leaving 4 2

end TalkAction

theorem nothing_said_after_end_greeted :
    ∃ w : Pool (Talk tallyGame) (TalkTask tallyGame), w.shared.cell.store.ended = true ∧
      w.shared.cell.store.words.map SessionEvent.eventIndex = [5] ∧ w.shared.cell.store.Told ∧
      w.shared.cell.store.WordsFirst := by
  have h : ((TalkAction.machine.restrict (TalkTask.landsFirst {} TalkAction.texts
      TalkAction.bytes)).exec TalkAction.start TalkAction.greetsAndLeaves).map (fun w =>
        (w.shared.cell.store.ended, w.shared.cell.store.words.map SessionEvent.eventIndex)) =
          some (true, [5]) := rfl
  obtain ⟨w, reached, is⟩ := Option.map_eq_some_iff.mp h
  obtain ⟨ended, said⟩ := Prod.mk.inj is
  have run := Machine.Run.of_exec (fun _ _ met => met) reached
  exact ⟨w, ended, said, (nothing_said_after_end run ended .refl).2⟩

/-- A message that has passed its active check is stored after the session's terminal event. -/
theorem message_stored_after_end :
    ∃ w w' : Pool (Talk tallyGame) (TalkTask tallyGame),
      TalkAction.machine.Run Machine.unguarded TalkAction.start w ∧
      w.shared.cell.store.ended = true ∧ TalkAction.machine.Run Machine.unguarded w w' ∧
      w'.shared.cell.store.words ≠ w.shared.cell.store.words ∧ w'.shared.cell.store.Told ∧
      ¬w'.shared.cell.store.WordsFirst := by
  have h : ((TalkAction.machine.exec TalkAction.start TalkAction.leavesWhileGreeting).bind fun w =>
      (TalkAction.machine.exec w (TalkAction.steps 3 3 3)).map fun w' =>
        (w.shared.cell.store.ended, w.shared.cell.store.words.length,
          w'.shared.cell.store.events.map fun event =>
            (event.isSpoken, event.isTerminal, event.eventIndex))) =
      some (true, 0, [(false, false, 1), (false, false, 2), (false, false, 3), (false, false, 4),
        (false, true, 5), (true, false, 6)]) := rfl
  obtain ⟨w, reached, h⟩ := Option.bind_eq_some_iff.mp h
  obtain ⟨w', later, is⟩ := Option.map_eq_some_iff.mp h
  obtain ⟨ended, is⟩ := Prod.mk.inj is
  obtain ⟨silent, log⟩ := Prod.mk.inj is
  have event : ∀ place ∈ [(false, true, (5 : Int)), (true, false, 6)],
      ∃ e ∈ w'.shared.cell.store.events, (e.isSpoken, e.isTerminal, e.eventIndex) = place := by
    intro place mem
    refine List.mem_map.mp (log ▸ ?_)
    exact List.mem_of_mem_drop (i := 4) mem
  obtain ⟨last, lastMem, lastIs⟩ := event _ (.head _)
  obtain ⟨word, wordMem, wordIs⟩ := event _ (.tail _ (.head _))
  simp only [Prod.mk.injEq] at lastIs wordIs
  refine ⟨w, w', .of_exec_unguarded reached, ended, .of_exec_unguarded later, fun same => ?_,
    ⟨last, lastMem, lastIs.2.1⟩, fun first => ?_⟩
  · have said : word ∈ w'.shared.cell.store.words := List.mem_filter.mpr ⟨wordMem, wordIs.1⟩
    rw [same, List.length_eq_zero_iff.mp silent] at said
    cases said
  · have before := first word wordMem last lastMem wordIs.1 lastIs.2.1
    rw [wordIs.2.2, lastIs.2.2] at before
    exact absurd before (by decide)

end Parlando
