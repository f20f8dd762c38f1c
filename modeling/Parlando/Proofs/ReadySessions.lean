import Parlando.AudioEvents
import Parlando.Proofs.Roles

namespace Parlando

open Concurrency

variable {G : Game} {config : ExperimentConfig}

namespace LiveSession

theorem readyForGame_iff {session : LiveSession G} : session.readyForGame config = true ↔
    ∀ role, ∃ id p, session.participants.lookup id = some p ∧ p.readyForGame config = true ∧
      p.role = role := by
  have holds (role : PlayerRole) :
      ((session.participants.values.filter (SessionParticipant.readyForGame config)).any
        fun participant => participant.role == role) = true ↔
      ∃ id p, session.participants.lookup id = some p ∧ p.readyForGame config = true ∧
        p.role = role := by
    simp only [List.any_eq_true, List.mem_filter, Map.mem_values, beq_iff_eq]
    constructor
    · intro seated
      obtain ⟨p, ⟨⟨id, found⟩, ready⟩, role⟩ := seated
      exact ⟨id, p, found, ready, role⟩
    · intro seated
      obtain ⟨id, p, found, ready, role⟩ := seated
      exact ⟨p, ⟨⟨id, found⟩, ready⟩, role⟩
  simp only [readyForGame, Bool.and_eq_true, holds]
  constructor
  · intro both role
    cases role with
    | A => exact both.1
    | B => exact both.2
  · intro each
    exact ⟨each .A, each .B⟩

end LiveSession

def Section.readies : Section G → Bool
  | .memory (.connect _ _) | .memory (.agentReady _ _) | .memory (.audioReady _ _) => true
  | _ => false

/-- Joining and leaving make nobody ready, nor does a disconnect. -/
theorem MembersStep.ready_before {session : LiveSession G} {sec : Section G}
    {members : Map ParticipantSessionId SessionParticipant} {id : ParticipantSessionId}
    {p : SessionParticipant} (step : MembersStep config session sec members)
    (other : sec.readies = false) (found : members.lookup id = some p)
    (ready : p.readyForGame config = true) : session.participants.lookup id = some p := by
  cases step with
  | same => exact found
  | connect => cases other
  | agentReady => cases other
  | audioReady => cases other
  | disconnect id' disconnectedAt deadline =>
    rw [Map.lookup_modify] at found
    split at found
    · obtain ⟨before, _, rfl⟩ := Option.map_eq_some_iff.mp found
      simp [SessionParticipant.readyForGame, SessionParticipant.disconnect] at ready
    · exact found
  | join participant now role =>
    rw [Map.lookup_insert_eq] at found
    split at found
    · cases found
      simp [SessionParticipant.readyForGame, SessionParticipant.joined] at ready
    · exact found
  | attach agent now =>
    rw [Map.lookup_insert_eq] at found
    split at found
    · cases found
      simp [SessionParticipant.readyForGame, SessionParticipant.attached] at ready
    · exact found
  | detach id' =>
    rw [Map.lookup_erase_eq] at found
    split at found
    · cases found
    · exact found

theorem SessionStep.ready_before {session session' : LiveSession G} {sec : Section G}
    (step : SessionStep config sec session session') (other : sec.readies = false)
    (ready : session'.readyForGame config = true) : session.readyForGame config = true := by
  rw [LiveSession.readyForGame_iff] at ready ⊢
  intro role
  obtain ⟨id, p, found, readyNow, held⟩ := ready role
  exact ⟨id, p, step.members.ready_before other found readyNow, readyNow, held⟩

namespace Task

/-- The task is on its way to a `maybe_start_game` call, or in one that has not started the row. -/
def waking : Task G → Bool
  | socket _ (.persistConnected _) | socket _ (.started _) => true
  | event _ (.connected _ _) _ | event _ (.agentConnected _ _) _
  | event _ (.agentStarted _ _) _ => true
  | agent _ (.releaseReady _ true) => true
  | start _ .fetch | start _ (.lock _) | start _ (.check _) | start _ (.commit _ _) => true
  | _ => false

def settling (task : Task G) : Bool := task.starting || task.ending.isSome

section Steps

variable {cell : Cell G} {pid : Nat} {input : Input} {sec : Section G} {task task' : Task G}
  {started : List (Task G)}

/-- Whoever completes a participant's readiness goes on to a `maybe_start_game` call. -/
theorem next_readies (h : task.next config cell pid input = some (sec, task', started))
    (readies : sec.readies = true) : task'.waking = true := by
  have kind := next_kind h
  cases sec <;> try cases readies
  rename_i update
  cases update
  case connect id now =>
    obtain ⟨call, g, rfl, rfl⟩ := next_connect h
    cases h
    rfl
  case agentReady id now =>
    cases task <;> simp [kinds, Section.kind, MemorySection.kind] at kind
    obtain ⟨⟨sec', pc'⟩, hs, he⟩ := Option.map_eq_some_iff.mp h
    rename_i pc
    cases pc <;> simp only [AgentPc.step] at hs <;>
      repeat' first | split at hs | cases hs | cases he
    rfl
  case audioReady id now =>
    cases task <;> simp [kinds, Section.kind, MemorySection.kind] at kind
    rename_i pc
    cases pc <;> cases h
    rfl
  all_goals cases readies

/-- A row is started only by a task that then owes the start to memory. -/
theorem next_startRow {startedAt idleDeadlineAt : Timestamp}
    (h : task.next config cell pid input =
      some (.transaction (.start startedAt idleDeadlineAt), task', started))
    (accepted : (cell.store.startSession startedAt idleDeadlineAt).2 = true) :
    task'.starting = true := by
  have kind := next_kind h
  cases task <;> simp [kinds, Section.kind, Transaction.kind] at kind
  obtain ⟨⟨sec', pc'⟩, hs, he⟩ := Option.map_eq_some_iff.mp h
  rename_i caller pc
  cases pc <;> simp only [StartPc.step] at hs <;>
    repeat' first | split at hs | cases hs | cases he
  · cases caller <;> rfl
  · rename_i refused
    exact absurd accepted refused

/-- A `maybe_start_game` call under way to a session it can start goes on to start it. -/
theorem startStep_waking {caller : StartCaller} {pc pc' : StartPc}
    (stepped : pc.step config cell pid input = some (sec, pc'))
    (wakes : (start caller pc : Task G).waking = true) (storeOk : input.storeOk = true)
    (ready : startable config cell.session = true)
    (isOpen : ∀ startedAt idleDeadlineAt,
      (cell.store.startSession startedAt idleDeadlineAt).2 = true) :
    (ofStart caller pc' : Task G).waking = true ∨
      (ofStart caller pc' : Task G).starting = true := by
  cases pc <;> cases wakes
  case fetch =>
    cases stepped
    exact .inl (by cases caller <;> rfl)
  case lock l =>
    simp only [StartPc.step] at stepped
    split at stepped <;> cases stepped
    exact .inl (by cases caller <;> rfl)
  case check l =>
    simp only [StartPc.step, ready, if_true] at stepped
    cases stepped
    exact .inl (by cases caller <;> rfl)
  case commit l startedAt =>
    simp only [StartPc.step, storeOk, isOpen, if_true] at stepped
    cases stepped
    exact .inr (by cases caller <;> rfl)

/-- A task under way to a session it can start stays on its way until it has started the row. -/
theorem next_waking (h : task.next config cell pid input = some (sec, task', started))
    (wakes : task.waking = true) (storeOk : input.storeOk = true)
    (ready : startable config cell.session = true)
    (isOpen : ∀ startedAt idleDeadlineAt,
      (cell.store.startSession startedAt idleDeadlineAt).2 = true) :
    task'.waking = true ∨ task'.starting = true := by
  cases task
  case start caller pc =>
    obtain ⟨⟨sec', pc'⟩, stepped, he⟩ := Option.map_eq_some_iff.mp h
    cases he
    exact startStep_waking stepped wakes storeOk ready isOpen
  case socket call pc =>
    obtain ⟨⟨sec', pc'⟩, stepped, he⟩ := Option.map_eq_some_iff.mp h
    simp only [Prod.mk.injEq] at he
    obtain ⟨rfl, rfl, -⟩ := he
    cases pc <;> try cases wakes
    case persistConnected g =>
      cases stepped
      exact .inl rfl
    case started g =>
      have forming : (cell.session.any fun session => !session.lifecycle.isForming) = false := by
        cases here : cell.session with
        | none => rfl
        | some session =>
          simp only [startable, here, Option.any_some, Bool.and_eq_true] at ready
          simp [ready.1]
      simp only [SocketPc.step, forming] at stepped
      cases stepped
      exact .inl rfl
  case event call caller pc =>
    obtain ⟨⟨sec', pc'⟩, stepped, he⟩ := Option.map_eq_some_iff.mp h
    cases he
    cases caller <;> cases wakes <;> cases pc' <;> exact .inl rfl
  case agent call pc =>
    obtain ⟨⟨sec', pc'⟩, stepped, he⟩ := Option.map_eq_some_iff.mp h
    cases he
    cases pc <;> try cases wakes
    case releaseReady l isReady =>
      cases isReady <;> cases wakes
      cases stepped
      exact .inl rfl
  all_goals cases wakes

end Steps

end Task

namespace SessionStore

/-- The row of a complete session that has neither started nor ended. -/
def Startable (store : SessionStore) : Prop :=
  store.row.lifecycle = .forming ∧ store.row.initializationComplete = true

variable {store : SessionStore}

theorem startSession_accepts (isOpen : store.Startable) (startedAt idleDeadlineAt : Timestamp) :
    (store.startSession startedAt idleDeadlineAt).2 = true := by
  simp only [startSession, isOpen.1, isOpen.2, and_self, if_true]

theorem insertEvents_row (records : List SessionEventRecord) (gameTimeMs : Int) :
    (store.insertEvents records gameTimeMs).row = store.row := by
  induction records generalizing store with
  | nil => rfl
  | cons record records ih => exact ih

/-- No transaction takes back that the session is complete. -/
theorem initialized_apply (update : Transaction)
    (initialized : store.row.initializationComplete = true) :
    (update.apply store).row.initializationComplete = true := by
  have terminal (store : SessionStore) (sessionEnd : SessionEnd) (now : Timestamp)
      (initialized : store.row.initializationComplete = true) :
      (store.persistTerminalValue sessionEnd now).row.initializationComplete = true := by
    simp only [persistTerminalValue]
    split <;> exact initialized
  cases update with
  | append record now => exact initialized
  | commit records sessionEnd now =>
    simp only [Transaction.apply, commitSessionTransition]
    have inserted (time : Int) :
        (store.insertEvents records time).row.initializationComplete = true := by
      rw [insertEvents_row]
      exact initialized
    split
    · exact initialized
    · split
      · exact initialized
      · cases sessionEnd with
        | none => exact inserted _
        | some e => exact terminal _ e now (inserted _)
  | endSession record sessionEnd now =>
    simp only [Transaction.apply, endSession]
    split
    · exact initialized
    · exact terminal _ sessionEnd now initialized
  | start startedAt idleDeadlineAt =>
    simp only [Transaction.apply, startSession]
    split <;> exact initialized
  | touch activityAt idleDeadlineAt =>
    simp only [Transaction.apply, touchSessionActivity]
    split <;> exact initialized
  | connection => exact initialized
  | addMember member =>
    simp only [Transaction.apply, addSessionParticipant]
    split <;> exact initialized

end SessionStore

/-- Only the start of a session takes a forming row to running. -/
theorem Transaction.eq_start {store : SessionStore} {update : Transaction}
    (forming : store.row.lifecycle = .forming)
    (runs : (update.apply store).row.lifecycle = .running) :
    ∃ startedAt idleDeadlineAt, update = .start startedAt idleDeadlineAt := by
  have unchanged (same : (update.apply store).row.lifecycle = store.row.lifecycle) : False := by
    rw [same, forming] at runs
    cases runs
  have ended (e : SessionEnd) (ends : (update.apply store).EndedWith e) : False := by
    rw [ends.1] at runs
    cases runs
  cases update with
  | start startedAt idleDeadlineAt => exact ⟨_, _, rfl⟩
  | append => exact (unchanged rfl).elim
  | commit records sessionEnd now =>
    rcases SessionStore.commitSessionTransition_cases records sessionEnd with same | ⟨-, e, -, ends⟩
    · exact (unchanged same.lifecycle).elim
    · exact (ended e ends).elim
  | endSession record sessionEnd now =>
    have unended : store.ended = false := by simp [SessionStore.ended, forming]
    exact (ended _ (SessionStore.endSession_open unended).2).elim
  | touch activityAt idleDeadlineAt =>
    refine (unchanged ?_).elim
    simp only [apply, SessionStore.touchSessionActivity]
    split <;> rfl
  | connection => exact (unchanged rfl).elim
  | addMember member =>
    refine (unchanged ?_).elim
    simp only [apply, SessionStore.addSessionParticipant]
    split <;> rfl

section Steps

variable {cell : Cell G} {pid : Nat} {input : Input} {sec : Section G} {task task' : Task G}
  {started : List (Task G)}

/-- A row that a step starts or ends leaves its task owing that to memory. -/
theorem Cell.startable_apply (isOpen : cell.store.Startable)
    (h : task.next config cell pid input = some (sec, task', started))
    (live : ∀ pc, task ≠ .finalize pc) :
    (cell.apply config sec).store.Startable ∨ task'.settling = true := by
  have unended : cell.store.ended = false := by simp [SessionStore.ended, isOpen.1]
  cases sec
  case transaction update =>
    rcases Transaction.apply_cases cell.store update with same | ⟨-, runs⟩ | ⟨-, e, -, ends⟩
    · exact .inl ⟨same.lifecycle.trans isOpen.1, SessionStore.initialized_apply update isOpen.2⟩
    · obtain ⟨startedAt, idleDeadlineAt, rfl⟩ := Transaction.eq_start isOpen.1 runs
      have accepted := SessionStore.startSession_accepts isOpen startedAt idleDeadlineAt
      exact .inr (by simp [Task.settling, Task.next_startRow h accepted])
    · have closed : (cell.apply config (.transaction update)).store.ended = true := ends.ended
      obtain ⟨e, owes, -⟩ := TerminalLifecycle.ending_of_ended unended closed
        (Task.next_ending h live)
      exact .inr (by simp [Task.settling, owes])
  all_goals exact .inl isOpen

/-- What a task owes to memory it goes on owing while the session there is still forming. -/
theorem Task.next_settling {session' : LiveSession G}
    (h : task.next config cell pid input = some (sec, task', started))
    (settles : task.settling = true) (here : (cell.apply config sec).session = some session')
    (forming : session'.lifecycle.isForming = true) : task'.settling = true := by
  obtain ⟨session, before, lifecycle⟩ := Cell.apply_lifecycle here
  have unwritten (written : SessionLifecycle) (forms : written.isForming = false) :
      sec.lifecycle ≠ some written := by
    intro writes
    rw [lifecycle, writes, Option.getD_some, forms] at forming
    cases forming
  simp only [settling, Bool.or_eq_true] at settles ⊢
  rcases settles with starts | owes
  · cases task <;> try cases starts
    rename_i caller pc
    cases pc <;> try cases starts
    cases h
    exact absurd rfl (unwritten .running rfl)
  · obtain ⟨e, owes⟩ := Option.isSome_iff_exists.mp owes
    have live (pc : FinalizePc) : task ≠ .finalize pc := by
      rintro rfl
      cases owes
    have kept := (next_ending h live).kept (by simp [before])
      (fun e => unwritten (.ended e) rfl) owes
    exact .inr (by simp [kept])

end Steps

/-- The database answers at every step, and start-up recovery is over. -/
structure Undisturbed (s : AudioRoom G) (a : AudioAction G) : Prop where
  storeOk : ∀ pid input, a = .task (.run pid input) → input.storeOk = true
  noRecovery : ∀ pid input pc, a = .task (.run pid input) →
    s.room.tasks[pid]? ≠ some (.finalize pc)

/--
No event task is aborted on its way to the start of a session that is ready, nor between the row's
start and memory's.
-/
structure StartsSpared (config : ExperimentConfig) (s : AudioRoom G) (a : AudioAction G) : Prop
    extends Undisturbed s a where
  spared : ∀ pid now task, a = .abort pid now → s.room.tasks[pid]? = some task →
    (task.waking = true → startable config s.room.shared.session = false) ∧
    (task.starting = true → s.room.shared.session.all fun session => !session.lifecycle.isForming)

/--
A forming session in memory has a task that is about to take it out of that state, or its row can
be started and, where its players are ready, a task is on its way to do so.
-/
def Attended (config : ExperimentConfig) (room : Pool (Cell G) (Task G)) : Prop :=
  ∀ session, room.shared.session = some session → session.lifecycle.isForming = true →
    room.Has (fun _ task => task.settling = true) ∨
    room.shared.store.Startable ∧
      (session.readyForGame config = true → room.Has fun _ task => task.waking = true)

namespace Attended

variable {cell : Cell G} {tasks started : List (Task G)} {pid : Nat} {input : Input}
  {sec : Section G} {task task' : Task G}

theorem after (attended : Attended config ⟨cell, tasks⟩) (ht : tasks[pid]? = some task)
    (storeOk : input.storeOk = true) (live : ∀ pc, task ≠ .finalize pc)
    (hn : task.next config cell pid input = some (sec, task', started)) :
    Attended config
      ⟨{ cell.apply config sec with clock := input.now }, tasks.set pid task' ++ started⟩ := by
  intro session' here forming'
  have self {p : Task G → Prop} (holds : p task') (shared : Cell G) :
      Pool.Has ⟨shared, tasks.set pid task' ++ started⟩ fun _ task => p task :=
    ⟨pid, task', Pool.self_after ht, holds⟩
  obtain ⟨session, before, step⟩ := Cell.apply_step here
  have forming : session.lifecycle.isForming = true := by
    cases writes : sec.lifecycle with
    | none => rwa [step.lifecycle, writes] at forming'
    | some written =>
      rw [step.lifecycle, writes, Option.getD_some] at forming'
      cases written <;> cases forming'
      exact absurd writes Section.lifecycle_ne_forming
  rcases attended session before forming with settling | ⟨isOpen, woken⟩
  · exact .inl (settling.after ht (fun settles => Task.next_settling hn settles here forming')
      fun _ _ _ kept => kept)
  rcases Cell.startable_apply isOpen hn live with isOpen' | settles
  · by_cases ready : session.readyForGame config = true
    · obtain ⟨q, u, hu, wakes⟩ := woken ready
      by_cases own : q = pid
      · subst own
        cases ht.symm.trans hu
        have due : startable config cell.session = true := by
          simp [startable, before, forming, ready]
        rcases Task.next_waking hn wakes storeOk due (SessionStore.startSession_accepts isOpen)
          with still | starts
        · exact .inr ⟨isOpen', fun _ => self still _⟩
        · exact .inl (self (by simp [Task.settling, starts]) _)
      · exact .inr ⟨isOpen', fun _ => ⟨q, u, Pool.other_after own hu, wakes⟩⟩
    · refine .inr ⟨isOpen', fun ready' => ?_⟩
      cases readies : sec.readies with
      | true => exact self (Task.next_readies hn readies) _
      | false => exact absurd (step.ready_before readies ready') ready
  · exact .inl (self settles _)

/-- An aborted event task takes nothing along that a forming session waits for. -/
theorem dropTask {s : AudioRoom G} {task : Task G} {id : ParticipantSessionId} {held : Option Nat}
    {now : Timestamp} (attended : Attended config s.room)
    (met : StartsSpared config s (.abort pid now))
    (ht : s.room.tasks[pid]? = some task) (handles : task.handlesEvent = some (id, held)) :
    Attended config (s.dropTask config pid id held now).room := by
  obtain ⟨due, halfway⟩ := met.spared pid now task rfl ht
  have memory :
      (AudioRoom.dropGuard config s.room.shared held).session = s.room.shared.session := by
    cases held <;> rfl
  have rows : (AudioRoom.dropGuard config s.room.shared held).store = s.room.shared.store := by
    cases held <;> rfl
  have others {p : Task G → Prop} (has : s.room.Has fun _ task => p task) (spared : ¬p task) :
      (s.dropTask config pid id held now).room.Has fun _ task => p task := by
    obtain ⟨q, u, hu, holds⟩ := has
    refine ⟨q, u, ?_, holds⟩
    rw [AudioRoom.dropTask, List.getElem?_set_ne]
    · exact hu
    · rintro rfl
      cases ht.symm.trans hu
      exact spared holds
  intro session here forming
  have here : s.room.shared.session = some session := memory.symm.trans here
  rcases attended session here forming with settling | ⟨isOpen, woken⟩
  · refine .inl (others settling fun settles => ?_)
    have quiet : task.ending = none := by
      cases task <;> first | rfl | cases handles
    simp only [Task.settling, quiet, Option.isSome_none, Bool.or_false] at settles
    have passed := halfway settles
    simp [here, forming] at passed
  · refine .inr ⟨?_, fun ready => others (woken ready) fun wakes => ?_⟩
    · exact ⟨(congrArg (·.row.lifecycle) rows).trans isOpen.1,
        (congrArg (·.row.initializationComplete) rows).trans isOpen.2⟩
    · have idle := due wakes
      simp [startable, here, forming, ready] at idle

theorem step {s s' : AudioRoom G} {a : AudioAction G} (attended : Attended config s.room)
    (met : StartsSpared config s a) (h : (audioEventMachine G config).step s a = some s') :
    Attended config s'.room := by
  cases a with
  | task action =>
    obtain ⟨room, stepped, rfl⟩ := Option.map_eq_some_iff.mp h
    rcases Program.step_cases stepped with ⟨task, rfl, enter, rfl⟩ |
      ⟨pid, input, task, cell', task', started, rfl, ht, hs, rfl⟩
    · intro session here forming
      rcases attended session here forming with settling | ⟨isOpen, woken⟩
      · exact .inl settling.append
      · exact .inr ⟨isOpen, fun ready => (woken ready).append⟩
    · obtain ⟨sec, hn, -, rfl⟩ := session_step hs
      refine attended.after ht (met.storeOk pid input rfl) (fun pc same => ?_) hn
      exact met.noRecovery pid input pc rfl (same ▸ ht)
  | close id now =>
    simp only [audioEventMachine, AudioRoom.step] at h
    split at h <;> cases h
    exact attended
  | abort pid now =>
    obtain ⟨task, ht, h⟩ := Option.bind_eq_some_iff.mp h
    obtain ⟨⟨id, held⟩, handles, h⟩ := Option.bind_eq_some_iff.mp h
    simp only at h
    split at h <;> cases h
    exact attended.dropTask met ht handles

theorem initially (creation : Creation G) : Attended config (creation.initial config) := by
  intro session here forming
  cases here
  refine .inr ⟨⟨rfl, rfl⟩, fun ready => ?_⟩
  have full := LiveSession.full_of_readyForGame ready .B
  cases full

theorem of_run {creation : Creation G} {transcribed : Bool} {s : AudioRoom G}
    (run : (audioEventMachine G config).Run (StartsSpared config)
      (.initial config transcribed creation) s) : Attended config s.room :=
  run.invariant (initially creation) fun attended met h => attended.step met h

end Attended

/-- A task at rest owes nothing to anybody. -/
theorem Task.resting_idle {task : Task G} (rests : task.resting = true) :
    task.waking = false ∧ task.settling = false := by
  unfold resting at rests
  split at rests <;> first | exact ⟨rfl, rfl⟩ | cases rests

/--
A forming session whose players are ready has a task that attends to it, as long as no event task
is aborted before it has started the game: no quiescent state leaves them waiting.
-/
theorem ready_sessions_start {creation : Creation G} {transcribed : Bool} {s : AudioRoom G}
    (run : (audioEventMachine G config).Run (StartsSpared config)
      (.initial config transcribed creation) s) (quiet : s.quiescent = true) :
    ∀ session, s.room.shared.session = some session → session.lifecycle.isForming = true →
      session.readyForGame config = false := by
  intro session here forming
  have idle {p : Task G → Bool} (rests : ∀ task, task.resting = true → p task = false) :
      ¬s.room.Has fun _ task => p task = true := by
    intro ⟨pid, task, ht, holds⟩
    have mem := List.mem_of_getElem? ht
    exact absurd holds (by simp [rests task (List.all_eq_true.mp quiet task mem)])
  rcases Attended.of_run run session here forming with settling | ⟨-, woken⟩
  · exact absurd settling (idle fun task rests => (Task.resting_idle rests).2)
  · cases ready : session.readyForGame config with
    | false => rfl
    | true => exact absurd (woken ready) (idle fun task rests => (Task.resting_idle rests).1)

namespace TallyAction

/-- An experiment whose games wait for both players' transcription. -/
def transcribing : ExperimentConfig := { transcription := { enabled := true } }

/-- Both humans join and connect, and A's transcription is ready; tasks 0 to 3 are used up. -/
def waitingForAudio : List TallyAction :=
  [.spawn (.pair (human 2) .find)] ++ steps 0 6 0 ++
  [.spawn (.socket ⟨.human 1, .A⟩ .register)] ++ steps 1 10 0 ++
  [.spawn (.socket ⟨.human 2, .B⟩ .register)] ++ steps 2 10 0 ++
  [.spawn (.audio (.human 1) .mark)] ++ steps 3 5 0

/-- B's audio connection closes; its last event comes within five seconds and is cut off. -/
def cutMark : List (AudioAction tallyGame) :=
  waitingForAudio.map .task ++ [.close (.human 2) 0] ++
  ([.spawn (.audio (.human 2) .mark)] ++ steps 4 1 4000000000 : List TallyAction).map .task ++
  [.abort 4 5000000000]

def undisturbed (s : AudioRoom tallyGame) : AudioAction tallyGame → Bool
  | .task (.run pid input) => input.storeOk && match s.room.tasks[pid]? with
    | some (.finalize _) => false
    | _ => true
  | _ => true

theorem undisturbed_sound {s : AudioRoom tallyGame} {a : AudioAction tallyGame}
    (h : undisturbed s a = true) : Undisturbed s a := by
  constructor
  · intro pid input same
    subst same
    exact (Bool.and_eq_true_iff.mp h).1
  · intro pid input pc same ht
    subst same
    simp [undisturbed, ht] at h

def undisturbedTask (s : AudioRoom tallyGame) : AudioAction tallyGame → Bool
  | .abort _ _ => false
  | a => undisturbed s a

theorem undisturbedTask_sound {s : AudioRoom tallyGame} {a : AudioAction tallyGame}
    (h : undisturbedTask s a = true) : StartsSpared transcribing s a := by
  have met : undisturbed s a = true := by
    cases a <;> first | exact h | cases h
  refine ⟨undisturbed_sound met, fun pid now task same => ?_⟩
  subst same
  cases h

/-- Whether the session in memory is forming, and what it says of its players' readiness. -/
def waiting (s : AudioRoom tallyGame) : Option (Bool × Bool) :=
  s.room.shared.session.map fun session =>
    (session.lifecycle.isForming, session.readyForGame transcribing)

end TallyAction

/-- One player's transcription is ready and the other's is not: the session waits, and rightly. -/
theorem ready_sessions_start_waiting :
    ∃ (s : AudioRoom tallyGame) (session : LiveSession tallyGame), s.quiescent = true ∧
      s.room.shared.session = some session ∧ session.lifecycle.isForming = true ∧
      session.readyForGame TallyAction.transcribing = false := by
  have h : (((audioEventMachine tallyGame TallyAction.transcribing).restrict
      TallyAction.undisturbedTask).exec
        (.initial TallyAction.transcribing true TallyAction.creation)
        (TallyAction.waitingForAudio.map .task)).map
          (fun s => (s.quiescent, TallyAction.waiting s)) = some (true, some (true, false)) := rfl
  obtain ⟨s, hs, seen⟩ := Option.map_eq_some_iff.mp h
  obtain ⟨quiet, seen⟩ := Prod.mk.inj seen
  obtain ⟨session, here, seen⟩ := Option.map_eq_some_iff.mp seen
  have forming := (Prod.mk.inj seen).1
  exact ⟨s, session, quiet, here, forming,
    ready_sessions_start (.of_exec (fun _ _ => TallyAction.undisturbedTask_sound) hs) quiet
      session here forming⟩

/--
A player's audio closes just before his transcription reports that it is ready. The event is
handled and marks him, and the task is aborted before it calls `maybe_start_game`: both players are
ready, nothing is in progress, and the session is still forming.
-/
theorem ready_session_left_waiting :
    ∃ s session, (audioEventMachine tallyGame TallyAction.transcribing).Run Undisturbed
        (.initial TallyAction.transcribing true TallyAction.creation) s ∧
      s.quiescent = true ∧ s.room.shared.session = some session ∧
      session.lifecycle.isForming = true ∧
      session.readyForGame TallyAction.transcribing = true := by
  have h : (((audioEventMachine tallyGame TallyAction.transcribing).restrict
      TallyAction.undisturbed).exec (.initial TallyAction.transcribing true TallyAction.creation)
        TallyAction.cutMark).map (fun s => (s.quiescent, TallyAction.waiting s)) =
      some (true, some (true, true)) := rfl
  obtain ⟨s, hs, seen⟩ := Option.map_eq_some_iff.mp h
  obtain ⟨quiet, seen⟩ := Prod.mk.inj seen
  obtain ⟨session, here, seen⟩ := Option.map_eq_some_iff.mp seen
  obtain ⟨forming, ready⟩ := Prod.mk.inj seen
  exact ⟨s, session, .of_exec (fun _ _ => TallyAction.undisturbed_sound) hs, quiet, here, forming,
    ready⟩

end Parlando
