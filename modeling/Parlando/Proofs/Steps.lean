import Parlando.Proofs.SessionStep
import Parlando.SessionSystem

namespace Parlando

open Concurrency

variable {G : Game} {config : ExperimentConfig}

theorem session_entry {cell : Cell G} {task : Task G}
    (h : (sessionProgram G config).entry cell task = true) :
    task.entry = true ∧ task.admitted config cell = true := Bool.and_eq_true_iff.mp h

/-- A step of the session program is the step of a task at a time the clock allows. -/
theorem session_step {cell cell' : Cell G} {pid : Nat} {task task' : Task G} {input : Input}
    {started : List (Task G)}
    (h : (sessionProgram G config).step cell pid task input = some (cell', task', started)) :
    ∃ sec, task.next config cell pid input = some (sec, task', started) ∧
      cell.clock ≤ input.now ∧ cell' = { cell.apply config sec with clock := input.now } := by
  change (if input.now < cell.clock then none else _) = some _ at h
  split at h
  · cases h
  · rename_i late
    obtain ⟨⟨sec, t, ts⟩, hn, he⟩ := Option.map_eq_some_iff.mp h
    cases he
    exact ⟨sec, hn, Int.not_lt.mp late, rfl⟩

inductive Kind where
  | skip
  | fetchLock
  | acquire
  | release
  | dropLock
  | dropConnections
  | register
  | unregister
  | connect
  | disconnect
  | pause
  | start
  | transition
  | terminate
  | touch
  | addHuman
  | attachAgent
  | detachAgent
  | agentReady
  | audioReady
  | remove
  | appendRow
  | commitRow
  | endRow
  | startRow
  | touchRow
  | connectionRow
  | memberRow
  deriving DecidableEq, Repr

def MemorySection.kind : MemorySection G → Kind
  | connect _ _ => .connect
  | disconnect _ _ _ => .disconnect
  | pause _ => .pause
  | start _ _ => .start
  | transition _ _ _ _ => .transition
  | terminate _ _ => .terminate
  | touch _ _ => .touch
  | addHuman _ _ => .addHuman
  | attachAgent _ _ => .attachAgent
  | detachAgent _ => .detachAgent
  | agentReady _ _ => .agentReady
  | audioReady _ _ => .audioReady
  | remove => .remove

def Transaction.kind : Transaction → Kind
  | append _ _ => .appendRow
  | commit _ _ _ => .commitRow
  | endSession _ _ _ => .endRow
  | start _ _ => .startRow
  | touch _ _ => .touchRow
  | connection _ _ _ _ => .connectionRow
  | addMember _ => .memberRow

def Section.kind : Section G → Kind
  | skip => .skip
  | memory update => update.kind
  | transaction update => update.kind
  | fetchLock => .fetchLock
  | acquire _ _ => .acquire
  | release _ => .release
  | dropLock => .dropLock
  | dropConnections => .dropConnections
  | register _ => .register
  | unregister _ _ => .unregister

namespace Task

def kinds : Task G → List Kind
  | submit _ _ => [.skip, .fetchLock, .acquire, .release, .commitRow, .transition, .touch, .touchRow]
  | abandon _ _ _ _ => [.skip, .fetchLock, .acquire, .release, .endRow, .terminate]
  | expire _ _ _ => [.skip, .endRow, .terminate]
  | start _ _ => [.skip, .fetchLock, .acquire, .release, .startRow, .start]
  | event _ _ _ => [.skip, .appendRow]
  | socket _ _ =>
    [.skip, .register, .unregister, .connect, .disconnect, .pause, .connectionRow]
  | timer _ _ _ => [.skip]
  | cleanup _ => [.skip, .remove, .dropLock, .dropConnections]
  | finalize _ => [.skip, .endRow]
  | pair _ _ => [.skip, .addHuman]
  | admission _ _ => [.skip, .memberRow]
  | agent _ _ => [.skip, .fetchLock, .acquire, .release, .attachAgent, .detachAgent, .agentReady,
      .memberRow]
  | audio _ _ => [.audioReady]
  | touch _ => [.skip, .touch, .touchRow]

/-- A task takes only steps of its procedure's kinds. -/
theorem next_kind {cell : Cell G} {pid : Nat} {input : Input} {sec : Section G}
    {task task' : Task G} {started : List (Task G)}
    (h : task.next config cell pid input = some (sec, task', started)) :
    sec.kind ∈ task.kinds := by
  cases task
  all_goals
    obtain ⟨⟨sec', pc'⟩, hs, he⟩ := Option.map_eq_some_iff.mp h
    cases he
    rename_i pc
    cases pc
  all_goals
    simp only [SubmitPc.step, AbandonPc.step, ExpirePc.step, StartPc.step, EventPc.step,
      SocketPc.step, TimerPc.step, CleanupPc.step, FinalizePc.step, PairPc.step, AdmitPc.step, AgentPc.step,
      AudioPc.step, TouchPc.step] at hs
    repeat' first | split at hs | cases hs
  all_goals simp [kinds, Section.kind, MemorySection.kind, Transaction.kind]

/-- The only tasks a step starts are the reconnect timers of pause sections. -/
theorem mem_started {cell : Cell G} {pid : Nat} {input : Input} {sec : Section G}
    {task task' u : Task G} {started : List (Task G)}
    (h : task.next config cell pid input = some (sec, task', started)) (mem : u ∈ started) :
    ∃ call deadline, task = socket call (.pause deadline) ∧
      u = timer call.participantSessionId deadline
        (.sleeping (input.now + Timestamp.seconds config.graceSeconds)) := by
  cases task
  all_goals
    obtain ⟨⟨sec', pc'⟩, hs, he⟩ := Option.map_eq_some_iff.mp h
    cases he
  case socket call pc =>
    cases pc <;> simp [armed] at mem
    exact ⟨call, _, rfl, mem⟩
  all_goals cases mem

end Task

/-- A game that adds up the amounts played and is over at ten. -/
def tallyGame : Game where
  State := Nat
  Action := Nat
  Observation := Nat
  Completion := Nat
  applyAction tally amount _ := .ok (tally + amount)
  observation tally _ := tally
  completion tally := if 10 ≤ tally then some tally else none
  stateJson tally := .ok (.int tally)
  actionJson amount := .ok (.int amount)
  observationJson tally := .ok (.int tally)
  completionJson tally := .ok (.int tally)

abbrev TallyAction := Pool.Action (Task tallyGame) Input

namespace TallyAction

/-- A participant of the tally sessions. -/
def human (serial : Nat) : ParticipantSession := ⟨.human serial, serial, .direct, .research⟩

theorem human_isHuman (serial : Nat) : (human serial).id.isHuman = true := rfl

theorem human_notAgent (serial : Nat) : (human serial).source ≠ .agent := by
  intro same
  cases same

def creation : Creation tallyGame where
  participant := human 1
  sessionId := 1
  publicSessionId := "room"
  seed := 7
  state := (0 : Nat)
  createdAt := 0
  isHuman := rfl
  notAgent := by decide
  durable := by decide

def steps (pid count : Nat) (now : Timestamp) : List TallyAction :=
  List.replicate count (.run pid { now })

/-- Both humans join and connect, and the game starts; tasks 0, 1 and 2 are used up. -/
def opening : List TallyAction :=
  [.spawn (.pair (human 2) .find)] ++ steps 0 6 0 ++
  [.spawn (.socket ⟨.human 1, .A⟩ .register)] ++ steps 1 10 0 ++
  [.spawn (.socket ⟨.human 2, .B⟩ .register)] ++ steps 2 12 0

def closing (pid : Nat) (now : Timestamp) : List TallyAction := steps pid 7 now

def reconnecting (pid : Nat) (now : Timestamp) : List TallyAction :=
  .spawn (.socket ⟨.human 1, .A⟩ .register) :: steps pid 6 now

def rowCause (w : Pool (Cell tallyGame) (Task tallyGame)) : Option SessionEndCause :=
  w.shared.store.row.sessionEnd.map SessionEnd.cause

end TallyAction

end Parlando
