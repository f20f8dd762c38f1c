import Parlando.Proofs.Steps
import Parlando.Proofs.Store

namespace Parlando

open Concurrency

variable {G : Game}

/-- A record tells that a call's action was accepted and led to the transition's state. -/
structure AcceptedRecord (call : SubmitCall G) (transition : Transition G)
    (record : SessionEventRecord) : Prop where
  accepted : record.isAccepted = true
  payload : call.acceptedPayload transition = .ok record.payload
  gameState : record.gameState = some transition.storedGameState
  json : G.stateJson transition.after = .ok transition.storedGameState

def Transition.Stored (transition : Transition G) : Prop :=
  G.stateJson transition.after = .ok transition.storedGameState

def SubmitPc.Logs (call : SubmitCall G) : SubmitPc G → Prop
  | finish _ t _ | record _ t _ => t.Stored
  | recordCompleted _ t _ _ accepted => AcceptedRecord call t accepted
  | commit _ t _ records => ∃ accepted rest, records = accepted :: rest ∧
      AcceptedRecord call t accepted ∧ ∀ record ∈ rest, record.isAccepted = false
  | _ => True

def Task.Logs : Task G → Prop
  | submit call pc => pc.Logs call
  | abandon _ _ _ (.commit _ _ record) => record.isAccepted = false
  | event call _ pc => (call.eventType == "game_action_accepted") = false ∧
      ∀ record, pc = .append record → record.isAccepted = false
  | _ => True

theorem sessionEventRecord_eventType {session : Option (LiveSession G)}
    {actor : Option ParticipantSessionId} {eventType : String} {payload : Value}
    {gameState : Option Value} {record : SessionEventRecord}
    (h : sessionEventRecord session actor eventType payload gameState = .ok record) :
    record.eventType = eventType ∧ record.payload = payload ∧ record.gameState = gameState := by
  unfold sessionEventRecord at h
  repeat' first | split at h | cases h | exact ⟨rfl, rfl, rfl⟩

theorem SubmitCall.acceptedRecord_ok {call : SubmitCall G} {transition : Transition G}
    {session : Option (LiveSession G)} {record : SessionEventRecord} (stored : transition.Stored)
    (h : call.acceptedRecord transition session = .ok record) :
    AcceptedRecord call transition record := by
  unfold acceptedRecord at h
  cases hp : call.acceptedPayload transition with
  | error message =>
    rw [hp] at h
    cases h
  | ok payload =>
    rw [hp] at h
    obtain ⟨type, hpayload, state⟩ := sessionEventRecord_eventType h
    exact ⟨by simp [SessionEventRecord.isAccepted, type], by rw [hpayload, hp], state, stored⟩

theorem SubmitCall.check_stored {config : ExperimentConfig} {call : SubmitCall G}
    {session : Option (LiveSession G)} {transition : Transition G}
    (h : call.check config session = .ok transition) : transition.Stored := by
  unfold check at h
  repeat' first | split at h | cases h
  assumption

section Steps

variable {config : ExperimentConfig} {cell : Cell G} {pid : Nat} {input : Input}
  {sec : Section G} {task task' : Task G} {started : List (Task G)}

theorem SubmitPc.step_logs {call : SubmitCall G} {pc pc' : SubmitPc G} (logs : pc.Logs call)
    (h : pc.step config call cell pid input = some (sec, pc')) : pc'.Logs call := by
  cases pc <;> simp only [step] at h
  case check l =>
    split at h
    · cases h
      trivial
    · rename_i ok
      split at h <;> cases h <;> exact SubmitCall.check_stored ok
  case finish l t completion =>
    repeat' first | split at h | cases h | exact logs | trivial
  case record l t sessionEnd =>
    split at h
    · cases h
      trivial
    · rename_i accepted ok
      have accepted := SubmitCall.acceptedRecord_ok logs ok
      split at h
      · cases h
        exact accepted
      · cases h
        exact ⟨_, [], rfl, accepted, by simp⟩
  case recordCompleted l t sessionEnd completion accepted =>
    split at h
    · cases h
      trivial
    · rename_i completed ok
      cases h
      refine ⟨accepted, [completed], rfl, logs, ?_⟩
      obtain ⟨type, -, -⟩ := sessionEventRecord_eventType ok
      simp [SessionEventRecord.isAccepted, type]
  all_goals repeat' first | split at h | cases h | trivial

theorem EventPc.step_logs {call : EventCall} {pc pc' : EventPc}
    (other : (call.eventType == "game_action_accepted") = false)
    (h : pc.step call cell input = some (sec, pc')) :
    ∀ record, pc' = .append record → record.isAccepted = false := by
  rintro record rfl
  cases pc <;> simp only [step] at h
  case record =>
    split at h
    · cases h
    · rename_i event ok
      cases h
      obtain ⟨type, -, -⟩ := sessionEventRecord_eventType ok
      simpa [SessionEventRecord.isAccepted, type] using other
  all_goals cases h

theorem AbandonPc.step_logs {id : ParticipantSessionId} {reason : EndReason}
    {pc pc' : AbandonPc} (h : pc.step config id reason cell pid input = some (sec, pc')) :
    ∀ lock sessionEnd record, pc' = .commit lock sessionEnd record →
      record.isAccepted = false := by
  rintro lock sessionEnd record rfl
  cases pc <;> simp only [step] at h
  case record =>
    split at h
    · cases h
    · rename_i event ok
      cases h
      obtain ⟨type, -, -⟩ := sessionEventRecord_eventType ok
      simp [SessionEventRecord.isAccepted, type]
  all_goals repeat' first | split at h | cases h

namespace Task

theorem logs_of_entry (h : task.entry = true) : task.Logs := by
  unfold entry at h
  split at h <;> first
    | trivial
    | exact ⟨by simpa using h, by simp⟩

theorem logs_ofSocket (call : SocketCall) (pc : SocketPc) : (ofSocket call pc : Task G).Logs := by
  cases pc <;> first | trivial | exact ⟨rfl, by simp⟩

theorem logs_ofAgent (call : AgentCall) (pc : AgentPc) : (ofAgent call pc : Task G).Logs := by
  cases pc <;> first | trivial | exact ⟨rfl, by simp⟩

theorem logs_ofEvent {call : EventCall} {caller : EventCaller} {pc : EventPc}
    (other : (call.eventType == "game_action_accepted") = false)
    (records : ∀ record, pc = .append record → record.isAccepted = false) :
    (ofEvent config call caller pc : Task G).Logs := by
  cases pc with
  | returned =>
    cases caller with
    | disconnected call deadline => exact logs_ofSocket _ _
    | agentConnected call l => exact ⟨rfl, by simp⟩
    | detached => exact ⟨other, records⟩
    | _ => trivial
  | _ => cases caller <;> exact ⟨other, records⟩

theorem next_logs (logs : task.Logs)
    (h : task.next config cell pid input = some (sec, task', started)) : task'.Logs := by
  cases task
  all_goals
    obtain ⟨⟨sec', pc'⟩, hs, he⟩ := Option.map_eq_some_iff.mp h
    cases he
  case submit => exact SubmitPc.step_logs logs hs
  case event => exact logs_ofEvent logs.1 (EventPc.step_logs logs.1 hs)
  case socket => exact logs_ofSocket _ _
  case agent => exact logs_ofAgent _ _
  case abandon id reason caller pc =>
    have records := AbandonPc.step_logs hs
    cases caller <;> cases pc' <;> first | trivial | exact records _ _ _ rfl
  case expire reason caller pc => cases caller <;> cases pc' <;> trivial
  case start caller pc => cases caller <;> cases pc' <;> trivial
  case admission participant pc => cases pc' <;> first | trivial | exact ⟨rfl, by simp⟩
  case finalize => trivial
  case touch => trivial
  all_goals cases pc' <;> trivial

/-- A task in a `submit_action` call got there by a step of that call. -/
theorem next_submit {call : SubmitCall G} {pc' : SubmitPc G}
    (h : task.next config cell pid input = some (sec, submit call pc', started)) :
    ∃ pc, task = submit call pc ∧ pc.step config call cell pid input = some (sec, pc') := by
  cases task
  all_goals
    obtain ⟨⟨sec', pc''⟩, hs, he⟩ := Option.map_eq_some_iff.mp h
    simp only [Prod.mk.injEq] at he
    obtain ⟨rfl, he, -⟩ := he
  case submit =>
    cases he
    exact ⟨_, rfl, hs⟩
  case abandon id reason caller pc => cases caller <;> cases pc'' <;> cases he
  case expire reason caller pc => cases caller <;> cases pc'' <;> cases he
  case start caller pc => cases caller <;> cases pc'' <;> cases he
  case event call caller pc =>
    cases caller <;> cases pc'' <;> try cases he
    simp only [ofEvent, SocketPc.afterDisconnect] at he
    split at he <;> cases he
  case finalize => cases he
  case touch => cases he
  all_goals cases pc'' <;> cases he

/-- Only a `submit_action` call commits a transition, and it then stands before its write. -/
theorem next_commit {records : List SessionEventRecord} {sessionEnd : Option SessionEnd}
    {now : Timestamp}
    (h : task.next config cell pid input =
      some (.transaction (.commit records sessionEnd now), task', started)) :
    ∃ call l t, task = submit call (.commit l t sessionEnd records) ∧
      task' = submit call (.write l t sessionEnd) ∧ now = input.now := by
  have kind := next_kind h
  cases task <;> simp [kinds, Section.kind, Transaction.kind] at kind
  obtain ⟨⟨sec', pc'⟩, hs, he⟩ := Option.map_eq_some_iff.mp h
  rename_i pc
  cases pc <;> simp only [SubmitPc.step] at hs <;>
    repeat' first | split at hs | cases hs | cases he
  exact ⟨_, _, _, rfl, rfl, rfl⟩

/-- Only a `submit_action` call applies a transition to memory, and it then no longer stands before its write. -/
theorem next_transition {after : G.State} {sessionEnd : Option SessionEnd}
    {completedAt : Timestamp} {voiceEndsAt : Option Timestamp}
    (h : task.next config cell pid input =
      some (.memory (.transition after sessionEnd completedAt voiceEndsAt), task', started)) :
    ∃ call l t, task = submit call (.write l t sessionEnd) ∧ after = t.after := by
  have kind := next_kind h
  cases task <;> simp [kinds, Section.kind, MemorySection.kind] at kind
  obtain ⟨⟨sec', pc'⟩, hs, he⟩ := Option.map_eq_some_iff.mp h
  rename_i pc
  cases pc <;> simp only [SubmitPc.step] at hs <;>
    repeat' first | split at hs | cases hs | cases he
  all_goals exact ⟨_, _, _, rfl, rfl⟩

/-- No other transaction writes an accepted action. -/
theorem next_quiet {update : Transaction} (logs : task.Logs)
    (h : task.next config cell pid input = some (.transaction update, task', started))
    (other : ∀ records sessionEnd now, update ≠ .commit records sessionEnd now) :
    update.Quiet := by
  have kind := next_kind h
  cases update <;> try trivial
  case append record now =>
    cases task <;> simp [kinds, Section.kind, Transaction.kind] at kind
    obtain ⟨⟨sec', pc'⟩, hs, he⟩ := Option.map_eq_some_iff.mp h
    rename_i pc
    cases pc <;> simp only [EventPc.step] at hs <;>
      repeat' first | split at hs | cases hs | cases he
    exact logs.2 _ rfl
  case commit records sessionEnd now => exact absurd rfl (other records sessionEnd now)
  case endSession record sessionEnd now =>
    cases task <;> simp [kinds, Section.kind, Transaction.kind] at kind
    all_goals
      obtain ⟨⟨sec', pc'⟩, hs, he⟩ := Option.map_eq_some_iff.mp h
      rename_i pc
    case abandon =>
      cases pc <;> simp only [AbandonPc.step] at hs <;>
        repeat' first | split at hs | cases hs | cases he
      all_goals exact logs
    case expire =>
      cases pc <;> simp only [ExpirePc.step] at hs <;>
        repeat' first | split at hs | cases hs | cases he | rfl
    case finalize =>
      cases pc <;> simp only [FinalizePc.step] at hs <;>
        repeat' first | split at hs | cases hs | cases he | rfl

/-- The log changes only when a transition is committed. -/
theorem next_acceptedActions (logs : task.Logs)
    (h : task.next config cell pid input = some (sec, task', started))
    (other : ∀ records sessionEnd now, sec ≠ .transaction (.commit records sessionEnd now)) :
    (cell.apply config sec).store.acceptedActions = cell.store.acceptedActions := by
  cases sec
  case transaction update =>
    exact (next_quiet logs h fun records sessionEnd now same =>
      other records sessionEnd now (by rw [same])).acceptedActions
  all_goals rfl

end Task

end Steps

/-- Every task stays true to its procedure in what it is about to log. -/
theorem logs_valid {config : ExperimentConfig} {creation : Creation G}
    {guard : Pool (Cell G) (Task G) → Pool.Action (Task G) Input → Prop}
    {w : Pool (Cell G) (Task G)}
    (run : (sessionMachine G config).Run guard (creation.initial config) w) :
    w.Each fun _ task => task.Logs := by
  refine run.invariant (fun _ _ ht => by cases ht) fun logs _ h => ?_
  rcases Program.step_cases h with ⟨task, -, enter, rfl⟩ |
    ⟨pid, input, task, cell', task', started, rfl, ht, hs, rfl⟩
  · exact logs.append (fun _ _ h => h) fun _ => Task.logs_of_entry (session_entry enter).1
  · obtain ⟨sec, hn, -, rfl⟩ := session_step hs
    refine .after (Task.next_logs (logs pid task ht) hn) (fun q u _ hu => logs q u hu) ?_
    intro u mem _
    obtain ⟨call, deadline, -, rfl⟩ := Task.mem_started hn mem
    trivial

end Parlando
