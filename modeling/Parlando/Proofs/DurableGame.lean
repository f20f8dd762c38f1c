import Parlando.Proofs.TransitionLock
import Parlando.Proofs.Logs

namespace Parlando

open Concurrency

variable {G : Game}

/-- A state is the one a log of accepted actions tells: the last one stored, or the initial one. -/
def DurableState (G : Game) (initial : G.State) (log : List SessionEventRecord)
    (state : G.State) : Prop :=
  match log.getLast? with
  | none => state = initial
  | some record => ∃ json, G.stateJson state = .ok json ∧ record.gameState = some json

theorem AcceptedRecord.durableState {call : SubmitCall G} {transition : Transition G}
    {record : SessionEventRecord} (h : AcceptedRecord call transition record) (initial : G.State)
    (log : List SessionEventRecord) :
    DurableState G initial (log ++ [record]) transition.after := by
  simp only [DurableState, List.getLast?_concat]
  exact ⟨_, h.json, h.gameState⟩

section Steps

variable {config : ExperimentConfig} {cell : Cell G} {pid : Nat} {input : Input}
  {sec : Section G} {task task' : Task G} {started : List (Task G)}

/-- Memory keeps the game state through every section but a transition's. -/
theorem Cell.apply_state {session' : LiveSession G}
    (h : (cell.apply config sec).session = some session')
    (other : ∀ after sessionEnd completedAt voiceEndsAt,
      sec ≠ .memory (.transition after sessionEnd completedAt voiceEndsAt)) :
    ∃ session, cell.session = some session ∧ session'.state = session.state := by
  cases sec
  case memory update =>
    obtain ⟨session, hs, hu⟩ := Option.bind_eq_some_iff.mp h
    refine ⟨session, hs, ?_⟩
    cases update <;> simp only [MemorySection.apply] at hu
    case transition after sessionEnd completedAt voiceEndsAt => exact absurd rfl (other _ _ _ _)
    case connect id now =>
      cases hu
      unfold LiveSession.connectParticipant
      dsimp only
      split <;> rfl
    case pause deadline =>
      cases hu
      unfold LiveSession.pauseForReconnect
      split <;> rfl
    case addHuman participant now =>
      split at hu <;> cases hu
      · rename_i ok
        unfold LiveSession.addHumanParticipant at ok
        repeat' first | split at ok | cases ok | rfl
      · rfl
    case attachAgent agent now =>
      split at hu <;> cases hu
      · rename_i ok
        unfold LiveSession.attachAgent at ok
        repeat' first | split at ok | cases ok | rfl
      · rfl
    all_goals first | cases hu; rfl | cases hu
  all_goals exact ⟨session', h, rfl⟩

namespace SubmitPc

/-- The transition a call has committed but not yet applied to memory. -/
def writing : SubmitPc G → Option (Transition G)
  | write _ t _ => some t
  | _ => none

def committed : SubmitPc G → Option (Transition G)
  | write _ t _ | touch _ t | touchStore _ t _ | release _ (.ok t) | returned (.ok t) => some t
  | _ => none

variable {call : SubmitCall G} {pc pc' : SubmitPc G} {t : Transition G}

theorem step_committed (h : pc.step config call cell pid input = some (sec, pc'))
    (done : pc'.committed = some t) :
    pc.committed = some t ∨
      ∃ l records sessionEnd, pc = commit l t sessionEnd records ∧
        sec = .transaction (.commit records sessionEnd input.now) := by
  cases pc <;> simp only [step] at h
  case release l result =>
    cases h
    cases result with
    | error error => cases done
    | ok t => exact .inl done
  all_goals
    repeat' first | split at h | cases h
  all_goals first
    | exact .inl done
    | (cases done; exact .inr ⟨_, _, _, rfl, rfl⟩)
    | cases done

/-- A call reaches the point before its write only by its commit. -/
theorem step_writing (h : pc.step config call cell pid input = some (sec, pc'))
    (ahead : pc'.writing = some t) :
    ∃ records sessionEnd, sec = .transaction (.commit records sessionEnd input.now) := by
  cases pc <;> simp only [step] at h <;>
    repeat' first | split at h | cases h | cases ahead
  exact ⟨_, _, rfl⟩

/-- A call leaves that point by its write, unless the session is gone. -/
theorem writing_step (h : pc.step config call cell pid input = some (sec, pc'))
    (ahead : pc.writing = some t) :
    cell.session = none ∨ ∃ sessionEnd completedAt voiceEndsAt,
      sec = .memory (.transition t.after sessionEnd completedAt voiceEndsAt) := by
  cases pc <;> cases ahead
  simp only [step] at h
  split at h
  · rename_i gone
    exact .inl gone
  · cases h
    exact .inr ⟨_, _, _, rfl⟩

theorem lockUse_of_writing (ahead : pc.writing = some t) : ∃ l, pc.lockUse = .holding l := by
  cases pc <;> cases ahead
  exact ⟨_, rfl⟩

end SubmitPc

namespace Task

/-- The transition a task has committed but not yet applied to memory. -/
def writing : Task G → Option (Transition G)
  | submit _ pc => pc.writing
  | _ => none

def committed : Task G → Option (SubmitCall G × Transition G)
  | submit call pc => pc.committed.map fun t => (call, t)
  | _ => none

theorem committed_submit {call : SubmitCall G} {t : Transition G}
    (h : task.committed = some (call, t)) :
    ∃ pc, task = submit call pc ∧ pc.committed = some t := by
  cases task <;> try cases h
  obtain ⟨t', ht, he⟩ := Option.map_eq_some_iff.mp h
  cases he
  exact ⟨_, rfl, ht⟩

theorem writing_submit {t : Transition G} (h : task.writing = some t) :
    ∃ call pc, task = submit call pc ∧ pc.writing = some t := by
  cases task <;> try cases h
  exact ⟨_, _, rfl, h⟩

theorem next_committed {call : SubmitCall G} {t : Transition G}
    (h : task.next config cell pid input = some (sec, task', started))
    (done : task'.committed = some (call, t)) :
    task.committed = some (call, t) ∨
      ∃ l records sessionEnd, task = submit call (.commit l t sessionEnd records) ∧
        sec = .transaction (.commit records sessionEnd input.now) := by
  obtain ⟨pc', rfl, done'⟩ := committed_submit done
  obtain ⟨pc, rfl, hs⟩ := next_submit h
  rcases SubmitPc.step_committed hs done' with before | ⟨l, records, sessionEnd, rfl, rfl⟩
  · exact .inl (by simp [committed, before])
  · exact .inr ⟨l, records, sessionEnd, rfl, rfl⟩

theorem next_writing {t : Transition G}
    (h : task.next config cell pid input = some (sec, task', started))
    (ahead : task'.writing = some t) :
    ∃ records sessionEnd, sec = .transaction (.commit records sessionEnd input.now) := by
  obtain ⟨call, pc', rfl, ahead⟩ := writing_submit ahead
  obtain ⟨pc, rfl, hs⟩ := next_submit h
  exact SubmitPc.step_writing hs ahead

theorem writing_next {t : Transition G}
    (h : task.next config cell pid input = some (sec, task', started))
    (ahead : task.writing = some t) :
    cell.session = none ∨ ∃ sessionEnd completedAt voiceEndsAt,
      sec = .memory (.transition t.after sessionEnd completedAt voiceEndsAt) := by
  obtain ⟨call, pc, rfl, ahead⟩ := writing_submit ahead
  obtain ⟨⟨sec', pc'⟩, hs, he⟩ := Option.map_eq_some_iff.mp h
  cases he
  exact SubmitPc.writing_step hs ahead

theorem lockUse_of_writing {t : Transition G} (ahead : task.writing = some t) :
    ∃ l, task.lockUse = .holding l := by
  obtain ⟨call, pc, rfl, ahead⟩ := writing_submit ahead
  exact SubmitPc.lockUse_of_writing ahead

theorem writing_of_entry (h : task.entry = true) :
    task.writing = none ∧ task.committed = none := by
  unfold entry at h
  split at h <;> first | exact ⟨rfl, rfl⟩ | cases h

end Task

end Steps

structure DurableGame (initial : G.State) (w : Pool (Cell G) (Task G)) : Prop where
  /-- Between its commit and its write a submission is ahead of memory. -/
  writing : w.shared.session.isSome → w.Each fun _ task => ∀ t, task.writing = some t →
    DurableState G initial w.shared.store.acceptedActions t.after
  settled : ∀ session, w.shared.session = some session →
    (w.Each fun _ task => task.writing = none) →
      DurableState G initial w.shared.store.acceptedActions session.state
  logged : w.Each fun _ task => ∀ call t, task.committed = some (call, t) →
    ∃ record ∈ w.shared.store.acceptedActions, AcceptedRecord call t record

def CommitsOpenRow (w : Pool (Cell G) (Task G)) (a : Pool.Action (Task G) Input) : Prop :=
  ∀ pid input call l t e records, a = .run pid input →
    w.tasks[pid]? = some (.submit call (.commit l t e records)) → w.shared.store.ended = false

namespace DurableGame

variable {config : ExperimentConfig} {initial : G.State} {cell : Cell G}
  {tasks started : List (Task G)} {pid : Nat} {input : Input} {sec : Section G}
  {task task' : Task G}

theorem spawn (game : DurableGame initial ⟨cell, tasks⟩) (entry : task.entry = true) :
    DurableGame initial ⟨cell, tasks ++ [task]⟩ := by
  obtain ⟨quiet, fresh⟩ := Task.writing_of_entry entry
  constructor
  · exact fun here => (game.writing here).append (fun _ _ h => h) fun _ t ahead => by
      simp [quiet] at ahead
  · exact fun session hs idle => game.settled session hs idle.of_append
  · exact game.logged.append (fun _ _ h => h) fun _ call t done => by simp [fresh] at done

/-- The step that commits a transition: the log tells the state that memory is about to hold. -/
theorem commit (game : DurableGame initial ⟨cell, tasks⟩)
    (logs : Pool.Each ⟨cell, tasks⟩ fun _ task => task.Logs)
    (valid : (lockOutline G config).Valid ⟨cell, tasks⟩) {call : SubmitCall G} {l : Nat}
    {t : Transition G} {e : Option SessionEnd} {records : List SessionEventRecord}
    (ht : tasks[pid]? = some (.submit call (.commit l t e records)))
    (isOpen : cell.store.ended = false)
    (hn : Task.next config cell pid input (.submit call (.commit l t e records)) =
      some (.transaction (.commit records e input.now), task', started)) :
    DurableGame initial
      ⟨{ cell.apply config (.transaction (.commit records e input.now)) with
        clock := input.now }, tasks.set pid task' ++ started⟩ := by
  obtain ⟨accepted, rest, rfl, record, quiet⟩ := logs pid _ ht
  obtain ⟨call', l', t', same, rfl, -⟩ := Task.next_commit hn
  cases same
  have log : (cell.store.commitSessionTransition (accepted :: rest) e input.now).1.acceptedActions
      = cell.store.acceptedActions ++ [accepted] := by
    rw [SessionStore.acceptedActions_commitSessionTransition (by simp) isOpen,
      List.filter_cons_of_pos record.accepted, List.filter_eq_nil_iff.mpr (by simpa using quiet)]
  have timer : ∀ u ∈ started, u.writing = none ∧ u.committed = none := by
    intro u mem
    obtain ⟨call, deadline, same, -⟩ := Task.mem_started hn mem
    cases same
  constructor
  · intro here
    refine .after ?_ ?_ ?_
    · intro t' ahead
      cases ahead
      exact log ▸ record.durableState initial _
    · intro q u ne hu t' ahead
      obtain ⟨l', holds⟩ := Task.lockUse_of_writing ahead
      exact absurd (transitionLock_exclusive valid here hu ht holds rfl) ne
    · intro u mem _ t' ahead
      simp [(timer u mem).1] at ahead
  · intro session' _ idle
    have := idle pid _ (Pool.self_after ht)
    cases this
  · refine .after ?_ ?_ ?_
    · intro call' t' done
      cases done
      exact ⟨accepted, log ▸ List.mem_append_right _ (List.mem_singleton_self _), record⟩
    · intro q u _ hu call' t' done
      obtain ⟨old, mem, told⟩ := game.logged q u hu call' t' done
      exact ⟨old, log ▸ List.mem_append_left _ mem, told⟩
    · intro u mem _ call' t' done
      simp [(timer u mem).2] at done

/-- Any other step leaves the log as it is. -/
theorem keep (game : DurableGame initial ⟨cell, tasks⟩)
    (logs : Pool.Each ⟨cell, tasks⟩ fun _ task => task.Logs) (ht : tasks[pid]? = some task)
    (hn : task.next config cell pid input = some (sec, task', started))
    (other : ∀ records sessionEnd now, sec ≠ .transaction (.commit records sessionEnd now)) :
    DurableGame initial
      ⟨{ cell.apply config sec with clock := input.now }, tasks.set pid task' ++ started⟩ := by
  have log := Task.next_acceptedActions (logs pid task ht) hn other
  have timer : ∀ u ∈ started, u.writing = none ∧ u.committed = none := by
    intro u mem
    obtain ⟨call, deadline, -, rfl⟩ := Task.mem_started hn mem
    exact ⟨rfl, rfl⟩
  constructor
  · intro here
    refine .after ?_ ?_ ?_
    · intro t ahead
      obtain ⟨records, sessionEnd, same⟩ := Task.next_writing hn ahead
      exact absurd same (other _ _ _)
    · intro q u _ hu t ahead
      have := game.writing (Cell.session_isSome_of_apply here) q u hu t ahead
      rwa [← log] at this
    · intro u mem _ t ahead
      simp [(timer u mem).1] at ahead
  · intro session' hs idle
    have others : ∀ q u, q ≠ pid → tasks[q]? = some u → u.writing = none := fun q u ne hu =>
      idle q u (Pool.other_after ne hu)
    change (cell.apply config sec).session = some session' at hs
    change DurableState G initial (cell.apply config sec).store.acceptedActions session'.state
    rw [log]
    by_cases transition : ∃ after e at' v, sec = .memory (.transition after e at' v)
    · obtain ⟨after, e, at', v, rfl⟩ := transition
      obtain ⟨call, l, t, rfl, rfl⟩ := Task.next_transition hn
      obtain ⟨session, here, hu⟩ := Option.bind_eq_some_iff.mp hs
      have state : session'.state = t.after := by
        cases hu
        cases e <;> rfl
      rw [state]
      exact game.writing (by simp [here]) pid _ ht t rfl
    · have still : ∀ after e at' v, sec ≠ .memory (.transition after e at' v) :=
        fun after e at' v same => transition ⟨after, e, at', v, same⟩
      obtain ⟨session, here, state⟩ := Cell.apply_state hs still
      rw [state]
      refine game.settled session here fun q u hu => ?_
      by_cases self : q = pid
      · subst self
        cases Option.some.inj (ht.symm.trans hu)
        cases ahead : task.writing with
        | none => rfl
        | some t =>
          rcases Task.writing_next hn ahead with gone | ⟨e, at', v, same⟩
          · rw [here] at gone
            cases gone
          · exact absurd same (still _ _ _ _)
      · exact others q u self hu
  · refine .after ?_ ?_ ?_
    · intro call t done
      rcases Task.next_committed hn done with before | ⟨l, records, sessionEnd, -, same⟩
      · obtain ⟨record, mem, accepted⟩ := game.logged pid task ht call t before
        exact ⟨record, log ▸ mem, accepted⟩
      · exact absurd same (other _ _ _)
    · intro q u _ hu call t done
      obtain ⟨record, mem, accepted⟩ := game.logged q u hu call t done
      exact ⟨record, log ▸ mem, accepted⟩
    · intro u mem _ call t done
      simp [(timer u mem).2] at done

theorem initially (creation : Creation G) :
    DurableGame creation.state (creation.initial config) where
  writing := by
    intro _ pid task ht
    cases ht
  settled := by
    intro session hs _
    cases hs
    rfl
  logged := by
    intro pid task ht
    cases ht

theorem step {w w' : Pool (Cell G) (Task G)} {a : Pool.Action (Task G) Input}
    (game : DurableGame initial w) (logs : w.Each fun _ task => task.Logs)
    (valid : (lockOutline G config).Valid w) (met : CommitsOpenRow w a) (h : (sessionMachine G config).step w a = some w') :
    DurableGame initial w' := by
  rcases Program.step_cases h with ⟨task, -, enter, rfl⟩ |
    ⟨pid, input, task, cell', task', started, rfl, ht, hs, rfl⟩
  · exact game.spawn (session_entry enter).1
  · obtain ⟨sec, hn, -, rfl⟩ := session_step hs
    by_cases commits : ∃ records e now, sec = .transaction (.commit records e now)
    · obtain ⟨records, e, now, rfl⟩ := commits
      obtain ⟨call, l, t, rfl, -, rfl⟩ := Task.next_commit hn
      exact game.commit logs valid ht (met pid input call l t e records rfl ht) hn
    · exact game.keep logs ht hn fun records e now same => commits ⟨records, e, now, same⟩

/-- The invariant holds in every state that guarded steps reach. -/
theorem of_run {creation : Creation G} {w : Pool (Cell G) (Task G)}
    (run : (sessionMachine G config).Run CommitsOpenRow (creation.initial config) w) :
    DurableGame creation.state w :=
  run.invariant_of_reached (initially creation)
    fun reached game met h => game.step (logs_valid reached) (lockOutline_valid reached) met h

end DurableGame

/--
Whenever `submit_action` has returned `Ok`, the event of its action and resulting state is in the
database; and the game in memory is the one the database tells, except that a submission between
its commit and its memory write is ahead of memory.
-/
theorem submit_action_durable {config : ExperimentConfig} {creation : Creation G}
    {w : Pool (Cell G) (Task G)}
    (run : (sessionMachine G config).Run CommitsOpenRow (creation.initial config) w) :
    (∀ (pid : Nat) (call : SubmitCall G) (t : Transition G),
      w.tasks[pid]? = some (.submit call (.returned (.ok t))) →
      ∃ event ∈ w.shared.store.events, AcceptedRecord call t event.toSessionEventRecord) ∧
    (∀ session, w.shared.session = some session →
      (∀ (pid : Nat) (call : SubmitCall G) l (t : Transition G) e,
        w.tasks[pid]? = some (.submit call (.write l t e)) →
        DurableState G creation.state w.shared.store.acceptedActions t.after) ∧
      ((∀ (pid : Nat) (call : SubmitCall G) l (t : Transition G) e,
        w.tasks[pid]? ≠ some (.submit call (.write l t e))) →
        DurableState G creation.state w.shared.store.acceptedActions session.state)) := by
  have game := DurableGame.of_run run
  refine ⟨fun pid call t ht => ?_, fun session hs => ⟨fun pid call l t e ht => ?_, fun idle => ?_⟩⟩
  · obtain ⟨record, mem, accepted⟩ := game.logged pid _ ht call t rfl
    obtain ⟨event, hevent, rfl⟩ := List.mem_map.mp (List.mem_of_mem_filter mem)
    exact ⟨event, hevent, accepted⟩
  · exact game.writing (by simp [hs]) pid _ ht t rfl
  · refine game.settled session hs fun pid task ht => ?_
    cases ahead : task.writing with
    | none => exact ahead
    | some t =>
      obtain ⟨call, pc, rfl, ahead⟩ := Task.writing_submit ahead
      cases pc <;> cases ahead
      exact absurd ht (idle pid call _ _ _)

namespace TallyAction

/-- Start-up recovery ends the row while an action stands between its checks and its commit. -/
def recoveryDuringSubmit : List TallyAction :=
  opening ++ [.spawn (.submit ⟨.human 1, .A, (3 : Nat)⟩ .fetch)] ++ steps 3 4 1 ++
  [.spawn (.finalize .list)] ++ steps 4 3 2 ++ steps 3 5 3

def submitAlone : List TallyAction :=
  opening ++ [.spawn (.submit ⟨.human 1, .A, (3 : Nat)⟩ .fetch)] ++ steps 3 9 1

def answer (w : Pool (Cell tallyGame) (Task tallyGame)) :
    Option (SubmitCall tallyGame × Transition tallyGame) :=
  match w.tasks[(3 : Nat)]? with
  | some (.submit call (.returned (.ok t))) => some (call, t)
  | _ => none

/-- Whether it was answered, the game in memory, and the states in the log. -/
def submission (w : Pool (Cell tallyGame) (Task tallyGame)) :
    Bool × Option Nat × List (Option Value) :=
  ((answer w).isSome, w.shared.session.map LiveSession.state,
    w.shared.store.acceptedActions.map SessionEventRecord.gameState)

theorem task_of_answer {w : Pool (Cell tallyGame) (Task tallyGame)}
    {call : SubmitCall tallyGame} {t : Transition tallyGame} (h : answer w = some (call, t)) :
    w.tasks[3]? = some (.submit call (.returned (.ok t))) := by
  unfold answer at h
  split at h
  · rename_i found
    cases h
    exact found
  · cases h

end TallyAction

/-- The race: the action is answered `Ok` and is in memory, but no event tells of it. -/
theorem submit_action_not_durable :
    ∃ w, (sessionMachine tallyGame {}).Run Machine.unguarded (TallyAction.creation.initial {}) w ∧
      TallyAction.submission w = (true, some 3, []) := by
  have h : ((sessionMachine tallyGame {}).exec (TallyAction.creation.initial {})
      TallyAction.recoveryDuringSubmit).map TallyAction.submission = some (true, some 3, []) := rfl
  obtain ⟨w, hw, submission⟩ := Option.map_eq_some_iff.mp h
  exact ⟨w, .of_exec_unguarded hw, submission⟩

/-- Alone, the same action is answered, and its event is in the database. -/
theorem submit_action_durable_alone :
    ∃ w call t, w.tasks[3]? = some (.submit call (.returned (.ok t))) ∧
      TallyAction.submission w = (true, some 3, [some (.int 3)]) ∧
      ∃ event ∈ w.shared.store.events, AcceptedRecord call t event.toSessionEventRecord := by
  have h : (((sessionMachine tallyGame {}).restrict fun w _ => !w.shared.store.ended).exec
      (TallyAction.creation.initial {}) TallyAction.submitAlone).map TallyAction.submission =
        some (true, some 3, [some (.int 3)]) := rfl
  obtain ⟨w, hw, submission⟩ := Option.map_eq_some_iff.mp h
  have run : (sessionMachine tallyGame {}).Run CommitsOpenRow
      (TallyAction.creation.initial {}) w := by
    refine .of_exec (fun w a isOpen => ?_) hw
    intro _ _ _ _ _ _ _ _ _
    simpa using isOpen
  obtain ⟨⟨call, t⟩, answered⟩ := Option.isSome_iff_exists.mp (congrArg Prod.fst submission)
  have returned := TallyAction.task_of_answer answered
  exact ⟨w, call, t, returned, submission, (submit_action_durable run).1 3 call t returned⟩

end Parlando
