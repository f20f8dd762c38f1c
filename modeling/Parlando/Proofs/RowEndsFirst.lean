import Parlando.Proofs.TerminalLifecycle

namespace Parlando

open Concurrency

variable {G : Game} {config : ExperimentConfig}

namespace CleanupPc

/-- The cleaner is about to remove the session, or to check once more whether it should. -/
def removes : CleanupPc → Bool
  | stamp reason _ | recheck reason _ _ => reason == .terminalCleanup
  | remove => true
  | _ => false

/-- The cleaner removes a session of its own accord only when it is over, or was never durable. -/
theorem step_removes {cell : Cell G} {input : Input} {sec : Section G} {pc pc' : CleanupPc}
    (durable : ∀ session, cell.session = some session → 0 < session.sessionId)
    (h : pc.step cell input = some (sec, pc')) (removes : pc'.removes = true) :
    pc.removes = true ∨ cell.memoryEnded = true := by
  cases pc <;> simp only [step] at h
  case scan now =>
    split at h <;> try cases h
    · cases removes
    · rename_i session here
      split at h <;> cases h
      · cases removes
      · rename_i reason picked
        have terminal : reason = .terminalCleanup := by simpa [CleanupPc.removes] using removes
        subst terminal
        right
        simp only [Cell.memoryEnded, here, Option.any_some]
        unfold cleanupReason at picked
        dsimp only at picked
        repeat' first | split at picked | cases picked
        rename_i settled
        simp only [Bool.and_eq_true] at settled
        exact settled.1
  case recheck reason observedUpdatedAt now =>
    split at h <;> try cases h
    · cases removes
    · rename_i session here
      repeat' first | split at h | cases h
      · cases removes
      · rename_i current other
        left
        have id := durable session here
        simp only [CleanupPc.removes, beq_iff_eq]
        by_contra reason'
        exact other ⟨reason', id⟩
      · cases removes
  all_goals cases h
  all_goals first | exact .inl removes | cases removes

end CleanupPc

/-- A terminal value becomes due only when it is in the row. -/
theorem EndingStep.ended {cell : Cell G} {sec : Section G} {before after : Option SessionEnd}
    (step : EndingStep cell sec before after)
    (records : ∀ records e now, sec = .transaction (.commit records e now) → records ≠ [])
    (due : after.isSome) : before.isSome ∨ (cell.apply config sec).store.ended = true := by
  have kept : after = before ∨ cell.session = Option.none ∧ after = Option.none →
      before.isSome ∨ (cell.apply config sec).store.ended = true := by
    rintro (same | ⟨-, idle⟩)
    · exact .inl (same ▸ due)
    · rw [idle] at due
      cases due
  cases sec
  case memory update =>
    cases update
    case terminate => rw [step.2] at due; cases due
    case transition => rw [step.2] at due; cases due
    all_goals exact kept step
  case transaction update =>
    cases ended : cell.store.ended with
    | true => exact .inr (Transaction.ended_stays ended)
    | false =>
      cases update
      case endSession record e now => exact .inr (SessionStore.endSession_open ended).2.ended
      case commit events sessionEnd now =>
        rw [step.2] at due
        obtain ⟨e, rfl⟩ := Option.isSome_iff_exists.mp due
        exact .inr (SessionStore.commitSessionTransition_endedWith (records _ _ _ rfl) ended).ended
      all_goals exact kept step
  all_goals exact kept step

namespace Task

/-- The task stands at a point that is reached only once the row has ended. -/
def closes : Task G → Bool
  | cleanup pc => pc.removes
  | task => task.ending.isSome

section Steps

variable {cell : Cell G} {pid : Nat} {input : Input} {sec : Section G} {task task' : Task G}
  {started : List (Task G)}

theorem closes_of_entry (h : task.entry = true) : task.closes = false := by
  unfold entry at h
  split at h <;> first | rfl | cases h

@[simp] theorem closes_ofSocket (call : SocketCall) (pc : SocketPc) :
    (ofSocket call pc : Task G).closes = false := by
  cases pc <;> rfl

@[simp] theorem closes_ofAgent (call : AgentCall) (pc : AgentPc) :
    (ofAgent call pc : Task G).closes = false := by
  cases pc <;> rfl

@[simp] theorem closes_ofEvent (call : EventCall) (caller : EventCaller) (pc : EventPc) :
    (ofEvent config call caller pc : Task G).closes = false := by
  cases caller <;> cases pc <;> first | rfl | simp [ofEvent]

@[simp] theorem closes_ofAbandon (id : ParticipantSessionId) (reason : EndReason)
    (caller : AbandonCaller) (pc : AbandonPc) :
    (ofAbandon id reason caller pc : Task G).closes = pc.ending.isSome := by
  cases caller <;> cases pc <;> rfl

/-- A task comes to such a point from another one, past an ended memory, or by ending the row. -/
theorem next_closes (durable : ∀ session, cell.session = some session → 0 < session.sessionId)
    (logs : task.Logs) (h : task.next config cell pid input = some (sec, task', started))
    (closes : task'.closes = true) :
    task.closes = true ∨ cell.memoryEnded = true ∨ (cell.apply config sec).store.ended = true := by
  have records : ∀ records e now, sec = .transaction (.commit records e now) → records ≠ [] := by
    rintro records e now rfl
    obtain ⟨call, l, t, rfl, -⟩ := next_commit h
    obtain ⟨accepted, rest, rfl, -⟩ := logs
    simp
  cases task
  all_goals
    obtain ⟨⟨sec', pc'⟩, hs, he⟩ := Option.map_eq_some_iff.mp h
    cases he
  case submit =>
    exact ((SubmitPc.step_ending hs).ended records closes).imp_right .inr
  case abandon =>
    rw [closes_ofAbandon] at closes
    exact ((AbandonPc.step_ending hs).ended records closes).imp_right .inr
  case expire reason caller pc =>
    have step := ExpirePc.step_ending hs
    cases pc' with
    | returned result =>
      left
      cases caller <;> try cases closes
      cases pc <;> simp only [ExpirePc.step] at hs <;>
        repeat' first | split at hs | cases hs | cases closes | rfl
    | _ =>
      refine (step.ended records ?_).imp_right .inr
      cases caller <;> exact closes
  case cleanup pc =>
    cases pc' with
    | expiring reason => cases closes
    | _ => exact (CleanupPc.step_removes durable hs closes).imp_right .inl
  case event => simp at closes
  case socket => simp at closes
  case agent => simp at closes
  case start caller pc => cases caller <;> cases pc' <;> cases closes
  case finalize => cases closes
  case touch => cases closes
  all_goals cases pc' <;> cases closes

/-- Memory is ended only by a task that has the end to write. -/
theorem next_ended (h : task.next config cell pid input = some (sec, task', started))
    {e : SessionEnd} (writes : sec.lifecycle = some (.ended e)) : task.ending = some e := by
  by_cases live : ∃ pc, task = finalize pc
  · obtain ⟨pc, rfl⟩ := live
    obtain ⟨⟨sec', pc'⟩, hs, he⟩ := Option.map_eq_some_iff.mp h
    cases pc <;> simp only [FinalizePc.step] at hs <;>
      repeat' first | split at hs | cases hs | cases he | cases writes
  · have step := next_ending h fun pc same => live ⟨pc, same⟩
    cases sec
    case memory update =>
      cases update
      case transition after sessionEnd completedAt voiceEndsAt =>
        obtain ⟨e', rfl, same⟩ := Option.map_eq_some_iff.mp writes
        cases same
        exact step.1
      case terminate e' now =>
        cases writes
        exact step.1
      all_goals cases writes
    all_goals cases writes

theorem closes_of_ending (h : task.ending.isSome) : task.closes = true := by
  cases task
  case cleanup => cases h
  all_goals exact h

/-- Only the cleaner removes a session. -/
theorem next_remove (h : task.next config cell pid input = some (.memory .remove, task', started)) :
    task.closes = true := by
  have kind := next_kind h
  cases task <;> simp [kinds, Section.kind, MemorySection.kind] at kind
  obtain ⟨⟨sec', pc'⟩, hs, he⟩ := Option.map_eq_some_iff.mp h
  rename_i pc
  cases pc <;> simp only [CleanupPc.step] at hs <;>
    repeat' first | split at hs | cases hs | cases he | rfl

end Steps

end Task

structure Cell.RowEndsFirst (cell : Cell G) : Prop where
  gone : cell.session = none → cell.store.ended = true
  settled : ∀ session, cell.session = some session → session.lifecycle.isEnded = true →
    cell.store.ended = true
  durable : ∀ session, cell.session = some session → 0 < session.sessionId

theorem Cell.RowEndsFirst.of_memoryEnded {cell : Cell G} (first : cell.RowEndsFirst)
    (ended : cell.memoryEnded = true) : cell.store.ended = true := by
  obtain ⟨session, here, settled⟩ := (Option.any_eq_true _ _).mp ended
  exact first.settled session here settled

def rowEndsFirst (G : Game) (config : ExperimentConfig) :
    Outline (sessionProgram G config) fun w _ => w.Each fun _ task => task.Logs where
  inv := Cell.RowEndsFirst
  asn cell _ task := task.closes = true → cell.store.ended = true
  entry := by
    intro w task pid _ _ enter closes
    rw [Task.closes_of_entry (session_entry enter).1] at closes
    cases closes
  step := by
    intro w pid input task cell' task' started first each logs ht h
    obtain ⟨sec, hn, -, rfl⟩ := session_step h
    have own := each pid task ht
    refine ⟨⟨fun gone => ?_, fun session' here settled => ?_, fun session' here => ?_⟩,
      fun closes => ?_, ?_⟩
    · rcases Cell.apply_session_gone gone with gone | rfl
      · exact Cell.ended_apply (first.gone gone)
      · exact Cell.ended_apply (own (Task.next_remove hn))
    · obtain ⟨session, before, lifecycle⟩ := Cell.apply_lifecycle here
      apply Cell.ended_apply
      cases writes : sec.lifecycle with
      | none =>
        rw [writes] at lifecycle
        rw [lifecycle] at settled
        exact first.settled session before settled
      | some written =>
        rw [writes] at lifecycle
        cases written with
        | ended e =>
          exact own (Task.closes_of_ending (by simp [Task.next_ended hn writes]))
        | _ =>
          rw [lifecycle] at settled
          cases settled
    · obtain ⟨session, before, step⟩ := Cell.apply_step here
      rw [step.sessionId]
      exact first.durable session before
    · rcases Task.next_closes first.durable (logs pid task ht) hn closes with closed | settled | ended
      · exact Cell.ended_apply (own closed)
      · exact Cell.ended_apply (first.of_memoryEnded settled)
      · exact ended
    · intro u mem q closes
      obtain ⟨call, deadline, -, rfl⟩ := Task.mem_started hn mem
      cases closes
  interference := by
    intro w pid input task cell' task' started q u _ _ _ ht h _ _ theirs closes
    obtain ⟨sec, hn, -, rfl⟩ := session_step h
    exact Cell.ended_apply (theirs closes)

theorem rowEndsFirst_initial (creation : Creation G) :
    (rowEndsFirst G config).Valid (creation.initial config) where
  inv := by
    constructor
    · intro gone
      cases gone
    · intro session here settled
      cases here
      cases settled
    · intro session here
      cases here
      exact creation.durable
  each := by
    intro pid task ht
    cases ht

theorem rowEndsFirst_valid {creation : Creation G}
    {guard : Pool (Cell G) (Task G) → Pool.Action (Task G) Input → Prop}
    {w : Pool (Cell G) (Task G)}
    (run : (sessionMachine G config).Run guard (creation.initial config) w) :
    (rowEndsFirst G config).Valid w :=
  (rowEndsFirst_initial creation).run ((run.and_invariant logs_valid).mono fun _ _ => And.right)

end Parlando
