import Parlando.Proofs.Logs

namespace Parlando

open Concurrency

variable {G : Game}

def SubmitPc.ending : SubmitPc G → Option SessionEnd
  | write _ _ sessionEnd => sessionEnd
  | _ => none

def AbandonPc.ending : AbandonPc → Option SessionEnd
  | write _ sessionEnd => some sessionEnd
  | _ => none

def ExpirePc.ending : ExpirePc → Option SessionEnd
  | write sessionEnd => some sessionEnd
  | _ => none

namespace Task

/-- The terminal value a task has committed and is about to write to memory. -/
def ending : Task G → Option SessionEnd
  | submit _ pc => pc.ending
  | abandon _ _ _ pc => pc.ending
  | expire _ _ pc => pc.ending
  | _ => none

def starting : Task G → Bool
  | start _ (.write _ _) => true
  | _ => false

@[simp] theorem ending_ofSocket (call : SocketCall) (pc : SocketPc) :
    (ofSocket call pc : Task G).ending = none := by
  cases pc <;> rfl

@[simp] theorem ending_ofAgent (call : AgentCall) (pc : AgentPc) :
    (ofAgent call pc : Task G).ending = none := by
  cases pc <;> rfl

@[simp] theorem ending_ofAbandon (id : ParticipantSessionId) (reason : EndReason)
    (caller : AbandonCaller) (pc : AbandonPc) :
    (ofAbandon id reason caller pc : Task G).ending = pc.ending := by
  cases caller <;> cases pc <;> rfl

@[simp] theorem ending_ofExpire (reason : EndReason) (caller : ExpireCaller) (pc : ExpirePc) :
    (ofExpire reason caller pc : Task G).ending = pc.ending := by
  cases caller <;> cases pc <;> rfl

@[simp] theorem ending_ofEvent (config : ExperimentConfig) (call : EventCall)
    (caller : EventCaller) (pc : EventPc) :
    (ofEvent config call caller pc : Task G).ending = none := by
  cases caller <;> cases pc <;> first | rfl | simp [ofEvent]

end Task

def EndingStep (cell : Cell G) (sec : Section G) (before after : Option SessionEnd) : Prop :=
  match sec with
  | .transaction (.endSession _ sessionEnd _) =>
    before = none ∧ after = if cell.store.ended then none else some sessionEnd
  | .transaction (.commit _ sessionEnd _) => before = none ∧ after = sessionEnd
  | .memory (.terminate sessionEnd _) => before = some sessionEnd ∧ after = none
  | .memory (.transition _ sessionEnd _ _) => before = sessionEnd ∧ after = none
  | _ => after = before ∨ cell.session = none ∧ after = none

section Steps

variable {config : ExperimentConfig} {cell : Cell G} {pid : Nat} {input : Input}
  {sec : Section G} {task task' : Task G} {started : List (Task G)}

theorem SubmitPc.step_ending {call : SubmitCall G} {pc pc' : SubmitPc G}
    (h : pc.step config call cell pid input = some (sec, pc')) :
    EndingStep cell sec pc.ending pc'.ending := by
  cases pc <;> simp only [step] at h <;>
    repeat' first | split at h | cases h | simp_all [EndingStep, ending]

theorem SessionStore.endSession_accepts {store : SessionStore} {record : SessionEventRecord}
    {sessionEnd : SessionEnd} {now : Timestamp} :
    (store.endSession record sessionEnd now).2 = !store.ended := by
  unfold endSession
  cases store.ended <;> rfl

theorem AbandonPc.step_ending {id : ParticipantSessionId} {reason : EndReason}
    {pc pc' : AbandonPc} (h : pc.step config id reason cell pid input = some (sec, pc')) :
    EndingStep cell sec pc.ending pc'.ending := by
  cases pc <;> simp only [step, SessionStore.endSession_accepts] at h <;>
    repeat' first | split at h | cases h | simp_all [EndingStep, ending]

theorem ExpirePc.step_ending {reason : EndReason} {pc pc' : ExpirePc}
    (h : pc.step config reason cell input = some (sec, pc')) :
    EndingStep cell sec pc.ending pc'.ending := by
  cases pc <;> simp only [step, SessionStore.endSession_accepts] at h <;>
    repeat' first | split at h | cases h | simp_all [EndingStep, ending]

theorem EndingStep.none (kind : sec.kind ∉ [.endRow, .commitRow, .terminate, .transition]) :
    EndingStep cell sec none none := by
  cases sec
  case memory update =>
    cases update <;> first | exact .inl rfl | simp [Section.kind, MemorySection.kind] at kind
  case transaction update =>
    cases update <;> first | exact .inl rfl | simp [Section.kind, Transaction.kind] at kind
  all_goals exact .inl rfl

/-- A terminal value owed to memory stays owed until a section writes it. -/
theorem EndingStep.kept {before after : Option SessionEnd} {e : SessionEnd}
    (step : EndingStep cell sec before after) (here : cell.session.isSome)
    (unwritten : ∀ e, sec.lifecycle ≠ some (.ended e)) (owes : before = some e) :
    after = some e := by
  have other : after = before ∨ cell.session = Option.none ∧ after = Option.none →
      after = some e := by
    rintro (same | ⟨gone, -⟩)
    · exact same.trans owes
    · simp [gone] at here
  subst owes
  cases sec
  case memory update =>
    cases update
    case terminate e' now => exact absurd rfl (unwritten e')
    case transition after' e' completedAt voiceEndsAt =>
      cases step.1
      exact absurd rfl (unwritten e)
    all_goals exact other step
  case transaction update =>
    cases update
    case endSession record e' now => cases step.1
    case commit records e' now => cases step.1
    all_goals exact other step
  all_goals exact other step

namespace Task

/-- Except in start-up recovery, a terminal value is committed, owed to memory and then written. -/
theorem next_ending (h : task.next config cell pid input = some (sec, task', started))
    (live : ∀ pc, task ≠ finalize pc) : EndingStep cell sec task.ending task'.ending := by
  have kind := next_kind h
  cases task
  all_goals
    obtain ⟨⟨sec', pc'⟩, hs, he⟩ := Option.map_eq_some_iff.mp h
    cases he
  case submit => exact SubmitPc.step_ending hs
  case abandon =>
    rw [ending_ofAbandon]
    exact AbandonPc.step_ending hs
  case expire =>
    rw [ending_ofExpire]
    exact ExpirePc.step_ending hs
  case finalize pc => exact absurd rfl (live pc)
  all_goals
    have quiet : EndingStep cell sec Option.none Option.none := by
      refine .none fun mem => ?_
      simp only [kinds] at kind
      revert kind mem
      cases sec.kind <;> decide
  case event =>
    rw [ending_ofEvent]
    exact quiet
  case socket =>
    rw [ending_ofSocket]
    exact quiet
  case agent =>
    rw [ending_ofAgent]
    exact quiet
  case start caller pc => cases caller <;> cases pc' <;> exact quiet
  case touch => exact quiet
  all_goals cases pc' <;> exact quiet

/-- A task in a `maybe_start_game` call has just entered it or got there by a step of that call. -/
theorem next_startCall {caller : StartCaller} {pc' : StartPc}
    (h : task.next config cell pid input = some (sec, start caller pc', started)) :
    pc' = .fetch ∨
      ∃ pc, task = start caller pc ∧ pc.step config cell pid input = some (sec, pc') := by
  cases task
  all_goals
    obtain ⟨⟨sec', pc''⟩, hs, he⟩ := Option.map_eq_some_iff.mp h
    simp only [Prod.mk.injEq] at he
    obtain ⟨rfl, he, -⟩ := he
  case start caller' pc =>
    cases caller' <;> cases pc'' <;> cases he <;> exact .inr ⟨_, rfl, hs⟩
  case submit => cases he
  case finalize => cases he
  case touch => cases he
  case abandon id reason caller' pc => cases caller' <;> cases pc'' <;> cases he
  case expire reason caller' pc => cases caller' <;> cases pc'' <;> cases he
  case event call caller' pc =>
    cases caller' <;> cases pc'' <;> try cases he
    simp only [ofEvent, SocketPc.afterDisconnect] at he
    split at he <;> cases he
  all_goals cases pc'' <;> cases he <;> exact .inl rfl

/-- A task comes to stand before starting memory only by starting the row. -/
theorem next_starting (h : task.next config cell pid input = some (sec, task', started))
    (starts : task'.starting = true) :
    ∃ startedAt idleDeadlineAt, sec = .transaction (.start startedAt idleDeadlineAt) ∧
      (cell.store.startSession startedAt idleDeadlineAt).2 = true := by
  cases task' <;> try cases starts
  rename_i caller pc'
  cases pc' <;> try cases starts
  rcases next_startCall h with same | ⟨pc, rfl, hs⟩
  · cases same
  · cases pc <;> simp only [StartPc.step] at hs <;>
      repeat' first | split at hs | cases hs
    exact ⟨_, _, rfl, by assumption⟩

/-- Memory is started only by a task standing there. -/
theorem next_start {startedAt idleDeadlineAt : Timestamp}
    (h : task.next config cell pid input =
      some (.memory (.start startedAt idleDeadlineAt), task', started)) :
    ∃ caller l, task = start caller (.write l startedAt) := by
  have kind := next_kind h
  cases task <;> simp [kinds, Section.kind, MemorySection.kind] at kind
  obtain ⟨⟨sec', pc'⟩, hs, he⟩ := Option.map_eq_some_iff.mp h
  rename_i pc
  cases pc <;> simp only [StartPc.step] at hs <;>
    repeat' first | split at hs | cases hs | cases he
  exact ⟨_, _, rfl⟩

end Task

end Steps

structure TerminalLifecycle (w : Pool (Cell G) (Task G)) : Prop where
  memory : ∀ session e, w.shared.session = some session → session.lifecycle = .ended e →
    w.shared.store.EndedWith e
  pending : w.Each fun _ task => ∀ e, task.ending = some e → w.shared.store.EndedWith e
  row : w.shared.store.ended = true → ∃ e, w.shared.store.EndedWith e
  /-- A row that is ahead of memory has a task that owes memory the end. -/
  owed : ∀ session, w.shared.session = some session → session.lifecycle.isEnded = false →
    w.shared.store.ended = true → w.Has fun _ task => task.ending.isSome
  running : ∀ session, w.shared.session = some session → session.lifecycle = .running →
    w.shared.store.row.lifecycle ≠ .forming
  starting : w.Each fun _ task => task.starting = true →
    w.shared.store.row.lifecycle ≠ .forming

/--
The runs in which ended stays ended: start-up recovery takes no part, memory is not started after
its end, and no completing action commits on a row that another ending has already closed.
-/
structure EndsRespected (w : Pool (Cell G) (Task G)) (a : Pool.Action (Task G) Input) : Prop where
  noRecovery : ∀ pid input pc, a = .run pid input → w.tasks[pid]? ≠ some (.finalize pc)
  startsBeforeEnd : ∀ pid input caller l startedAt, a = .run pid input →
    w.tasks[pid]? = some (.start caller (.write l startedAt)) → w.shared.memoryEnded = false
  completesOpenRow : ∀ pid input call l t e records, a = .run pid input →
    w.tasks[pid]? = some (.submit call (.commit l t (some e) records)) →
      w.shared.store.ended = false

namespace TerminalLifecycle

variable {config : ExperimentConfig} {cell : Cell G} {tasks started : List (Task G)} {pid : Nat}
  {input : Input} {sec : Section G} {task task' : Task G}

theorem store_endedWith {e : SessionEnd} (h : cell.store.EndedWith e) :
    (cell.apply config sec).store.EndedWith e := by
  cases sec
  case transaction update => exact Transaction.endedWith_apply h
  all_goals exact h

theorem store_forming (h : (cell.apply config sec).store.row.lifecycle = .forming) :
    cell.store.row.lifecycle = .forming := by
  cases sec
  case transaction update => exact Transaction.forming_of_apply h
  all_goals exact h

/-- The row is ended by the very task that then owes the end to memory. -/
theorem ending_of_ended (isOpen : cell.store.ended = false)
    (ended : (cell.apply config sec).store.ended = true)
    (step : EndingStep cell sec task.ending task'.ending) :
    ∃ e, task'.ending = some e ∧ (cell.apply config sec).store.EndedWith e := by
  cases sec
  case transaction update =>
    obtain ⟨e, carried, ends⟩ := Transaction.ended_apply isOpen ended
    refine ⟨e, ?_, ends⟩
    cases update <;> cases carried
    · exact step.2
    · simpa [isOpen] using step.2
  all_goals
    rw [show cell.store.ended = true from ended] at isOpen
    cases isOpen

section Run

variable (inv : TerminalLifecycle ⟨cell, tasks⟩)
  (logs : Pool.Each ⟨cell, tasks⟩ fun _ task => task.Logs)
  (met : EndsRespected ⟨cell, tasks⟩ (.run pid input)) (ht : tasks[pid]? = some task)
  (hn : task.next config cell pid input = some (sec, task', started))

include met ht hn

theorem endingStep : EndingStep cell sec task.ending task'.ending :=
  Task.next_ending hn fun pc same => met.noRecovery pid input pc rfl (same ▸ ht)

include inv logs

/-- What the stepping task owes to memory is in the row. -/
theorem pending_after {e : SessionEnd} (owes : task'.ending = some e) :
    (cell.apply config sec).store.EndedWith e := by
  have step := endingStep met ht hn
  have kept : task'.ending = task.ending ∨ cell.session = none ∧ task'.ending = none →
      (cell.apply config sec).store.EndedWith e := by
    rintro (same | ⟨-, idle⟩)
    · exact store_endedWith (inv.pending pid task ht e (same ▸ owes))
    · rw [idle] at owes
      cases owes
  cases sec
  case transaction update =>
    cases update
    case endSession record e' now =>
      cases isOpen : cell.store.ended with
      | true => simp [step.2, isOpen] at owes
      | false =>
        have same : e' = e := by simpa [step.2, isOpen] using owes
        subst same
        exact (SessionStore.endSession_open isOpen).2
    case commit records sessionEnd now =>
      have same : sessionEnd = some e := step.2.symm.trans owes
      subst same
      obtain ⟨call, l, t, rfl, -, -⟩ := Task.next_commit hn
      obtain ⟨accepted, rest, rfl, -, -⟩ := logs pid _ ht
      exact SessionStore.commitSessionTransition_endedWith (by simp)
        (met.completesOpenRow pid input call l t e _ rfl ht)
    all_goals exact kept step
  case memory update =>
    cases update
    case terminate e' now =>
      rw [step.2] at owes
      cases owes
    case transition after e' completedAt voiceEndsAt =>
      rw [step.2] at owes
      cases owes
    all_goals exact kept step
  all_goals exact kept step

omit logs in
/-- A terminal value that a section writes to memory is the row's. -/
theorem written_endedWith {e : SessionEnd} (writes : sec.lifecycle = some (.ended e)) :
    cell.store.EndedWith e := by
  have step := endingStep met ht hn
  cases sec
  case memory update =>
    cases update
    case transition after sessionEnd completedAt voiceEndsAt =>
      obtain ⟨e', rfl, same⟩ := Option.map_eq_some_iff.mp writes
      cases same
      exact inv.pending pid task ht e step.1
    case terminate e' now =>
      cases writes
      exact inv.pending pid task ht e step.1
    all_goals cases writes
  all_goals cases writes

omit inv logs in
/-- Memory is not started after its end. -/
theorem started_unended {session : LiveSession G} (starts : sec.lifecycle = some .running)
    (here : cell.session = some session) :
    session.lifecycle.isEnded = false ∧ task.starting = true := by
  cases sec
  case memory update =>
    cases update
    case start startedAt idleDeadlineAt =>
      obtain ⟨caller, l, rfl⟩ := Task.next_start hn
      have unended := met.startsBeforeEnd pid input caller l startedAt rfl ht
      simp only [Cell.memoryEnded, here, Option.any_some] at unended
      exact ⟨unended, rfl⟩
    case transition after sessionEnd completedAt voiceEndsAt =>
      cases sessionEnd <;> cases starts
    all_goals cases starts
  all_goals cases starts

omit logs in
theorem memory_after {session' : LiveSession G} {e : SessionEnd}
    (here : (cell.apply config sec).session = some session')
    (ended : session'.lifecycle = .ended e) : (cell.apply config sec).store.EndedWith e := by
  obtain ⟨session, before, lifecycle⟩ := Cell.apply_lifecycle here
  apply store_endedWith
  cases writes : sec.lifecycle with
  | none =>
    rw [writes] at lifecycle
    exact inv.memory session e before (lifecycle.symm.trans ended)
  | some written =>
    rw [writes] at lifecycle
    rw [show written = .ended e from lifecycle.symm.trans ended] at writes
    exact written_endedWith inv met ht hn writes

omit logs in
/-- An end in memory stays: no section writes anything else over it. -/
theorem ended_after {session session' : LiveSession G} {e : SessionEnd}
    (before : cell.session = some session) (ended : session.lifecycle = .ended e)
    (here : (cell.apply config sec).session = some session') :
    session'.lifecycle = .ended e := by
  obtain ⟨session₀, before', lifecycle⟩ := Cell.apply_lifecycle here
  cases Option.some.inj (before.symm.trans before')
  cases writes : sec.lifecycle with
  | none =>
    rw [writes] at lifecycle
    exact lifecycle.trans ended
  | some written =>
    rw [writes] at lifecycle
    cases written with
    | forming => exact absurd writes Section.lifecycle_ne_forming
    | running =>
      have unended := (started_unended met ht hn writes before).1
      rw [ended] at unended
      cases unended
    | ended e' =>
      have old := inv.memory session e before ended
      have new := written_endedWith inv met ht hn writes
      rw [old.unique new]
      exact lifecycle

omit logs in
/-- A row ahead of memory keeps its debtor, or has just got one. -/
theorem owed_after {session' : LiveSession G}
    (here : (cell.apply config sec).session = some session')
    (unended : session'.lifecycle.isEnded = false)
    (ended : (cell.apply config sec).store.ended = true) :
    Pool.Has ⟨cell.apply config sec, tasks.set pid task' ++ started⟩
      fun _ task => task.ending.isSome := by
  have step := endingStep met ht hn
  obtain ⟨session, before, lifecycle⟩ := Cell.apply_lifecycle here
  cases isOpen : cell.store.ended with
  | false =>
    obtain ⟨e, owes, -⟩ := ending_of_ended isOpen ended step
    exact ⟨pid, task', Pool.self_after ht, by simp [owes]⟩
  | true =>
    have unwritten : ∀ e, sec.lifecycle ≠ some (.ended e) := by
      rintro e writes
      rw [lifecycle, writes] at unended
      cases unended
    have unended' : session.lifecycle.isEnded = false := by
      cases writes : sec.lifecycle with
      | none =>
        rw [lifecycle, writes] at unended
        exact unended
      | some written =>
        cases written with
        | forming => exact absurd writes Section.lifecycle_ne_forming
        | running => exact (started_unended met ht hn writes before).1
        | ended e => exact absurd writes (unwritten e)
    refine (inv.owed session before unended' isOpen).after ht ?_ fun _ _ _ h => h
    intro owes
    obtain ⟨e, owes⟩ := Option.isSome_iff_exists.mp owes
    simp [step.kept (by simp [before]) unwritten owes]

omit logs in
theorem running_after {session' : LiveSession G}
    (here : (cell.apply config sec).session = some session')
    (running : session'.lifecycle = .running) :
    (cell.apply config sec).store.row.lifecycle ≠ .forming := by
  obtain ⟨session, before, lifecycle⟩ := Cell.apply_lifecycle here
  intro forming
  have forming := store_forming forming
  cases writes : sec.lifecycle with
  | none =>
    rw [writes] at lifecycle
    exact inv.running session before (lifecycle.symm.trans running) forming
  | some written =>
    rw [writes] at lifecycle
    rw [show written = .running from lifecycle.symm.trans running] at writes
    exact inv.starting pid task ht (started_unended met ht hn writes before).2 forming

theorem after : TerminalLifecycle ⟨{ cell.apply config sec with clock := input.now },
    tasks.set pid task' ++ started⟩ := by
  have timer : ∀ u ∈ started, u.ending = none ∧ u.starting = false := by
    intro u mem
    obtain ⟨call, deadline, -, rfl⟩ := Task.mem_started hn mem
    exact ⟨rfl, rfl⟩
  constructor
  · exact fun session' e here ended => memory_after inv met ht hn here ended
  · refine .after (fun e owes => pending_after inv logs met ht hn owes) ?_ ?_
    · exact fun q u _ hu e owes => store_endedWith (inv.pending q u hu e owes)
    · intro u mem _ e owes
      rw [(timer u mem).1] at owes
      cases owes
  · intro ended
    cases isOpen : cell.store.ended with
    | true =>
      obtain ⟨e, old⟩ := inv.row isOpen
      exact ⟨e, store_endedWith old⟩
    | false =>
      obtain ⟨e, -, new⟩ := ending_of_ended isOpen ended (endingStep met ht hn)
      exact ⟨e, new⟩
  · exact fun session' here unended ended => owed_after inv met ht hn here unended ended
  · exact fun session' here running => running_after inv met ht hn here running
  · refine .after ?_ ?_ ?_
    · intro starts
      obtain ⟨startedAt, idleDeadlineAt, rfl, accepted⟩ := Task.next_starting hn starts
      change (cell.store.startSession startedAt idleDeadlineAt).1.row.lifecycle ≠ .forming
      unfold SessionStore.startSession at accepted ⊢
      split at accepted
      · rename_i forming
        rw [if_pos forming]
        simp
      · cases accepted
    · exact fun q u _ hu starts forming => inv.starting q u hu starts (store_forming forming)
    · intro u mem _ starts
      rw [(timer u mem).2] at starts
      cases starts

end Run

theorem spawn (inv : TerminalLifecycle ⟨cell, tasks⟩) (entry : task.entry = true) :
    TerminalLifecycle ⟨cell, tasks ++ [task]⟩ := by
  have idle : task.ending = none ∧ task.starting = false := by
    unfold Task.entry at entry
    split at entry <;> first | exact ⟨rfl, rfl⟩ | cases entry
  constructor
  · exact inv.memory
  · exact inv.pending.append (fun _ _ h => h) fun _ e owes => by simp [idle.1] at owes
  · exact inv.row
  · exact fun session here unended ended => (inv.owed session here unended ended).append
  · exact inv.running
  · exact inv.starting.append (fun _ _ h => h) fun _ starts => by simp [idle.2] at starts

theorem initially (creation : Creation G) : TerminalLifecycle (creation.initial config) where
  memory := by
    intro session e here ended
    cases here
    cases ended
  pending := by
    intro pid task ht
    cases ht
  row := by
    intro ended
    cases ended
  owed := by
    intro session here unended ended
    cases ended
  running := by
    intro session here running
    cases here
    cases running
  starting := by
    intro pid task ht
    cases ht

theorem step {w w' : Pool (Cell G) (Task G)} {a : Pool.Action (Task G) Input}
    (inv : TerminalLifecycle w) (logs : w.Each fun _ task => task.Logs)
    (met : EndsRespected w a) (h : (sessionMachine G config).step w a = some w') :
    TerminalLifecycle w' := by
  rcases Program.step_cases h with ⟨task, -, enter, rfl⟩ |
    ⟨pid, input, task, cell', task', started, rfl, ht, hs, rfl⟩
  · exact inv.spawn (session_entry enter).1
  · obtain ⟨sec, hn, -, rfl⟩ := session_step hs
    exact inv.after logs met ht hn

theorem of_run {creation : Creation G} {w : Pool (Cell G) (Task G)}
    (run : (sessionMachine G config).Run EndsRespected (creation.initial config) w) :
    TerminalLifecycle w :=
  run.invariant_of_reached (initially creation)
    fun reached inv met h => inv.step (logs_valid reached) met h

/-- What memory says about an ended session it goes on saying as long as it has the session. -/
theorem ended_step {w w' : Pool (Cell G) (Task G)} {a : Pool.Action (Task G) Input}
    {e : SessionEnd} (inv : TerminalLifecycle w) (met : EndsRespected w a)
    (h : (sessionMachine G config).step w a = some w')
    (ended : ∀ session, w.shared.session = some session → session.lifecycle = .ended e) :
    ∀ session, w'.shared.session = some session → session.lifecycle = .ended e := by
  intro session' here
  rcases Program.step_cases h with ⟨task, -, enter, rfl⟩ |
    ⟨pid, input, task, cell', task', started, rfl, ht, hs, rfl⟩
  · exact ended session' here
  · obtain ⟨sec, hn, -, rfl⟩ := session_step hs
    obtain ⟨session, before, -⟩ := Cell.apply_lifecycle here
    exact inv.ended_after met ht hn before (ended session before) here

end TerminalLifecycle

/--
An end in memory is the row's and stays until the session leaves memory; and while memory says
running, the row does too, unless a task has committed the end it is about to write.
-/
theorem ended_absorbing {config : ExperimentConfig} {creation : Creation G}
    {w : Pool (Cell G) (Task G)}
    (run : (sessionMachine G config).Run EndsRespected (creation.initial config) w) :
    (∀ session e, w.shared.session = some session → session.lifecycle = .ended e →
      w.shared.store.EndedWith e ∧
      ∀ w' session', (sessionMachine G config).Run EndsRespected w w' →
        w'.shared.session = some session' → session'.lifecycle = .ended e) ∧
    (∀ session, w.shared.session = some session → session.lifecycle = .running →
      w.shared.store.row.lifecycle = .running ∨
      ∃ (e : SessionEnd) (pid : Nat) (task : Task G), w.shared.store.EndedWith e ∧ w.tasks[pid]? = some task ∧
        task.ending = some e) := by
  have inv := TerminalLifecycle.of_run run
  refine ⟨fun session e here ended => ⟨inv.memory session e here ended, ?_⟩,
    fun session here running => ?_⟩
  · intro w' session' later here'
    have init : ∀ session', w.shared.session = some session' → session'.lifecycle = .ended e := by
      intro session' same
      cases Option.some.inj (here.symm.trans same)
      exact ended
    exact later.invariant_of_reached init (fun reached stays met h =>
      (TerminalLifecycle.of_run (run.trans reached)).ended_step met h stays) session' here'
  · cases row : w.shared.store.row.lifecycle with
    | forming => exact absurd row (inv.running session here running)
    | running => exact .inl rfl
    | ended =>
      have closed : w.shared.store.ended = true := by simp [SessionStore.ended, row]
      have unended : session.lifecycle.isEnded = false := by rw [running]; rfl
      obtain ⟨pid, task, ht, owes⟩ := inv.owed session here unended closed
      obtain ⟨e, owes⟩ := Option.isSome_iff_exists.mp owes
      exact .inr ⟨e, pid, task, inv.pending pid task ht e owes, ht, owes⟩

namespace TallyAction

/-- The cause of the end that memory tells, if it tells one. -/
def memoryCause (w : Pool (Cell tallyGame) (Task tallyGame)) : Option SessionEndCause :=
  w.shared.session.bind fun session =>
    match session.lifecycle with
    | .ended sessionEnd => some sessionEnd.cause
    | _ => none

def memoryRunning (w : Pool (Cell tallyGame) (Task tallyGame)) : Bool :=
  w.shared.session.any fun session => session.lifecycle.isRunning

/-- The waiting session times out while `maybe_start_game` stands before its memory section. -/
def timeoutDuringStart : List TallyAction :=
  opening.dropLast.dropLast ++ [.spawn (.cleanup .tick)] ++ steps 3 7 600000000000

/-- The session's lifetime ends while its last action stands before its commit. -/
def timeoutDuringCompletion : List TallyAction :=
  opening ++ [.spawn (.submit ⟨.human 1, .A, (12 : Nat)⟩ .fetch)] ++ steps 3 6 1 ++
  [.spawn (.cleanup .tick)] ++ steps 4 7 14400000000000 ++ steps 3 2 14400000000000

/-- A participant leaves the running game. -/
def leaving : List TallyAction :=
  opening ++ [.spawn (.abandon (.human 1) .participantLeft .request .fetch)] ++ steps 3 7 1

/-- A check that keeps the end respected: no recovery, and no start or completion over an end. -/
def respectsEnd (w : Pool (Cell tallyGame) (Task tallyGame)) : TallyAction → Bool
  | .spawn _ => true
  | .run pid _ => match w.tasks[pid]? with
    | some (.finalize _) => false
    | some (.start _ (.write _ _)) => !w.shared.memoryEnded
    | some (.submit _ (.commit _ _ (some _) _)) => !w.shared.store.ended
    | _ => true

theorem endsRespected {w : Pool (Cell tallyGame) (Task tallyGame)} {a : TallyAction}
    (h : respectsEnd w a = true) : EndsRespected w a := by
  constructor
  · rintro pid input pc rfl ht
    simp [respectsEnd, ht] at h
  · rintro pid input caller l startedAt rfl ht
    simpa [respectsEnd, ht] using h
  · rintro pid input call l t e records rfl ht
    simpa [respectsEnd, ht] using h

end TallyAction

/--
Both races: a session that timed out in memory runs again, and a session whose row says that its
lifetime ran out is completed in memory.
-/
theorem ended_not_absorbing :
    (∃ w w', (sessionMachine tallyGame {}).Run Machine.unguarded
        (TallyAction.creation.initial {}) w ∧
      (sessionMachine tallyGame {}).Run Machine.unguarded w w' ∧
      TallyAction.memoryCause w = some .partnerUnavailable ∧
      TallyAction.memoryRunning w' = true) ∧
    (∃ w, (sessionMachine tallyGame {}).Run Machine.unguarded
        (TallyAction.creation.initial {}) w ∧
      TallyAction.memoryCause w = some .gameCompleted ∧
      TallyAction.rowCause w = some .lifetimeTimedOut) := by
  constructor
  · have h : (((sessionMachine tallyGame {}).exec (TallyAction.creation.initial {})
        TallyAction.timeoutDuringStart).bind fun w =>
          ((sessionMachine tallyGame {}).exec w (TallyAction.steps 2 1 600000000000)).map
            fun w' => (TallyAction.memoryCause w, TallyAction.memoryRunning w')) =
          some (some .partnerUnavailable, true) := rfl
    obtain ⟨w, hw, h⟩ := Option.bind_eq_some_iff.mp h
    obtain ⟨w', hw', h⟩ := Option.map_eq_some_iff.mp h
    exact ⟨w, w', .of_exec_unguarded hw, .of_exec_unguarded hw', congrArg Prod.fst h,
      congrArg Prod.snd h⟩
  · have h : ((sessionMachine tallyGame {}).exec (TallyAction.creation.initial {})
        TallyAction.timeoutDuringCompletion).map
          (fun w => (TallyAction.memoryCause w, TallyAction.rowCause w)) =
          some (some .gameCompleted, some .lifetimeTimedOut) := rfl
    obtain ⟨w, hw, h⟩ := Option.map_eq_some_iff.mp h
    exact ⟨w, .of_exec_unguarded hw, congrArg Prod.fst h, congrArg Prod.snd h⟩

/-- A participant leaves: memory says so, and so does the row. -/
theorem ended_absorbing_leaving :
    ∃ (w : Pool (Cell tallyGame) (Task tallyGame)) (session : LiveSession tallyGame)
      (e : SessionEnd), w.shared.session = some session ∧ session.lifecycle = .ended e ∧
      e.cause = .participantLeft "A" ∧ w.shared.store.EndedWith e := by
  have h : (((sessionMachine tallyGame {}).restrict TallyAction.respectsEnd).exec
      (TallyAction.creation.initial {}) TallyAction.leaving).map TallyAction.memoryCause =
        some (some (.participantLeft "A")) := rfl
  obtain ⟨w, hw, cause⟩ := Option.map_eq_some_iff.mp h
  have run : (sessionMachine tallyGame {}).Run EndsRespected
      (TallyAction.creation.initial {}) w :=
    .of_exec (fun _ _ => TallyAction.endsRespected) hw
  obtain ⟨session, here, cause⟩ := Option.bind_eq_some_iff.mp cause
  split at cause
  · rename_i e ended
    exact ⟨w, session, e, here, ended, Option.some.inj cause,
      ((ended_absorbing run).1 session e here ended).1⟩
  · cases cause

end Parlando
