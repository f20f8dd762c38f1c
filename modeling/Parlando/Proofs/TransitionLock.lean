import Parlando.Proofs.Steps

namespace Parlando

open Concurrency

variable {G : Game}

inductive LockUse where
  | idle
  | waiting (lock : Nat)
  | holding (lock : Nat)
  deriving DecidableEq, Repr

def SubmitPc.lockUse : SubmitPc G → LockUse
  | fetch | returned _ => .idle
  | lock l => .waiting l
  | check l | finish l _ _ | record l _ _ | recordCompleted l _ _ _ _ | commit l _ _ _
  | write l _ _ | touch l _ | touchStore l _ _ | release l _ => .holding l

def AbandonPc.lockUse : AbandonPc → LockUse
  | fetch | returned _ => .idle
  | lock l => .waiting l
  | check l | record l _ | commit l _ _ | write l _ | release l _ => .holding l

def StartPc.lockUse : StartPc → LockUse
  | fetch | returned => .idle
  | lock l => .waiting l
  | check l | commit l _ | write l _ | release l => .holding l

def AgentPc.lockUse : AgentPc → LockUse
  | lock l | readyLock l => .waiting l
  | attach l | persist l | persistRow l _ | detach l | joinedEvent l | releaseAttach l _
  | ready l | connectedEvent l | startedEvent l | releaseReady l _ => .holding l
  | _ => .idle

def EventCaller.lockUse : EventCaller → LockUse
  | agentJoined _ l | agentConnected _ l | agentStarted _ l => .holding l
  | _ => .idle

namespace Task

def lockUse : Task G → LockUse
  | submit _ pc => pc.lockUse
  | abandon _ _ _ pc => pc.lockUse
  | start _ pc => pc.lockUse
  | event _ caller _ => caller.lockUse
  | agent _ pc => pc.lockUse
  | _ => .idle

@[simp] theorem lockUse_ofSocket (call : SocketCall) (pc : SocketPc) :
    (ofSocket call pc : Task G).lockUse = .idle := by
  cases pc <;> rfl

@[simp] theorem lockUse_ofTimer (id : ParticipantSessionId) (deadline : Timestamp)
    (pc : TimerPc) : (ofTimer id deadline pc : Task G).lockUse = .idle := by
  cases pc <;> rfl

@[simp] theorem lockUse_ofCleanup (pc : CleanupPc) :
    (ofCleanup pc : Task G).lockUse = .idle := by
  cases pc <;> rfl

@[simp] theorem lockUse_ofPair (participant : ParticipantSession) (pc : PairPc) :
    (ofPair participant pc : Task G).lockUse = .idle := by
  cases pc <;> rfl

@[simp] theorem lockUse_ofAdmit (participant : ParticipantSession) (pc : AdmitPc) :
    (ofAdmit participant pc : Task G).lockUse = .idle := by
  cases pc <;> rfl

@[simp] theorem lockUse_ofAgent (call : AgentCall) (pc : AgentPc) :
    (ofAgent call pc : Task G).lockUse = pc.lockUse := by
  cases pc <;> rfl

@[simp] theorem lockUse_ofAudio (id : ParticipantSessionId) (pc : AudioPc) :
    (ofAudio id pc : Task G).lockUse = .idle := by
  cases pc <;> rfl

@[simp] theorem lockUse_ofStart (caller : StartCaller) (pc : StartPc) :
    (ofStart caller pc : Task G).lockUse = pc.lockUse := by
  cases caller <;> cases pc <;> rfl

@[simp] theorem lockUse_ofAbandon (id : ParticipantSessionId) (reason : EndReason)
    (caller : AbandonCaller) (pc : AbandonPc) :
    (ofAbandon id reason caller pc : Task G).lockUse = pc.lockUse := by
  cases caller <;> cases pc <;> rfl

@[simp] theorem lockUse_ofExpire (reason : EndReason) (caller : ExpireCaller) (pc : ExpirePc) :
    (ofExpire reason caller pc : Task G).lockUse = .idle := by
  cases caller <;> cases pc <;> rfl

@[simp] theorem lockUse_ofEvent (config : ExperimentConfig) (call : EventCall)
    (caller : EventCaller) (pc : EventPc) :
    (ofEvent config call caller pc : Task G).lockUse = caller.lockUse := by
  cases caller <;> cases pc <;> first | rfl | simp [ofEvent, EventCaller.lockUse]

end Task

def LockUse.Step (cell : Cell G) (pid : Nat) (sec : Section G) (before after : LockUse) : Prop :=
  match sec with
  | .fetchLock => before = .idle ∧ after = .waiting cell.transitionLock
  | .acquire l owner =>
    owner = pid ∧ cell.lockFree l = true ∧ before = .waiting l ∧ after = .holding l
  | .release l => before = .holding l ∧ after = .idle
  | _ => after = before

def Section.leavesLocks : Section G → Bool
  | .fetchLock | .acquire _ _ | .release _ => false
  | _ => true

theorem LockUse.Step.refl {cell : Cell G} {pid : Nat} {sec : Section G} {use : LockUse}
    (h : sec.leavesLocks = true) : LockUse.Step cell pid sec use use := by
  cases sec <;> first | rfl | cases h

section Procedures

variable {config : ExperimentConfig} {cell : Cell G} {pid : Nat} {input : Input} {sec : Section G}

theorem SubmitPc.step_lockUse {call : SubmitCall G} {pc pc' : SubmitPc G}
    (h : pc.step config call cell pid input = some (sec, pc')) :
    LockUse.Step cell pid sec pc.lockUse pc'.lockUse := by
  cases pc <;> simp only [step] at h <;>
    repeat' first | split at h | cases h | simp_all [LockUse.Step, lockUse]

theorem AbandonPc.step_lockUse {id : ParticipantSessionId} {reason : EndReason}
    {pc pc' : AbandonPc} (h : pc.step config id reason cell pid input = some (sec, pc')) :
    LockUse.Step cell pid sec pc.lockUse pc'.lockUse := by
  cases pc <;> simp only [step] at h <;>
    repeat' first | split at h | cases h | simp_all [LockUse.Step, lockUse]

theorem StartPc.step_lockUse {pc pc' : StartPc}
    (h : pc.step config cell pid input = some (sec, pc')) :
    LockUse.Step cell pid sec pc.lockUse pc'.lockUse := by
  cases pc <;> simp only [step] at h <;>
    repeat' first | split at h | cases h | simp_all [LockUse.Step, lockUse]

theorem AgentPc.step_lockUse {call : AgentCall} {pc pc' : AgentPc}
    (h : pc.step call cell pid input = some (sec, pc')) :
    LockUse.Step cell pid sec pc.lockUse pc'.lockUse := by
  cases pc <;> simp only [step] at h <;>
    repeat' first | split at h | cases h | simp_all [LockUse.Step, lockUse]

/-- The lock use of a task changes only with the sections that are about the lock. -/
theorem Task.next_lockUse {task task' : Task G} {started : List (Task G)}
    (h : task.next config cell pid input = some (sec, task', started)) :
    LockUse.Step cell pid sec task.lockUse task'.lockUse := by
  cases task
  all_goals
    obtain ⟨⟨sec', pc'⟩, hs, he⟩ := Option.map_eq_some_iff.mp h
    cases he
  case submit => exact SubmitPc.step_lockUse hs
  case abandon =>
    rw [lockUse_ofAbandon]
    exact AbandonPc.step_lockUse hs
  case start =>
    rw [lockUse_ofStart]
    exact StartPc.step_lockUse hs
  case agent =>
    rw [lockUse_ofAgent]
    exact AgentPc.step_lockUse hs
  all_goals
    have kind := next_kind h
    have quiet : sec.leavesLocks = true := by
      cases sec <;> first | rfl | simp [kinds, Section.kind] at kind
  case finalize => exact .refl quiet
  case touch => exact .refl quiet
  all_goals
    simp only [lockUse_ofEvent, lockUse_ofExpire, lockUse_ofSocket, lockUse_ofTimer,
      lockUse_ofCleanup, lockUse_ofPair, lockUse_ofAdmit, lockUse_ofAudio]
    exact .refl quiet

end Procedures

def Cell.LockEntry (cell : Cell G) : Prop :=
  ∀ l, cell.lockEntry = some l → l < cell.locks.length

/-- What a task may rely on while it waits for a lock or holds one. -/
def LockUse.Sound (cell : Cell G) (pid : Nat) : LockUse → Prop
  | idle => True
  | waiting l => l < cell.locks.length ∧ (cell.session.isSome → cell.lockEntry = some l)
  | holding l =>
    cell.locks[l]? = some (some pid) ∧ (cell.session.isSome → cell.lockEntry = some l)

/-- The cleaner forgets a lock only once its session has left memory. -/
def Task.DropsLate (cell : Cell G) : Task G → Prop
  | cleanup .dropLock => cell.session = none
  | _ => True

section Preservation

variable {config : ExperimentConfig} {cell : Cell G} {pid q : Nat} {sec : Section G}
  {before after use : LockUse}

theorem Cell.transitionLock_eq {l : Nat} (entry : cell.lockEntry = some l) :
    cell.transitionLock = l := by
  simp [transitionLock, entry]

theorem Cell.locks_fetchLock_length :
    (cell.apply config .fetchLock).locks.length =
      cell.locks.length + if cell.lockEntry.isNone then 1 else 0 := by
  simp only [apply]
  split <;> simp

theorem Cell.LockEntry.apply (entry : cell.LockEntry) : (cell.apply config sec).LockEntry := by
  intro l hl
  cases sec
  case fetchLock =>
    rw [Cell.locks_fetchLock_length]
    cases Option.some.inj hl
    cases h : cell.lockEntry with
    | some l =>
      rw [Cell.transitionLock_eq h]
      exact Nat.lt_add_right _ (entry l h)
    | none => simp [Cell.transitionLock, h]
  case dropLock => cases hl
  case acquire l' owner => simpa [Cell.apply] using entry l hl
  case release l' => simpa [Cell.apply] using entry l hl
  all_goals exact entry l hl

/-- A use stays sound while its lock and the entry do, and the session does not come back. -/
theorem LockUse.Sound.frame {cell' : Cell G} (sound : use.Sound cell q)
    (back : cell'.session.isSome → cell.session.isSome)
    (length : cell.locks.length ≤ cell'.locks.length)
    (owned : ∀ l, use = .holding l → cell.locks[l]? = some (some q) →
      cell'.locks[l]? = some (some q))
    (entry : cell.session.isSome → ∀ l, cell.lockEntry = some l → cell'.lockEntry = some l) :
    use.Sound cell' q := by
  cases use with
  | idle => trivial
  | waiting l =>
    exact ⟨Nat.lt_of_lt_of_le sound.1 length, fun here => entry (back here) l (sound.2 (back here))⟩
  | holding l =>
    exact ⟨owned l rfl sound.1, fun here => entry (back here) l (sound.2 (back here))⟩

/-- The executing task's own lock use stays sound. -/
theorem LockUse.Sound.step (entry : cell.LockEntry) (sound : before.Sound cell pid)
    (step : LockUse.Step cell pid sec before after)
    (late : sec = .dropLock → cell.session = none) : after.Sound (cell.apply config sec) pid := by
  cases sec
  case fetchLock =>
    obtain ⟨-, rfl⟩ := step
    have fetched : (cell.apply config .fetchLock).LockEntry := entry.apply
    exact ⟨fetched _ rfl, fun _ => rfl⟩
  case acquire l owner =>
    obtain ⟨rfl, -, rfl, rfl⟩ := step
    exact ⟨by simp [Cell.apply, List.getElem?_set_self sound.1], sound.2⟩
  case release l =>
    obtain ⟨-, rfl⟩ := step
    trivial
  case dropLock =>
    cases (step : after = before)
    have gone := late rfl
    exact sound.frame (by simp [Cell.apply, gone]) (Nat.le_refl _) (fun _ _ h => h)
      (by simp [gone])
  all_goals
    cases (step : after = before)
    exact sound.frame Cell.session_isSome_of_apply (Nat.le_refl _) (fun _ _ h => h)
      (fun _ _ h => h)

/-- So does the lock use of every other task. -/
theorem LockUse.Sound.other (mine : before.Sound cell pid)
    (step : LockUse.Step cell pid sec before after)
    (late : sec = .dropLock → cell.session = none) (other : q ≠ pid) (sound : use.Sound cell q) :
    use.Sound (cell.apply config sec) q := by
  cases sec
  case fetchLock =>
    refine sound.frame id (by simp [Cell.locks_fetchLock_length]) ?_ ?_
    · intro l _ hl
      simp only [Cell.apply]
      split
      · exact (List.getElem?_append_left (List.getElem?_eq_some_iff.mp hl).1).trans hl
      · exact hl
    · intro _ l hl
      exact congrArg some (Cell.transitionLock_eq hl)
  case acquire l owner =>
    obtain ⟨rfl, free, -, -⟩ := step
    refine sound.frame id (by simp [Cell.apply]) ?_ (fun _ _ h => h)
    intro l' _ hl'
    have ne : l ≠ l' := by
      rintro rfl
      simp [Cell.lockFree, hl'] at free
    simp only [Cell.apply]
    rw [List.getElem?_set_ne ne]
    exact hl'
  case release l =>
    obtain ⟨rfl, -⟩ := step
    refine sound.frame id (by simp [Cell.apply]) ?_ (fun _ _ h => h)
    intro l' _ hl'
    have ne : l ≠ l' := by
      rintro rfl
      exact other (by simpa [mine.1] using hl'.symm)
    simp only [Cell.apply]
    rw [List.getElem?_set_ne ne]
    exact hl'
  case dropLock =>
    have gone := late rfl
    exact sound.frame (by simp [Cell.apply, gone]) (Nat.le_refl _) (fun _ _ h => h)
      (by simp [gone])
  all_goals
    exact sound.frame Cell.session_isSome_of_apply (Nat.le_refl _) (fun _ _ h => h)
      (fun _ _ h => h)

end Preservation

section Outline

variable {config : ExperimentConfig} {cell : Cell G} {pid q : Nat} {input : Input}
  {sec : Section G} {task task' : Task G} {started : List (Task G)}

/-- Only the cleaner's point after the removal forgets the lock. -/
theorem Task.next_dropLock
    (h : task.next config cell pid input = some (.dropLock, task', started)) :
    task = .cleanup .dropLock := by
  have kind := next_kind h
  cases task <;> simp [kinds, Section.kind] at kind
  obtain ⟨⟨sec', pc'⟩, hs, he⟩ := Option.map_eq_some_iff.mp h
  rename_i pc
  cases pc <;> simp only [CleanupPc.step] at hs <;>
    repeat' first | split at hs | cases hs | cases he | rfl

/-- The cleaner reaches that point only by removing the session. -/
theorem Task.next_dropsLate
    (h : task.next config cell pid input = some (sec, task', started)) :
    task'.DropsLate (cell.apply config sec) := by
  cases task
  all_goals
    obtain ⟨⟨sec', pc'⟩, hs, he⟩ := Option.map_eq_some_iff.mp h
    cases he
  case cleanup pc =>
    cases pc <;> simp only [CleanupPc.step] at hs <;>
      repeat' first | split at hs | cases hs | trivial
    simp [ofCleanup, DropsLate, Cell.apply, MemorySection.apply]
  case expire reason caller pc =>
    cases caller <;> cases pc' <;> try trivial
    rename_i result
    simp only [ofExpire, CleanupPc.afterExpire]
    split <;> trivial
  case event call caller pc =>
    cases caller <;> cases pc' <;> try trivial
    simp only [ofEvent, SocketPc.afterDisconnect]
    split <;> trivial
  case submit => trivial
  case finalize => trivial
  case touch => trivial
  case start caller pc => cases caller <;> cases pc' <;> trivial
  case abandon id reason caller pc => cases caller <;> cases pc' <;> trivial
  all_goals cases pc' <;> trivial

theorem Task.DropsLate.apply (late : task.DropsLate cell) :
    task.DropsLate (cell.apply config sec) := by
  cases task <;> try trivial
  rename_i pc
  cases pc <;> first | trivial | exact Cell.apply_session_none late

theorem Task.lockUse_of_entry (h : task.entry = true) : task.lockUse = .idle := by
  unfold entry at h
  split at h <;> first | rfl | cases h

theorem Task.dropsLate_of_entry (h : task.entry = true) : task.DropsLate cell := by
  unfold entry at h
  split at h <;> trivial

theorem Task.dropLock_late (late : task.DropsLate cell)
    (h : task.next config cell pid input = some (.dropLock, task', started)) :
    cell.session = none := by
  cases next_dropLock h
  exact late

end Outline

def lockOutline (G : Game) (config : ExperimentConfig) :
    Outline (sessionProgram G config) Machine.unguarded where
  inv := Cell.LockEntry
  asn cell pid task := task.lockUse.Sound cell pid ∧ task.DropsLate cell
  entry := by
    intro w task pid _ _ enter
    have entry := (session_entry enter).1
    rw [Task.lockUse_of_entry entry]
    exact ⟨trivial, Task.dropsLate_of_entry entry⟩
  step := by
    intro w pid input task cell' task' started entry each _ ht h
    obtain ⟨sec, hn, -, rfl⟩ := session_step h
    obtain ⟨sound, late⟩ := each pid task ht
    have step := Task.next_lockUse hn
    refine ⟨entry.apply, ⟨sound.step entry step ?_, Task.next_dropsLate hn⟩, ?_⟩
    · rintro rfl
      exact Task.dropLock_late late hn
    · intro u mem q
      obtain ⟨call, deadline, -, rfl⟩ := Task.mem_started hn mem
      exact ⟨trivial, trivial⟩
  interference := by
    intro w pid input task cell' task' started q u _ each _ ht h other _ theirs
    obtain ⟨sec, hn, -, rfl⟩ := session_step h
    obtain ⟨sound, late⟩ := each pid task ht
    refine ⟨sound.other (Task.next_lockUse hn) ?_ other theirs.1, theirs.2.apply⟩
    rintro rfl
    exact Task.dropLock_late late hn

theorem lockOutline_initial {config : ExperimentConfig} (creation : Creation G) :
    (lockOutline G config).Valid (creation.initial config) where
  inv := by
    intro l hl
    cases hl
  each := by
    intro pid task ht
    cases ht

/-- The outline holds in every state any run reaches. -/
theorem lockOutline_valid {config : ExperimentConfig} {creation : Creation G}
    {guard : Pool (Cell G) (Task G) → Pool.Action (Task G) Input → Prop}
    {w : Pool (Cell G) (Task G)}
    (run : (sessionMachine G config).Run guard (creation.initial config) w) :
    (lockOutline G config).Valid w :=
  (lockOutline_initial creation).run (run.mono fun _ _ _ => trivial)

/-- While the session is in memory, at most one task holds its transition lock. -/
theorem transitionLock_exclusive {config : ExperimentConfig} {w : Pool (Cell G) (Task G)}
    (valid : (lockOutline G config).Valid w) (here : w.shared.session.isSome) {p q l l' : Nat}
    {t u : Task G} (hp : w.tasks[p]? = some t) (hq : w.tasks[q]? = some u)
    (holds : t.lockUse = .holding l) (holds' : u.lockUse = .holding l') : p = q := by
  have ht := (valid.each p t hp).1
  have hu := (valid.each q u hq).1
  rw [holds] at ht
  rw [holds'] at hu
  have same : l = l' := Option.some.inj ((ht.2 here).symm.trans (hu.2 here))
  subst same
  exact Option.some.inj (Option.some.inj (ht.1.symm.trans hu.1))

end Parlando
