import Parlando.Proofs.Hosting

namespace Parlando

open Concurrency

/-- A session after a step comes from one before it, or its row has just been inserted. -/
theorem HostSection.session_apply {host : HostedExperiment} {sec : HostSection} {i : Nat}
    {session' : HostedSession} (here : (sec.apply host).sessions[i]? = some session') :
    (∃ session, host.sessions[i]? = some session ∧ session'.runtime = session.runtime ∧
      (session.ended = true → session'.ended = true) ∧
      (session'.live = true → session.live = true ∨ sec = .insertSession i)) ∨
    ∃ r, sec = .insertRow r ∧ session' = ⟨some r, false, false⟩ := by
  cases sec with
  | insertRow r =>
    rcases Pool.task_of_append here with here | rfl
    · exact .inl ⟨session', here, rfl, id, .inl⟩
    · exact .inr ⟨r, rfl, rfl⟩
  | insertSession j =>
    change (host.sessions.modify j _)[i]? = some session' at here
    rw [List.getElem?_modify] at here
    obtain ⟨session, found, rfl⟩ := Option.map_eq_some_iff.mp here
    by_cases same : j = i
    · subst same
      exact .inl ⟨session, found, by simp, by simp, fun _ => .inr rfl⟩
    · exact .inl ⟨session, found, by simp [same], by simp [same], by simp [same]⟩
  | endRow j =>
    change (host.sessions.modify j _)[i]? = some session' at here
    rw [List.getElem?_modify] at here
    obtain ⟨session, found, rfl⟩ := Option.map_eq_some_iff.mp here
    by_cases same : j = i
    · exact .inl ⟨session, found, by simp [same], by simp [same], by simp [same]⟩
    · exact .inl ⟨session, found, by simp [same], by simp [same], by simp [same]⟩
  | endSession j =>
    change (host.sessions.modify j _)[i]? = some session' at here
    rw [List.getElem?_modify] at here
    obtain ⟨session, found, rfl⟩ := Option.map_eq_some_iff.mp here
    by_cases same : j = i
    · exact .inl ⟨session, found, by simp [same], by simp [same], by simp [same]⟩
    · exact .inl ⟨session, found, by simp [same], by simp [same], by simp [same]⟩
  | _ => exact .inl ⟨session', here, rfl, id, .inl⟩

/-- The session is kept by a step, whatever else the step does to it. -/
theorem HostSection.session_kept (host : HostedExperiment) (sec : HostSection) {i : Nat}
    {session : HostedSession} (here : host.sessions[i]? = some session) :
    ∃ session', (sec.apply host).sessions[i]? = some session' ∧
      session'.runtime = session.runtime := by
  have inside := (List.getElem?_eq_some_iff.mp here).1
  have kept : i < (sec.apply host).sessions.length := by
    cases sec <;> simp only [apply, HostedExperiment.updateSession, HostedExperiment.updateRuntime, List.length_modify,
      List.length_append, List.length_singleton] <;> omega
  obtain ⟨session', there⟩ : ∃ session', (sec.apply host).sessions[i]? = some session' :=
    ⟨_, List.getElem?_eq_getElem kept⟩
  refine ⟨session', there, ?_⟩
  rcases HostSection.session_apply there with ⟨before, found, same, -⟩ | ⟨r, rfl, rfl⟩
  · cases found.symm.trans here
    exact same
  · cases here.symm.trans ((List.getElem?_append_left inside).symm.trans there)
    rfl

namespace HostTask

/-- The admission has inserted its session's row and not put it in memory yet. -/
def inserts : HostTask → Option Nat
  | admission _ (.insertSession i) => some i
  | _ => none

end HostTask

structure HostedStep (host : HostedExperiment) (input : HostInput) (t : HostTask) (sec : HostSection)
    (t' : HostTask) : Prop where
  insertRow : ∀ r, sec = .insertRow r → t = .admission r .insertRow ∧ input.storeOk = true ∧
    input.refused = none
  insertSession : ∀ i, sec = .insertSession i → t.inserts = some i
  inserts : ∀ i, t'.inserts = some i → ∃ r, sec = .insertRow r ∧ i = host.sessions.length
  builds : t'.builds = true → t.builds = true ∨ t = .build .recheck ∧ host.cache = none

section
variable {host : HostedExperiment} {pid : Nat} {input : HostInput} {t t' : HostTask} {sec : HostSection}

theorem BuildPc.step_sessions {pc pc' : BuildPc} (h : pc.step host pid input = some (sec, pc')) :
    HostedStep host input (.build pc) sec (.build pc') := by
  cases pc
  case finalize lifecycle sessions =>
    cases sessions
    all_goals
      simp only [step] at h
      cases h
      constructor <;> grind [HostTask.builds, HostTask.inserts, Option.isSome_iff_ne_none,
      Option.isNone_iff_eq_none]
  all_goals simp only [step] at h
  all_goals repeat' split at h
  all_goals cases h
  all_goals constructor <;> grind [HostTask.builds, HostTask.inserts, Option.isSome_iff_ne_none,
      Option.isNone_iff_eq_none]

theorem AdmissionPc.step_sessions {r : Nat} {pc pc' : AdmissionPc}
    (h : pc.step r host input = some (sec, pc')) :
    HostedStep host input (.admission r pc) sec (.admission r pc') := by
  cases pc
  case intake =>
    obtain ⟨runtime, here, h⟩ := Option.bind_eq_some_iff.mp h
    repeat' split at h
    all_goals cases h
    all_goals constructor <;> grind [HostTask.builds, HostTask.inserts, Option.isSome_iff_ne_none,
      Option.isNone_iff_eq_none]
  all_goals simp only [step] at h
  all_goals repeat' split at h
  all_goals cases h
  all_goals constructor <;> grind [HostTask.builds, HostTask.inserts, Option.isSome_iff_ne_none,
      Option.isNone_iff_eq_none]

theorem HostTask.step_sessions (h : t.step host pid input = some (sec, t')) :
    HostedStep host input t sec t' := by
  cases t
  all_goals
    obtain ⟨⟨sec', pc'⟩, stepped, same⟩ := Option.map_eq_some_iff.mp h
    cases same
  case build => exact BuildPc.step_sessions stepped
  case admission => exact AdmissionPc.step_sessions stepped
  case ending i pc =>
    cases pc <;> simp only [EndingPc.step] at stepped
    all_goals repeat' split at stepped
    all_goals cases stepped
    all_goals constructor <;> intros <;> contradiction
  case update call pc =>
    cases pc
    case lock =>
      obtain ⟨runtime, here, stepped⟩ := Option.bind_eq_some_iff.mp stepped
      repeat' split at stepped
      all_goals cases stepped
      all_goals constructor <;> intros <;> contradiction
    all_goals simp only [UpdatePc.step] at stepped
    all_goals repeat' split at stepped
    all_goals cases stepped
    all_goals constructor <;> intros <;> contradiction
  case archive pc =>
    cases pc <;> simp only [ArchivePc.step] at stepped
    all_goals repeat' split at stepped
    all_goals cases stepped
    all_goals constructor <;> intros <;> contradiction
  case save revision pc =>
    cases pc <;> simp only [SavePc.step] at stepped
    all_goals repeat' split at stepped
    all_goals cases stepped
    all_goals constructor <;> intros <;> contradiction
  case refresh pc =>
    cases pc <;> simp only [RefreshPc.step] at stepped
    all_goals repeat' split at stepped
    all_goals cases stepped
    all_goals constructor <;> intros <;> contradiction

end

namespace HostedExperiment

def allEnded (host : HostedExperiment) : Bool :=
  host.sessions.all fun session => session.runtime.isNone || session.ended

end HostedExperiment

/--
A build that finds the cache empty finds no open session of an earlier runtime, and no admission
inserts a session's row before the new runtime is mounted.
-/
def HostTask.isSparing (w : Pool HostedExperiment HostTask) (input : HostInput) : HostTask → Bool
  | build .recheck => w.shared.cache.isSome || w.shared.allEnded
  | admission _ .insertRow =>
    !(input.storeOk && input.refused.isNone) || !w.tasks.any HostTask.builds
  | _ => true

def HostTask.sparing (w : Pool HostedExperiment HostTask) : Pool.Action HostTask HostInput → Bool
  | .spawn _ => true
  | .run pid input => w.tasks[pid]?.all (HostTask.isSparing w input)

structure Spares (w : Pool HostedExperiment HostTask) : Prop where
  building : w.Has (fun _ t => t.builds = true) → ∀ (i : Nat) session,
    w.shared.sessions[i]? = some session → session.runtime ≠ none → session.ended = true
  live : ∀ (i : Nat) session, w.shared.sessions[i]? = some session → session.live = true →
    session.runtime ≠ none
  inserts : w.Each fun _ t => ∀ i, t.inserts = some i →
    ∃ session, w.shared.sessions[i]? = some session ∧ session.runtime ≠ none

section
variable {w w' : Pool HostedExperiment HostTask}

theorem Spares.begun {t : HostTask} (spares : Spares w) (entered : t.entry w.shared = true) :
    Spares ⟨w.shared, w.tasks ++ [t]⟩ := by
  have fresh : t.builds = false ∧ t.inserts = none := by
    cases t with
    | build pc => cases pc <;> first | exact absurd entered Bool.false_ne_true | exact ⟨rfl, rfl⟩
    | admission r pc =>
      cases pc <;> first | exact absurd entered Bool.false_ne_true | exact ⟨rfl, rfl⟩
    | _ => exact ⟨rfl, rfl⟩
  constructor
  · rintro ⟨q, u, hu, builds⟩
    rcases Pool.task_of_append hu with hu | rfl
    · exact spares.building ⟨q, u, hu, builds⟩
    · exact absurd (fresh.1.symm.trans builds) Bool.false_ne_true
  · exact spares.live
  · refine Pool.Each.append spares.inserts (fun _ _ holds => holds) fun q i mine => ?_
    cases fresh.2.symm.trans mine

theorem Spares.step {a : Pool.Action HostTask HostInput} (spares : Spares w)
    (met : HostTask.sparing w a = true) (h : hostMachine.step w a = some w') : Spares w' := by
  rcases Program.step_cases h with ⟨t, rfl, entered, rfl⟩ |
    ⟨pid, input, t, host, t', started, rfl, ht, hs, rfl⟩
  · exact spares.begun entered
  obtain ⟨sec, stepped, rfl, rfl⟩ := hostProgram_step hs
  have step := HostTask.step_sessions stepped
  have sparing : t.isSparing w input = true := by
    have met : w.tasks[pid]?.all (HostTask.isSparing w input) = true := met
    rwa [ht] at met
  constructor
  · rintro ⟨q, u, hu, builds⟩ i session' here mine
    rcases HostSection.session_apply here with ⟨session, found, same, ended, -⟩ | ⟨r, rfl, rfl⟩
    · apply ended
      rw [same] at mine
      have before : w.Has (fun _ t => t.builds = true) ∨ w.shared.allEnded = true := by
        rcases Pool.task_after hu with ⟨rfl, rfl⟩ | ⟨other, hu⟩ | new
        · rcases step.builds builds with builds | ⟨rfl, empty⟩
          · exact .inl ⟨q, t, ht, builds⟩
          · simpa [HostTask.isSparing, empty] using Or.inr sparing
        · exact .inl ⟨q, u, hu, builds⟩
        · exact absurd new List.not_mem_nil
      rcases before with building | finished
      · exact spares.building building i session found mine
      · have ended := List.all_eq_true.mp finished session (List.mem_of_getElem? found)
        simpa [mine] using ended
    · obtain ⟨rfl, ok, accepted⟩ := step.insertRow r rfl
      have quiet : ∀ u ∈ w.tasks, u.builds = false := by
        simpa [HostTask.isSparing, ok, accepted] using sparing
      rcases Pool.task_after hu with ⟨rfl, rfl⟩ | ⟨other, hu⟩ | new
      · rcases step.builds builds with builds | ⟨same, -⟩
        · cases builds
        · cases same
      · have none := quiet u (List.mem_of_getElem? hu)
        exact absurd (none.symm.trans builds) Bool.false_ne_true
      · exact absurd new List.not_mem_nil
  · intro i session' here live
    rcases HostSection.session_apply here with ⟨session, found, same, -, was⟩ | ⟨r, rfl, rfl⟩
    · rw [same]
      rcases was live with live | rfl
      · exact spares.live i session found live
      · obtain ⟨own, there, created⟩ := spares.inserts pid t ht i (step.insertSession i rfl)
        cases there.symm.trans found
        exact created
    · exact Option.some_ne_none r
  · refine Pool.Each.after (fun i mine => ?_) (fun q u other hu i mine => ?_)
      fun u new => absurd new List.not_mem_nil
    · obtain ⟨r, rfl, rfl⟩ := step.inserts i mine
      exact ⟨⟨some r, false, false⟩, List.getElem?_concat_length, Option.some_ne_none r⟩
    · obtain ⟨session, found, created⟩ := spares.inserts q u hu i mine
      obtain ⟨session', here, same⟩ := HostSection.session_kept w.shared sec found
      exact ⟨session', here, by rwa [same]⟩

end

theorem HostedExperiment.spares_started (stored : ExperimentLifecycle) (revision : Int)
    (endedRows : List Bool) : Spares (started stored revision endedRows) where
  building := by
    rintro ⟨pid, t, ht, -⟩
    simp [started] at ht
  live i session here live := by
    simp only [started, List.getElem?_map] at here
    obtain ⟨ended, -, rfl⟩ := Option.map_eq_some_iff.mp here
    cases live
  inserts pid t ht := by simp [started] at ht

/--
A build is about to end the row of a session: if the row is open, no runtime of this process has
created the session, and none has it in memory.
-/
theorem rebuild_ends_left_over {stored : ExperimentLifecycle} {revision : Int}
    {endedRows : List Bool} {w : Pool HostedExperiment HostTask}
    (run : hostMachine.Run (fun w a => HostTask.sparing w a = true)
      (HostedExperiment.started stored revision endedRows) w)
    {pid i : Nat} {lifecycle : ExperimentLifecycle} {rest : List Nat} {session : HostedSession}
    (ht : w.tasks[pid]? = some (.build (.endSession lifecycle i rest)))
    (here : w.shared.sessions[i]? = some session) (isOpen : session.ended = false) :
    session.runtime = none ∧ session.live = false := by
  have spares : Spares w := run.invariant (HostedExperiment.spares_started stored revision endedRows)
    fun spares met h => spares.step met h
  have created : session.runtime = none := by
    by_contra mine
    have ended := spares.building ⟨pid, _, ht, rfl⟩ i session here mine
    exact absurd (isOpen.symm.trans ended) Bool.false_ne_true
  refine ⟨created, ?_⟩
  by_contra live
  exact spares.live i session here (Bool.not_eq_false _ ▸ live) created

/-- An earlier process has left one open session: the first build is about to end it. -/
theorem rebuild_ends_left_over_once : ∃ (w : Pool HostedExperiment HostTask) (session : HostedSession),
    w.shared.sessions[0]? = some session ∧ session.ended = false ∧ session.runtime = none ∧
      session.live = false := by
  have h : ((hostMachine.restrict HostTask.sparing).exec (HostedExperiment.started .active 1 [false])
      (.spawn (.build .probe) :: List.replicate 7 (.run 0 {}))).map (fun w =>
        (w.tasks[0]?, w.shared.sessions[0]?)) =
          some (some (.build (.endSession .inactive 0 [])), some ⟨none, false, false⟩) := rfl
  obtain ⟨w, reached, seen⟩ := Option.map_eq_some_iff.mp h
  obtain ⟨ht, here⟩ := Prod.mk.inj seen
  exact ⟨w, _, here, rfl, rebuild_ends_left_over (.of_exec (fun _ _ met => met) reached) ht here rfl⟩

namespace HostedExperiment

/-- A session is admitted, the experiment is deactivated, and a request builds a new runtime. -/
def deactivation : List (Pool.Action HostTask HostInput) :=
  .spawn (.build .probe) :: List.replicate 9 (.run 0 {}) ++
    .spawn (.update ⟨0, .active⟩ .checks) :: List.replicate 5 (.run 1 {}) ++
    .spawn (.admission 0 .intake) :: List.replicate 5 (.run 2 {}) ++
    .spawn (.update ⟨0, .inactive⟩ .checks) :: List.replicate 6 (.run 3 {}) ++
    .spawn (.build .probe) :: List.replicate 7 (.run 4 {})

end HostedExperiment

/-- After a deactivation the rebuild ends the row of a session that goes on in memory. -/
theorem rebuild_ends_live_session : ∃ w w' : Pool HostedExperiment HostTask,
    hostMachine.Run Machine.unguarded (HostedExperiment.started .active 1 []) w ∧
      w.tasks[4]? = some (.build (.endSession .inactive 0 [])) ∧
      hostMachine.step w (.run 4 {}) = some w' ∧
      w.shared.sessions = [⟨some 0, true, false⟩] ∧ w'.shared.sessions = [⟨some 0, true, true⟩] := by
  have h : (hostMachine.exec (HostedExperiment.started .active 1 []) HostedExperiment.deactivation).bind (fun w =>
      (hostMachine.step w (.run 4 {})).map fun w' =>
        (w.tasks[4]?, w.shared.sessions, w'.shared.sessions)) =
          some (some (.build (.endSession .inactive 0 [])), [⟨some 0, true, false⟩],
            [⟨some 0, true, true⟩]) := rfl
  obtain ⟨w, reached, h⟩ := Option.bind_eq_some_iff.mp h
  obtain ⟨w', stepped, seen⟩ := Option.map_eq_some_iff.mp h
  simp only [Prod.mk.injEq] at seen
  obtain ⟨ht, before, after⟩ := seen
  exact ⟨w, w', .of_exec_unguarded reached, ht, stepped, before, after⟩

end Parlando
