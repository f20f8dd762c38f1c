import Parlando.Data.Window
import Parlando.Proofs.Recruitment

namespace Parlando.Intake

open Concurrency Window

variable {env : IntakeEnv} {s t : IntakeState} {pid : Nat} {input : IntakeInput}

/-- The limiter pruned what its windows may need, and no window that is shorter by what the readings
of the clock are late holds more than it allows. -/
structure Paced (maxAttempts : Nat) (windowSeconds late : Int) (s : IntakeState) : Prop where
  limit : s.rate.maxAttempts = maxAttempts
  width : s.rate.windowSeconds = windowSeconds
  pruned : Pruned s.attempts s.rate.global windowSeconds s.clock
  bounded : ∀ stop, (within s.attempts (windowSeconds - late) stop).length ≤ maxAttempts

structure Unpaced (s t : IntakeState) : Prop where
  rate : t.rate = s.rate
  clock : t.clock = s.clock
  attempts : t.attempts = s.attempts

theorem Unpaced.refl (s : IntakeState) : Unpaced s s := ⟨rfl, rfl, rfl⟩

theorem Aside.unpaced (aside : Aside s t) : Unpaced s t := ⟨aside.rate, aside.clock, aside.attempts⟩

theorem Unpaced.trans {u : IntakeState} (first : Unpaced s t) (second : Unpaced t u) :
    Unpaced s u :=
  ⟨second.rate.trans first.rate, second.clock.trans first.clock,
    second.attempts.trans first.attempts⟩

variable {maxAttempts : Nat} {windowSeconds late : Int}

theorem Paced.unpaced (paced : Paced maxAttempts windowSeconds late s) (unpaced : Unpaced s t) :
    Paced maxAttempts windowSeconds late t := by
  obtain ⟨rate, clock, attempts⟩ := unpaced
  obtain ⟨limit, width, pruned, bounded⟩ := paced
  refine ⟨by rw [rate, limit], by rw [rate, width], ?_, ?_⟩
  · rw [rate, clock, attempts]
    exact pruned
  · rw [attempts]
    exact bounded

/-- The limiter counts the calls of the window that ends with the latest reading. -/
theorem Paced.record_eq (paced : Paced maxAttempts windowSeconds late s) (now : Int) :
    s.rate.record now =
      if (within s.attempts windowSeconds (max s.clock now)).length ≥ maxAttempts then
        (false, { s.rate with global := recent s.rate.global windowSeconds now })
      else (true, { s.rate with global := recent s.rate.global windowSeconds now ++ [now] }) := by
  obtain ⟨limit, width, pruned, bounded⟩ := paced
  rw [← pruned.recent_eq, ← limit, ← width]
  rfl

theorem IntakePlace.step_unpaced {request : Option ProlificParticipantRequest}
    {found : ExperimentLifecycle} {place : IntakePlace} {next : Except IntakeReply IntakePlace}
    (other : place ≠ .pacing) (done : place.step env request found s input = some (t, next)) :
    Unpaced s t := by
  cases place with
  | pacing => exact absurd rfl other
  | fetchingKeys launch forced =>
    simp only [step] at done
    split at done <;> cases done <;> exact ⟨rfl, rfl, rfl⟩
  | storingKeys launch forced keys =>
    cases done
    exact ⟨rfl, rfl, rfl⟩
  | asking prolific =>
    simp only [step] at done
    repeat' split at done
    all_goals
      cases done
      exact ⟨rfl, rfl, rfl⟩
  | locking prolific =>
    simp only [step] at done
    repeat' split at done
    all_goals cases done <;> exact ⟨rfl, rfl, rfl⟩
  | admitting prolific method =>
    simp only [step] at done
    repeat' split at done
    all_goals
      cases done
      exact ⟨rfl, rfl, rfl⟩
  | registering pc =>
    simp only [step] at done
    split at done
    · cases done
      exact .refl s
    · cases done
      exact .refl s
    · obtain ⟨next, -, same⟩ := Option.map_eq_some_iff.mp done
      cases same
      exact ⟨rfl, rfl, rfl⟩
  | remembering participant =>
    simp only [step] at done
    split at done <;> cases done <;> exact ⟨rfl, rfl, rfl⟩
  | _ =>
    simp only [step] at done
    repeat' split at done
    all_goals
      cases done
      exact .refl s

/-- How late the readings may reach the limiter. -/
structure Lateness (windowSeconds late : Int) : Prop where
  slack : 0 ≤ late
  less : late < windowSeconds

/-- A call is let through if and only if the window of the latest reading has room for it. -/
theorem Paced.pacing (paced : Paced maxAttempts windowSeconds late s)
    (lateness : Lateness windowSeconds late) {request : Option ProlificParticipantRequest}
    {found : ExperimentLifecycle} {next : Except IntakeReply IntakePlace}
    (punctual : s.clock - late ≤ input.now.wholeSeconds)
    (done : IntakePlace.pacing.step env request found s input = some (t, next)) :
    Paced maxAttempts windowSeconds late t ∧
      (next = .ok .checking ↔ (within s.attempts windowSeconds
        (max s.clock input.now.wholeSeconds)).length < maxAttempts) := by
  have pruned := paced.pruned
  have counted := paced.record_eq input.now.wholeSeconds
  by_cases full : (within s.attempts windowSeconds
      (max s.clock input.now.wholeSeconds)).length ≥ maxAttempts
  · rw [if_pos full] at counted
    simp only [IntakePlace.step, counted] at done
    cases done
    refine ⟨⟨paced.limit, paced.width, pruned.prune, paced.bounded⟩, fun passed => ?_,
      fun room => absurd full (Nat.not_le.mpr room)⟩
    cases passed
  · rw [if_neg full] at counted
    have room := Nat.lt_of_not_le full
    have kept :
        (recent s.rate.global windowSeconds input.now.wholeSeconds).length < maxAttempts := by
      rwa [pruned.recent_eq]
    obtain ⟨slack, less⟩ := lateness
    simp only [IntakePlace.step, counted] at done
    cases done
    exact ⟨⟨paced.limit, paced.width, pruned.push (by omega) (by omega),
      pruned.within_push punctual slack kept paced.bounded⟩, fun _ => room, fun _ => rfl⟩

theorem IntakePc.step_paced (lateness : Lateness windowSeconds late)
    {request : Option ProlificParticipantRequest} {pc pc' : IntakePc}
    (paced : Paced maxAttempts windowSeconds late s)
    (punctual : s.clock - late ≤ input.now.wholeSeconds)
    (done : pc.step env request s pid input = some (t, pc')) :
    Paced maxAttempts windowSeconds late t := by
  cases pc with
  | entering =>
    simp only [step] at done
    repeat' split at done
    all_goals cases done <;> exact paced.unpaced ⟨rfl, rfl, rfl⟩
  | inside found place =>
    have left (u : IntakeState) : Unpaced u (leave u pid place) := ⟨rfl, rfl, rfl⟩
    have stepped {u : IntakeState} {next : Except IntakeReply IntakePlace}
        (done : place.step env request found s input = some (u, next)) :
        Paced maxAttempts windowSeconds late u := by
      by_cases pacing : place = .pacing
      · subst pacing
        exact (paced.pacing lateness punctual done).1
      · exact paced.unpaced (IntakePlace.step_unpaced pacing done)
    simp only [step] at done
    split at done
    · cases done
      exact paced.unpaced (left s)
    · split at done
      · cases done
      · rename_i ran
        cases done
        exact stepped ran
      · rename_i ran
        cases done
        exact (stepped ran).unpaced (left _)
  | done reply => cases done

theorem IntakeTask.step_paced (lateness : Lateness windowSeconds late) {task task' : IntakeTask}
    (paced : Paced maxAttempts windowSeconds late s)
    (punctual : s.clock - late ≤ input.now.wholeSeconds)
    (done : task.step env s pid input = some (t, task')) :
    Paced maxAttempts windowSeconds late t := by
  cases task with
  | launch request pc =>
    obtain ⟨⟨u, next⟩, step, same⟩ := Option.map_eq_some_iff.mp done
    cases same
    exact IntakePc.step_paced lateness paced punctual step
  | status call pc =>
    simp only [step] at done
    split at done
    · split at done
      · cases done
      · cases done
        exact paced.unpaced (StatusPc.leave_aside pc).unpaced
    · obtain ⟨⟨u, next⟩, step, same⟩ := Option.map_eq_some_iff.mp done
      cases same
      exact paced.unpaced (StatusPc.step_aside step).unpaced
  | refresh publishes cached pc =>
    simp only [step] at done
    split at done
    · split at done
      · cases done
      · cases done
        exact paced
    · obtain ⟨⟨u, next⟩, step, same⟩ := Option.map_eq_some_iff.mp done
      cases same
      exact paced.unpaced (RefreshPc.step_aside step).unpaced

/-- No reading of the clock reaches the limiter later than that behind one it was told before. -/
def Punctual (late : Int) (w : Pool IntakeState IntakeTask) :
    Pool.Action IntakeTask IntakeInput → Prop
  | .run _ input => w.shared.clock - late ≤ input.now.wholeSeconds
  | .spawn _ => True

instance (late : Int) (w : Pool IntakeState IntakeTask)
    (action : Pool.Action IntakeTask IntakeInput) : Decidable (Punctual late w action) := by
  cases action <;> unfold Punctual <;> infer_instance

theorem Paced.run {start w : Pool IntakeState IntakeTask}
    (lateness : Lateness windowSeconds late)
    (paced : Paced maxAttempts windowSeconds late start.shared)
    (run : (intakeProgram env).machine.Run (Punctual late) start w) :
    Paced maxAttempts windowSeconds late w.shared := by
  refine run.invariant paced fun {t u a} paced met step => ?_
  rcases Program.step_cases step with ⟨task, rfl, -, rfl⟩ |
    ⟨pid, input, task, s', task', started, rfl, -, ran, rfl⟩
  · exact paced
  · obtain ⟨⟨v, next⟩, stepped, same⟩ := Option.map_eq_some_iff.mp ran
    cases same
    exact IntakeTask.step_paced lateness paced met stepped

/-- Whatever the calls do at the same time, and in whatever order their readings of the clock reach
the limiter: where none is later than that, no window shorter by as much than the configured width
holds more calls let through than are allowed, wherever it ends; and a call passes if and only if
there is room in the configured window of the latest reading. -/
theorem intake_paced {start w : Pool IntakeState IntakeTask}
    (lateness : Lateness windowSeconds late)
    (limit : start.shared.rate = { maxAttempts, windowSeconds })
    (fresh : start.shared.attempts = [])
    (run : (intakeProgram env).machine.Run (Punctual late) start w) :
    (∀ stop, (within w.shared.attempts (windowSeconds - late) stop).length ≤ maxAttempts) ∧
    ∀ request found (input : IntakeInput) next t,
      w.shared.clock - late ≤ input.now.wholeSeconds →
      IntakePlace.pacing.step env request found w.shared input = some (t, next) →
      (next = .ok .checking ↔ (within w.shared.attempts windowSeconds
        (max w.shared.clock input.now.wholeSeconds)).length < maxAttempts) := by
  have empty : Paced maxAttempts windowSeconds late start.shared := by
    refine ⟨by rw [limit], by rw [limit], ⟨fun time member => ?_, ?_⟩, fun stop => ?_⟩
    · rw [fresh] at member
      cases member
    · rw [fresh, limit]
      rfl
    · rw [fresh]
      exact Nat.zero_le _
  have paced := empty.run lateness run
  exact ⟨paced.bounded, fun request found input next t punctual done =>
    (paced.pacing lateness punctual done).2⟩

def patientStart : IntakeState where
  lifecycle := .active
  rate := { maxAttempts := 1 }
  db := ⟨[], [], 0, [], [], []⟩

/-- Two calls come in within a minute, and a third one a minute after the first. -/
def threeCalls : List (Pool.Action IntakeTask IntakeInput) :=
  List.replicate 3 (.spawn (.launch none .entering)) ++
  [.run 0 {}, .run 1 {}, .run 2 {}, .run 0 {}, .run 1 { now := .seconds 59 },
    .run 2 { now := .seconds 60 }]

theorem intake_paced_threeCalls : ∃ w,
    ((intakeProgram linkedEnv).machine.restrict fun w action => decide (Punctual 0 w action)).exec
      ⟨patientStart, []⟩ threeCalls = some w ∧
    w.shared.attempts = [0, 60] ∧ ∀ stop, (within w.shared.attempts 60 stop).length ≤ 1 := by
  obtain ⟨w, ran⟩ : ∃ w, ((intakeProgram linkedEnv).machine.restrict fun w action =>
      decide (Punctual 0 w action)).exec ⟨patientStart, []⟩ threeCalls = some w := ⟨_, rfl⟩
  have run : (intakeProgram linkedEnv).machine.Run (Punctual 0) ⟨patientStart, []⟩ w :=
    .of_exec (fun _ _ met => of_decide_eq_true met) ran
  have lateness : Lateness 60 0 := ⟨by decide, by decide⟩
  have limit : patientStart.rate = ⟨[], 1, 60⟩ := rfl
  refine ⟨w, ran, ?_, (intake_paced lateness limit rfl run).1⟩
  cases ran
  rfl

end Parlando.Intake
