import Parlando.ExperimentRun
import Parlando.Proofs.PlanIdentity
import Mathlib.Data.List.Basic
import Std.Data.String.ToNat

namespace Parlando

namespace AgentExperiment

open Concurrency

namespace ExperimentProgram

variable {Config : Type} (program : ExperimentProgram Config) (runId : String)

def plansAt (position : Position) : List (SessionPlan Config) :=
  match position.call with
  | none => []
  | some call =>
    match program.runner.callPlans program.game program.spec runId call with
    | .ok plans => plans
    | .error _ => []

def succeeds (plan : SessionPlan Config) : Bool := (program.session plan).1

def gatherAll (plans : List (SessionPlan Config)) : ExecutionBatch :=
  ⟨plans.flatMap fun plan => (program.session plan).2, plans.any fun plan => !program.succeeds plan⟩

def follow (position : Position) : Position :=
  match position with
  | .returned outcome => .returned outcome
  | .boundary loop =>
    match program.train loop.checkpoint (trainingBatch runId loop) with
    | .ok next => program.afterUpdate loop next
    | .error error => .returned (.error error)
  | position =>
    match position.call with
    | none => position
    | some call =>
      match program.runner.callPlans program.game program.spec runId call with
      | .error error => .returned (.error error)
      | .ok plans =>
        if program.spec.execution.failFast && (program.gatherAll plans).hasFailure then
          .returned (.error "agent experiment stopped after a failed session")
        else program.afterSet (program.gatherAll plans) position

def positionAt : Nat → Position
  | 0 => program.firstPosition
  | n + 1 => program.follow runId (positionAt n)

def untilFailure : List (SessionPlan Config) → List (SessionPlan Config)
  | [] => []
  | plan :: plans => if program.succeeds plan then plan :: untilFailure plans else [plan]

def writesAt (position : Position) : List (SessionPlan Config) :=
  if program.spec.execution.failFast then program.untilFailure (program.plansAt runId position)
  else program.plansAt runId position

variable {program runId}

theorem positionAt_returned {k n : Nat} {outcome : Except String Unit}
    (returned : program.positionAt runId k = .returned outcome) (le : k ≤ n) :
    program.positionAt runId n = .returned outcome := by
  induction le with
  | refl => exact returned
  | step _ ih => rw [positionAt, ih, follow]

theorem plansAt_returned (outcome : Except String Unit) :
    program.plansAt runId (.returned outcome) = [] := rfl

theorem plansAt_boundary (loop : TrainingLoop) : program.plansAt runId (.boundary loop) = [] := rfl

theorem writesAt_subset {position : Position} {plan : SessionPlan Config}
    (mem : plan ∈ program.writesAt runId position) : plan ∈ program.plansAt runId position := by
  have sub (plans : List (SessionPlan Config)) (mem : plan ∈ program.untilFailure plans) :
      plan ∈ plans := by
    induction plans with
    | nil => exact mem
    | cons first plans ih =>
      rw [untilFailure] at mem
      split at mem
      · rcases List.mem_cons.mp mem with here | later
        · exact here ▸ List.mem_cons_self
        · exact List.mem_cons_of_mem _ (ih later)
      · exact List.mem_singleton.mp mem ▸ List.mem_cons_self
  rw [writesAt] at mem
  split at mem
  · exact sub _ mem
  · exact mem

/-- With fail-fast, no plan of these has failed. -/
def Clean (program : ExperimentProgram Config) (plans : List (SessionPlan Config)) : Prop :=
  program.spec.execution.failFast = true → ∀ plan ∈ plans, program.succeeds plan = true

theorem gatherAll_clean {plans : List (SessionPlan Config)} (clean : program.Clean plans) :
    (program.spec.execution.failFast && (program.gatherAll plans).hasFailure) = false := by
  cases failFast : program.spec.execution.failFast with
  | false => rfl
  | true =>
    simp only [gatherAll, Bool.true_and, List.any_eq_false, Bool.not_eq_true', Bool.not_eq_false]
    exact clean failFast

theorem writesAt_clean {position : Position}
    (clean : program.Clean (program.plansAt runId position)) :
    program.writesAt runId position = program.plansAt runId position := by
  have all (plans : List (SessionPlan Config))
      (succeed : ∀ plan ∈ plans, program.succeeds plan = true) :
      program.untilFailure plans = plans := by
    induction plans with
    | nil => rfl
    | cons plan plans ih =>
      obtain ⟨here, later⟩ := List.forall_mem_cons.mp succeed
      rw [untilFailure, if_pos here, ih later]
  rw [writesAt]
  split
  · rename_i failFast
    exact all _ (clean failFast)
  · rfl

/-- A failed plan behind plans that succeed is the last that is written. -/
theorem untilFailure_take {plans : List (SessionPlan Config)} {i : Nat} {plan : SessionPlan Config}
    (succeed : ∀ plan ∈ plans.take i, program.succeeds plan = true) (here : plans[i]? = some plan)
    (fails : program.succeeds plan = false) :
    program.untilFailure plans = plans.take (i + 1) := by
  induction plans generalizing i with
  | nil => simp at here
  | cons first plans ih =>
    cases i with
    | zero =>
      obtain rfl : first = plan := by simpa using here
      rw [untilFailure, if_neg (by simp [fails])]
      rfl
    | succ i =>
      rw [List.take_succ_cons] at succeed
      obtain ⟨first, later⟩ := List.forall_mem_cons.mp succeed
      rw [untilFailure, if_pos first, ih later (by simpa using here), List.take_succ_cons]

def stepsOf (program : ExperimentProgram Config) (runId : String) (call : PlanCall) : List Value :=
  match program.runner.callPlans program.game program.spec runId call with
  | .ok plans => plans.flatMap fun plan => (program.session plan).2
  | .error _ => []

/-- The steps of the first epochs after a number of updates. -/
def epochSteps (program : ExperimentProgram Config) (runId : String) (every updates epochs : Nat)
    (checkpoint : CheckpointId) : List Value :=
  (List.range epochs).flatMap fun epoch =>
    program.stepsOf runId (.training (updates * every + epoch + 1) checkpoint)

theorem epochSteps_succ (every updates epochs : Nat) (checkpoint : CheckpointId) :
    program.epochSteps runId every updates (epochs + 1) checkpoint =
      program.epochSteps runId every updates epochs checkpoint ++
        program.stepsOf runId (.training (updates * every + epochs + 1) checkpoint) := by
  rw [epochSteps, List.range_succ, List.flatMap_append, List.flatMap_singleton, epochSteps]

def Counted (program : ExperimentProgram Config) (runId : String) : Position → Prop
  | .training loop => program.spec.training = some loop.training ∧
      ∃ epochs < loop.training.checkpointEveryEpochs,
        loop.epoch = loop.checkpoints * loop.training.checkpointEveryEpochs + epochs + 1 ∧
        loop.pending = program.epochSteps runId loop.training.checkpointEveryEpochs
          loop.checkpoints epochs loop.checkpoint
  | .boundary loop => program.spec.training = some loop.training ∧
      ∃ updates, loop.checkpoints = updates + 1 ∧
        loop.epoch = loop.checkpoints * loop.training.checkpointEveryEpochs ∧
        loop.pending = program.epochSteps runId loop.training.checkpointEveryEpochs updates
          loop.training.checkpointEveryEpochs loop.checkpoint
  | .validation loop => program.spec.training = some loop.training ∧
      loop.epoch = loop.checkpoints * loop.training.checkpointEveryEpochs ∧ loop.pending = []
  | _ => True

/-- The order in which a run comes to its positions. -/
def clock : Position → Nat
  | .training loop => 3 * loop.epoch
  | .boundary loop => 3 * loop.epoch + 1
  | .validation loop => 3 * loop.epoch + 2
  | _ => 0

/-- The next epoch begins behind an update. -/
theorem nextEpoch_counted {loop : TrainingLoop} (trains : program.spec.training = some loop.training)
    (positive : 0 < loop.training.checkpointEveryEpochs)
    (epoch : loop.epoch = loop.checkpoints * loop.training.checkpointEveryEpochs)
    (pending : loop.pending = []) : program.Counted runId (nextEpoch loop) := by
  rw [nextEpoch]
  split
  · exact ⟨trains, 0, positive, by simp [epoch], by simp [pending, epochSteps]⟩
  · trivial

theorem enterTraining_counted
    (positive : ∀ training, program.spec.training = some training →
      0 < training.checkpointEveryEpochs) : program.Counted runId program.enterTraining := by
  unfold enterTraining
  split
  · trivial
  · rename_i training trains
    split
    · trivial
    · exact nextEpoch_counted trains (positive training trains) (by simp) rfl

theorem afterUpdate_counted {loop : TrainingLoop}
    (trains : program.spec.training = some loop.training)
    (positive : 0 < loop.training.checkpointEveryEpochs)
    (epoch : loop.epoch = loop.checkpoints * loop.training.checkpointEveryEpochs)
    (next : CheckpointId) : program.Counted runId (program.afterUpdate loop next) := by
  unfold afterUpdate
  split
  · simp only
    split
    · exact ⟨trains, epoch, rfl⟩
    · exact nextEpoch_counted trains positive epoch rfl
  · exact nextEpoch_counted trains positive epoch rfl

/-- The last epoch before an update is told by its remainder. -/
theorem epoch_mod {updates every epochs : Nat} (within : epochs < every) :
    (updates * every + epochs + 1) % every = 0 ↔ epochs + 1 = every := by
  rw [Nat.add_assoc, Nat.mul_add_mod_self_right]
  rcases Nat.lt_or_eq_of_le (Nat.succ_le_of_lt within) with inside | last
  · rw [Nat.mod_eq_of_lt inside]
    omega
  · simp [← last]

theorem afterSet_counted
    (positive : ∀ training, program.spec.training = some training →
      0 < training.checkpointEveryEpochs)
    {position : Position} (counted : program.Counted runId position) {call : PlanCall}
    (here : position.call = some call) {batch : ExecutionBatch}
    (gathered : batch.steps = program.stepsOf runId call) :
    program.Counted runId (program.afterSet batch position) := by
  cases position with
  | evaluation => exact enterTraining_counted positive
  | training loop =>
    obtain ⟨trains, epochs, within, epoch, pending⟩ := counted
    cases here
    have steps : loop.pending ++ batch.steps =
        program.epochSteps runId loop.training.checkpointEveryEpochs loop.checkpoints (epochs + 1)
          loop.checkpoint := by
      rw [epochSteps_succ, ← pending, gathered, epoch]
    simp only [afterSet]
    split
    · trivial
    · split
      · rename_i inside
        rw [nextEpoch]
        split
        · refine ⟨trains, epochs + 1, ?_, ?_, steps⟩
          · rw [ne_eq, epoch, epoch_mod within] at inside
            exact Nat.lt_of_le_of_ne within inside
          · simp only [epoch]
            omega
        · trivial
      · rename_i last
        rw [not_ne_iff, epoch, epoch_mod within] at last
        refine ⟨trains, loop.checkpoints, rfl, ?_, last ▸ steps⟩
        simp only [epoch, Nat.succ_mul]
        omega
  | boundary loop => cases here
  | validation loop =>
    obtain ⟨trains, epoch, pending⟩ := counted
    exact nextEpoch_counted trains (positive _ trains) epoch pending
  | returned outcome => trivial

def Positive (program : ExperimentProgram Config) : Prop :=
  ∀ training, program.spec.training = some training → 0 < training.checkpointEveryEpochs

theorem follow_set {position : Position} {call : PlanCall} (here : position.call = some call) :
    program.follow runId position =
      match program.runner.callPlans program.game program.spec runId call with
      | .error error => .returned (.error error)
      | .ok plans =>
        if program.spec.execution.failFast && (program.gatherAll plans).hasFailure then
          .returned (.error "agent experiment stopped after a failed session")
        else program.afterSet (program.gatherAll plans) position := by
  cases position with
  | boundary _ | returned _ => cases here
  | evaluation | training _ | validation _ =>
    cases here
    rfl

theorem follow_counted (positive : program.Positive) {position : Position}
    (counted : program.Counted runId position) :
    program.Counted runId (program.follow runId position) := by
  cases called : position.call with
  | none =>
    cases position with
    | boundary loop =>
      obtain ⟨trains, updates, checkpoints, epoch, pending⟩ := counted
      simp only [follow]
      split
      · exact afterUpdate_counted trains (positive _ trains) epoch _
      · trivial
    | returned _ => trivial
    | evaluation | training _ | validation _ => cases called
  | some call =>
    rw [follow_set called]
    split
    · trivial
    · rename_i plans planned
      split
      · trivial
      · refine afterSet_counted positive counted called ?_
        simp only [gatherAll, stepsOf, planned]

theorem counted_at (positive : program.Positive) (k : Nat) :
    program.Counted runId (program.positionAt runId k) := by
  induction k with
  | zero =>
    rw [positionAt, firstPosition]
    split
    · trivial
    · exact enterTraining_counted positive
  | succ k ih => exact follow_counted positive ih

theorem nextEpoch_clock {loop : TrainingLoop}
    (goes : (nextEpoch loop).hasReturned = false) : 3 * loop.epoch + 2 < clock (nextEpoch loop) := by
  unfold nextEpoch at goes ⊢
  split
  · simp only [clock]
    omega
  · rename_i finished
    rw [if_neg finished] at goes
    cases goes

theorem afterSet_clock {position : Position} {call : PlanCall} (here : position.call = some call)
    {batch : ExecutionBatch} (goes : (program.afterSet batch position).hasReturned = false) :
    clock position < clock (program.afterSet batch position) := by
  cases position with
  | evaluation =>
    simp only [afterSet] at goes ⊢
    unfold enterTraining at goes ⊢
    split at goes
    · cases goes
    · split at goes
      · cases goes
      · exact Nat.lt_of_le_of_lt (Nat.zero_le _) (nextEpoch_clock goes)
  | training loop =>
    simp only [afterSet] at goes ⊢
    split at goes
    · cases goes
    · rename_i succeeded
      rw [if_neg succeeded]
      split at goes
      · rename_i inside
        rw [if_pos inside]
        have later := nextEpoch_clock goes
        simp only [clock] at later ⊢
        omega
      · rename_i last
        rw [if_neg last]
        simp only [clock]
        omega
  | validation loop => exact nextEpoch_clock goes
  | boundary _ | returned _ => cases here

theorem afterUpdate_clock {loop : TrainingLoop} {next : CheckpointId}
    (goes : (program.afterUpdate loop next).hasReturned = false) :
    3 * loop.epoch + 1 < clock (program.afterUpdate loop next) := by
  unfold afterUpdate at goes ⊢
  split at goes
  · simp only at goes ⊢
    split at goes
    · rename_i due
      rw [if_pos due]
      simp only [clock]
      omega
    · rename_i due
      rw [if_neg due]
      have later := nextEpoch_clock goes
      simp only at later
      omega
  · have later := nextEpoch_clock goes
    simp only at later ⊢
    omega

theorem follow_clock {position : Position}
    (goes : (program.follow runId position).hasReturned = false) :
    clock position < clock (program.follow runId position) := by
  cases called : position.call with
  | none =>
    cases position with
    | boundary loop =>
      simp only [follow] at goes ⊢
      split at goes
      · exact afterUpdate_clock goes
      · cases goes
    | returned _ => cases goes
    | evaluation | training _ | validation _ => cases called
  | some call =>
    rw [follow_set called] at goes ⊢
    split at goes
    · cases goes
    · split at goes
      · cases goes
      · rename_i goesOn
        rw [if_neg goesOn]
        exact afterSet_clock called goes

theorem positionAt_goes {i k : Nat} (le : i ≤ k)
    (goes : (program.positionAt runId k).hasReturned = false) :
    (program.positionAt runId i).hasReturned = false := by
  cases here : program.positionAt runId i with
  | returned outcome =>
    rw [positionAt_returned here le] at goes
    cases goes
  | evaluation | training _ | boundary _ | validation _ => rfl

theorem clock_lt {i k : Nat} (lt : i < k)
    (goes : (program.positionAt runId k).hasReturned = false) :
    clock (program.positionAt runId i) < clock (program.positionAt runId k) := by
  induction lt with
  | refl => exact follow_clock goes
  | step _ ih => exact Nat.lt_trans (ih (positionAt_goes (Nat.le_succ _) goes)) (follow_clock goes)

/-- The clock tells the positions of a run apart. -/
theorem clock_inj {i k : Nat} (goes : (program.positionAt runId i).hasReturned = false)
    (goes' : (program.positionAt runId k).hasReturned = false)
    (same : clock (program.positionAt runId i) = clock (program.positionAt runId k)) : i = k := by
  rcases Nat.lt_trichotomy i k with lt | eq | gt
  · have := clock_lt lt goes'
    omega
  · exact eq
  · have := clock_lt gt goes
    omega

def callPhase : PlanCall → String × Nat
  | .evaluation => ("evaluation", 0)
  | .training epoch _ => ("training", epoch)
  | .validation checkpoints _ => ("validation", checkpoints)

theorem sessionSet_phase {runner : ExperimentRunner} {spec : ExperimentFile} {call : PlanCall}
    {set : SessionSet} (here : runner.sessionSet spec call = some set) :
    (set.phase, set.phaseIndex) = callPhase call := by
  cases call with
  | evaluation =>
    obtain ⟨sessions, -, rfl⟩ := Option.map_eq_some_iff.mp here
    rfl
  | training epoch checkpoint =>
    obtain ⟨training, -, here⟩ := Option.bind_eq_some_iff.mp here
    obtain ⟨reward, -, here⟩ := Option.bind_eq_some_iff.mp here
    cases here
    rfl
  | validation checkpoints checkpoint =>
    obtain ⟨training, -, here⟩ := Option.bind_eq_some_iff.mp here
    obtain ⟨validation, -, here⟩ := Option.bind_eq_some_iff.mp here
    cases here
    rfl

theorem plansAt_call {position : Position} {plan : SessionPlan Config}
    (mem : plan ∈ program.plansAt runId position) : ∃ call plans, position.call = some call ∧
      program.runner.callPlans program.game program.spec runId call = .ok plans ∧ plan ∈ plans := by
  unfold plansAt at mem
  split at mem
  · cases mem
  · rename_i call called
    split at mem
    · rename_i plans planned
      exact ⟨call, plans, called, planned, mem⟩
    · cases mem

theorem goes_of_call {position : Position} {call : PlanCall} (called : position.call = some call) :
    position.hasReturned = false := by
  cases position with
  | returned _ => cases called
  | _ => rfl

theorem clock_of_phase {position position' : Position} {call call' : PlanCall}
    (counted : program.Counted runId position) (counted' : program.Counted runId position')
    (called : position.call = some call) (called' : position'.call = some call')
    (same : callPhase call = callPhase call') : clock position = clock position' := by
  cases position with
  | boundary _ | returned _ => cases called
  | evaluation =>
    cases called
    cases position' with
    | boundary _ | returned _ => cases called'
    | evaluation => rfl
    | training _ | validation _ =>
      cases called'
      simp [callPhase] at same
  | training loop =>
    cases called
    cases position' with
    | boundary _ | returned _ => cases called'
    | training loop' =>
      cases called'
      simp only [callPhase, Prod.mk.injEq, true_and] at same
      rw [clock, clock, same]
    | evaluation | validation _ =>
      cases called'
      simp [callPhase] at same
  | validation loop =>
    cases called
    cases position' with
    | boundary _ | returned _ => cases called'
    | validation loop' =>
      cases called'
      simp only [callPhase, Prod.mk.injEq, true_and] at same
      have every : loop.training = loop'.training :=
        Option.some.inj (counted.1.symm.trans counted'.1)
      rw [clock, clock, counted.2.1, counted'.2.1, same, every]
    | evaluation | training _ =>
      cases called'
      simp [callPhase] at same

/-- Boundaries of a run have different numbers. -/
theorem boundary_inj (positive : program.Positive) {i k : Nat} {loop loop' : TrainingLoop}
    (here : program.positionAt runId i = .boundary loop)
    (there : program.positionAt runId k = .boundary loop')
    (same : loop.checkpoints = loop'.checkpoints) : i = k := by
  have counted : program.Counted runId (.boundary loop) := here ▸ counted_at positive i
  have counted' : program.Counted runId (.boundary loop') := there ▸ counted_at positive k
  obtain ⟨trains, -, -, epoch, -⟩ := counted
  obtain ⟨trains', -, -, epoch', -⟩ := counted'
  have every : loop.training = loop'.training := Option.some.inj (trains.symm.trans trains')
  have clocks : clock (program.positionAt runId i) = clock (program.positionAt runId k) := by
    rw [here, there, clock, clock, epoch, epoch', same, every]
  exact clock_inj (by rw [here]; rfl) (by rw [there]; rfl) clocks

/-- Plans of different positions of a run have different identities. -/
theorem position_of_planId (injective : Injective program.game.sha256)
    (positive : program.Positive) {i k : Nat} {plan plan' : SessionPlan Config}
    (mem : plan ∈ program.plansAt runId (program.positionAt runId i))
    (mem' : plan' ∈ program.plansAt runId (program.positionAt runId k))
    (same : plan.planId = plan'.planId) : i = k := by
  obtain ⟨call, plans, called, planned, within⟩ := plansAt_call mem
  obtain ⟨call', plans', called', planned', within'⟩ := plansAt_call mem'
  obtain ⟨set, _, here, planOf⟩ := ExperimentRunner.callPlans_ok planned within
  obtain ⟨set', _, there, planOf'⟩ := ExperimentRunner.callPlans_ok planned' within'
  have phases := ExperimentRunner.phase_eq injective planOf planOf' same
  rw [sessionSet_phase here, sessionSet_phase there] at phases
  exact clock_inj (goes_of_call called) (goes_of_call called')
    (clock_of_phase (counted_at positive i) (counted_at positive k) called called' phases)

theorem rejectDuplicates_nodup {seen ids : List String}
    (distinct : rejectDuplicates seen ids = .ok ⟨⟩) : ids.Nodup ∧ ∀ id ∈ ids, id ∉ seen := by
  induction ids generalizing seen with
  | nil => exact ⟨List.nodup_nil, by simp⟩
  | cons id ids ih =>
    rw [rejectDuplicates] at distinct
    split at distinct
    · cases distinct
    · rename_i unseen
      obtain ⟨nodup, apart⟩ := ih distinct
      have new : id ∉ seen := by simpa using unseen
      refine ⟨List.nodup_cons.mpr ⟨fun again => apart id again List.mem_cons_self, nodup⟩, ?_⟩
      intro other mem
      rcases List.mem_cons.mp mem with here | later
      · exact here ▸ new
      · exact fun before => apart other later (List.mem_cons_of_mem _ before)

theorem callPlans_distinct {runner : ExperimentRunner} {game : CompiledGame Config}
    {spec : ExperimentFile} {call : PlanCall} {plans : List (SessionPlan Config)}
    (planned : runner.callPlans game spec runId call = .ok plans) :
    (plans.map SessionPlan.planId).Nodup ∧ ∀ plan ∈ plans, plan.runId = runId := by
  unfold ExperimentRunner.callPlans at planned
  split at planned
  · obtain ⟨made, mapped, planned⟩ := Except.of_bind_ok planned
    obtain ⟨⟨⟩, distinct, planned⟩ := Except.of_bind_ok planned
    cases planned
    refine ⟨(rejectDuplicates_nodup distinct).1, fun plan mem => ?_⟩
    obtain ⟨coordinates, -, made⟩ := Except.mapM_preimage mapped mem
    obtain ⟨config, -, made⟩ := Except.of_bind_ok made
    obtain ⟨seatA, -, made⟩ := Except.of_bind_ok made
    obtain ⟨seatB, -, made⟩ := Except.of_bind_ok made
    obtain ⟨factory, -, made⟩ := Except.of_bind_ok made
    cases made
    rfl
  · cases planned
    exact ⟨List.nodup_nil, by simp⟩

theorem plansAt_distinct (position : Position) :
    ((program.plansAt runId position).map SessionPlan.planId).Nodup ∧
      ∀ plan ∈ program.plansAt runId position, plan.runId = runId := by
  unfold plansAt
  split
  · exact ⟨List.nodup_nil, by simp⟩
  · split
    · rename_i planned
      exact callPlans_distinct planned
    · exact ⟨List.nodup_nil, by simp⟩

end ExperimentProgram

end AgentExperiment

end Parlando
