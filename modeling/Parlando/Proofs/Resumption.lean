import Parlando.Proofs.Uninterrupted

namespace Parlando

namespace AgentExperiment

open Concurrency
open Value (json)

namespace ExperimentProgram

variable {Config : Type} {program : ExperimentProgram Config} {runId : String} {k done : Nat}

/-- The plans with a result, when `done` plans of the position `k` have been written. -/
def Written (program : ExperimentProgram Config) (runId : String) (k done : Nat)
    (plan : SessionPlan Config) : Prop :=
  (∃ i < k, plan ∈ program.writesAt runId (program.positionAt runId i)) ∨
    plan ∈ (program.plansAt runId (program.positionAt runId k)).take done

def RecordAt (program : ExperimentProgram Config) (runId : String) (i n : Nat)
    (record : CheckpointRecord) : Prop :=
  ∃ loop next, program.positionAt runId i = .boundary loop ∧
    program.train loop.checkpoint (trainingBatch runId loop) = .ok next ∧
    loop.checkpoints = n ∧ checkpointRecord runId loop next = record

/-- Directory and updates of a run that has come to a place in the uninterrupted run. -/
structure Recorded (program : ExperimentProgram Config) (runId : String) (k done : Nat)
    (directory : OutputDirectory) (trains : List (CheckpointId × TrainingBatch)) : Prop where
  results : ∀ id result, directory.results.lookup id = some result ↔
    ∃ plan, program.Written runId k done plan ∧ plan.planId = id ∧
      program.sessionResult plan = result
  records : ∀ n record, directory.checkpoints.lookup n = some record ↔
    ∃ i < k, program.RecordAt runId i n record
  called : ∀ call ∈ trains, ∃ i ≤ k, ∃ loop, program.positionAt runId i = .boundary loop ∧
    call = (loop.checkpoint, trainingBatch runId loop)
  trained : ∀ i < k, ∀ loop, program.positionAt runId i = .boundary loop →
    (loop.checkpoint, trainingBatch runId loop) ∈ trains

namespace Recorded

variable {directory : OutputDirectory} {trains : List (CheckpointId × TrainingBatch)}
  (recorded : program.Recorded runId k done directory trains)

include recorded

/-- The results of the set at which the run has arrived. -/
theorem lookup_here (injective : Injective program.game.sha256) (positive : program.Positive)
    {plan : SessionPlan Config} {result : SessionResult}
    (mem : plan ∈ program.plansAt runId (program.positionAt runId k)) :
    directory.results.lookup plan.planId = some result ↔
      plan ∈ (program.plansAt runId (program.positionAt runId k)).take done ∧
        program.sessionResult plan = result := by
  rw [recorded.results]
  constructor
  · intro written
    obtain ⟨other, written, same, rfl⟩ := written
    rcases written with ⟨i, lt, earlier⟩ | here
    · have := position_of_planId injective positive (writesAt_subset earlier) mem same
      omega
    · have inside := List.mem_of_mem_take here
      obtain rfl : other = plan := List.inj_on_of_nodup_map (plansAt_distinct _).1 inside mem same
      exact ⟨here, rfl⟩
  · intro ⟨here, result⟩
    exact ⟨plan, .inr here, rfl, result⟩

/-- The results of a set that the run has left behind. -/
theorem lookup_earlier {i : Nat} (lt : i < k) {plan : SessionPlan Config}
    (mem : plan ∈ program.writesAt runId (program.positionAt runId i)) :
    directory.results.lookup plan.planId = some (program.sessionResult plan) :=
  (recorded.results _ _).mpr ⟨plan, .inl ⟨i, lt, mem⟩, rfl, rfl⟩

theorem lookup_later (injective : Injective program.game.sha256) (positive : program.Positive)
    {plan : SessionPlan Config}
    (mem : plan ∈ (program.plansAt runId (program.positionAt runId k)).drop done) :
    directory.results.lookup plan.planId = none := by
  cases found : directory.results.lookup plan.planId with
  | none => rfl
  | some result =>
    have inside := List.mem_of_mem_drop mem
    obtain ⟨before, -⟩ := (recorded.lookup_here injective positive inside).mp found
    have nodup : (program.plansAt runId (program.positionAt runId k)).Nodup :=
      List.Nodup.of_map _ (plansAt_distinct _).1
    exact absurd mem (List.disjoint_take_drop nodup (Nat.le_refl done) before)

/-- Another result. -/
theorem write {plan : SessionPlan Config}
    (next : (program.plansAt runId (program.positionAt runId k))[done]? = some plan)
    (fresh : directory.results.lookup plan.planId = none) :
    program.Recorded runId k (done + 1) { directory with
      results := AList.insert plan.planId (program.sessionResult plan) directory.results }
      trains where
  results := by
    intro id result
    have taken : (program.plansAt runId (program.positionAt runId k)).take (done + 1) =
        (program.plansAt runId (program.positionAt runId k)).take done ++ [plan] := by
      rw [List.take_add_one, next]
      rfl
    have written (other : SessionPlan Config) : program.Written runId k (done + 1) other ↔
        program.Written runId k done other ∨ other = plan := by
      rw [Written, Written, taken, List.mem_append, List.mem_singleton, or_assoc]
    simp only [Map.lookup_insert_eq, written]
    split
    · rename_i same
      subst same
      constructor
      · intro here
        exact ⟨plan, .inr rfl, rfl, Option.some.inj here⟩
      · intro ⟨other, here, same, result⟩
        rcases here with before | rfl
        · have found := (recorded.results _ _).mpr ⟨other, before, same, result⟩
          rw [fresh] at found
          cases found
        · exact congrArg some result
    · rename_i differ
      rw [recorded.results]
      constructor
      · intro ⟨other, before, same, result⟩
        exact ⟨other, .inl before, same, result⟩
      · intro ⟨other, here, same, result⟩
        rcases here with before | rfl
        · exact ⟨other, before, same, result⟩
        · exact absurd same.symm differ
  records := recorded.records
  called := recorded.called
  trained := recorded.trained

/-- The run leaves a position. -/
theorem leave {directory' : OutputDirectory}
    (written : program.writesAt runId (program.positionAt runId k) =
      (program.plansAt runId (program.positionAt runId k)).take done)
    (results : directory'.results = directory.results)
    (records : ∀ n record, directory'.checkpoints.lookup n = some record ↔
      directory.checkpoints.lookup n = some record ∨ program.RecordAt runId k n record)
    (trained : ∀ loop, program.positionAt runId k = .boundary loop →
      (loop.checkpoint, trainingBatch runId loop) ∈ trains) :
    program.Recorded runId (k + 1) 0 directory' trains where
  results := by
    intro id result
    have same (plan : SessionPlan Config) :
        program.Written runId (k + 1) 0 plan ↔ program.Written runId k done plan := by
      simp only [Written, List.take_zero, List.not_mem_nil, or_false, ← written,
        Nat.lt_succ_iff_lt_or_eq, or_and_right, exists_or, exists_eq_left]
    simp only [results, recorded.results, same]
  records := by
    intro n record
    rw [records, recorded.records]
    simp only [Nat.lt_succ_iff_lt_or_eq, or_and_right, exists_or, exists_eq_left]
  called := by
    intro call mem
    obtain ⟨i, le, here⟩ := recorded.called call mem
    exact ⟨i, Nat.le_succ_of_le le, here⟩
  trained := by
    intro i lt loop here
    rcases Nat.lt_succ_iff_lt_or_eq.mp lt with earlier | rfl
    · exact recorded.trained i earlier loop here
    · exact trained loop here

/-- The run leaves a set. -/
theorem leaveSet {call : PlanCall} (called : (program.positionAt runId k).call = some call)
    (written : program.writesAt runId (program.positionAt runId k) =
      (program.plansAt runId (program.positionAt runId k)).take done) :
    program.Recorded runId (k + 1) 0 directory trains := by
  have notBoundary (loop : TrainingLoop) : program.positionAt runId k ≠ .boundary loop := by
    intro boundary
    rw [boundary] at called
    cases called
  refine recorded.leave written rfl (fun n record => ?_) fun loop boundary =>
    absurd boundary (notBoundary loop)
  refine ⟨.inl, fun either => either.resolve_right ?_⟩
  intro ⟨loop, next, boundary, _⟩
  exact notBoundary loop boundary

end Recorded

def Planned (program : ExperimentProgram Config) (runId : String) (position : Position) : Prop :=
  ∃ call, position.call = some call ∧
    program.runner.callPlans program.game program.spec runId call =
      .ok (program.plansAt runId position)

/-- What a process has done at a position `p` of a run whose directory has come to `k`. -/
inductive Stands (program : ExperimentProgram Config) (runId : String)
    (trains : List (CheckpointId × TrainingBatch)) (k done p : Nat) : Stage Config → Prop
  | entered (clean : program.Clean ((program.plansAt runId (program.positionAt runId k)).take done)) :
    Stands program runId trains k done p .entered
  | replaying (lt : p < k)
    (clean : program.Clean ((program.plansAt runId (program.positionAt runId k)).take done))
    (planned : program.Planned runId (program.positionAt runId p)) :
    Stands program runId trains k done p
      (.executing [] (program.gatherAll (program.plansAt runId (program.positionAt runId p))))
  | executing (here : p = k) (i : Nat) (le : i ≤ done)
    (close : program.spec.execution.failFast = true → done ≤ i + 1)
    (clean : program.Clean ((program.plansAt runId (program.positionAt runId k)).take i))
    (planned : program.Planned runId (program.positionAt runId k)) :
    Stands program runId trains k done p
      (.executing ((program.plansAt runId (program.positionAt runId k)).drop i)
        (program.gatherAll ((program.plansAt runId (program.positionAt runId k)).take i)))
  | trained (here : p = k) (loop : TrainingLoop) (next : CheckpointId)
    (boundary : program.positionAt runId k = .boundary loop)
    (updated : program.train loop.checkpoint (trainingBatch runId loop) = .ok next)
    (presented : (loop.checkpoint, trainingBatch runId loop) ∈ trains) :
    Stands program runId trains k done p (.trained next)

def Standing (program : ExperimentProgram Config) (runId : String)
    (trains : List (CheckpointId × TrainingBatch)) (k done : Nat) : Option (Process Config) → Prop
  | none => (program.positionAt runId k).hasReturned = false ∧
      program.Clean ((program.plansAt runId (program.positionAt runId k)).take done)
  | some process => process.runId = runId ∧ ∃ p ≤ k,
      process.position = program.positionAt runId p ∧
      ((program.positionAt runId k).hasReturned = true → p = k) ∧
      program.Stands runId trains k done p process.stage

def Resumes (program : ExperimentProgram Config) (runId : String) (s : ExperimentState Config) :
    Prop :=
  ∃ k done, program.Recorded runId k done s.directory s.trains ∧
    program.Standing runId s.trains k done s.process

theorem Standing.process {s : ExperimentState Config} {id : String} {position : Position}
    {stage : Stage Config} {trains : List (CheckpointId × TrainingBatch)}
    (standing : program.Standing runId trains k done s.process)
    (process : s.process = some ⟨id, position, stage⟩) : id = runId ∧ ∃ p ≤ k,
      position = program.positionAt runId p ∧
      ((program.positionAt runId k).hasReturned = true → p = k) ∧
      program.Stands runId trains k done p stage := by
  rw [process] at standing
  exact standing

/-- A process that is behind the directory goes on to the next position. -/
theorem Standing.advance {trains : List (CheckpointId × TrainingBatch)} {p : Nat} (lt : p < k)
    (goes : (program.positionAt runId k).hasReturned = true → p = k)
    (clean : program.Clean ((program.plansAt runId (program.positionAt runId k)).take done)) :
    program.Standing runId trains k done
      (some ⟨runId, program.follow runId (program.positionAt runId p), .entered⟩) := by
  refine ⟨rfl, p + 1, lt, rfl, fun returned => ?_, .entered clean⟩
  have := goes returned
  omega

/-- A process that has come as far as the directory takes it to the next position. -/
theorem Standing.arrive {trains : List (CheckpointId × TrainingBatch)} :
    program.Standing runId trains (k + 1) 0
      (some ⟨runId, program.follow runId (program.positionAt runId k), .entered⟩) :=
  ⟨rfl, k + 1, Nat.le_refl _, rfl, fun _ => rfl, .entered fun _ plan mem => by simp at mem⟩

theorem follow_planned {position : Position} (planned : program.Planned runId position)
    (clean : program.Clean (program.plansAt runId position)) :
    program.follow runId position =
      program.afterSet (program.gatherAll (program.plansAt runId position)) position := by
  obtain ⟨call, called, plans⟩ := planned
  rw [follow_set called, plans]
  simp only [gatherAll_clean clean, Bool.false_eq_true, if_false]

/-- What the run has passed, it has passed without a failure that stops it. -/
theorem clean_of_passed {p : Nat} (lt : p < k)
    (goes : (program.positionAt runId k).hasReturned = false) :
    program.Clean (program.plansAt runId (program.positionAt runId p)) := by
  intro failFast plan mem
  by_contra fails
  obtain ⟨call, plans, called, planned, within⟩ := plansAt_call mem
  have stops : (program.positionAt runId (p + 1)).hasReturned = true := by
    rw [positionAt, follow_set called, planned]
    have failure : (program.gatherAll plans).hasFailure = true :=
      List.any_eq_true.mpr ⟨plan, within, by simpa using fails⟩
    simp only [failFast, failure, Bool.and_self, if_true]
    rfl
  rw [positionAt_goes lt goes] at stops
  cases stops

def Rereads (program : ExperimentProgram Config) : Prop :=
  ∀ plan, program.reload (program.session plan).2 = .ok (program.session plan).2

theorem skipFinalized_append {directory : OutputDirectory} (rereads : program.Rereads)
    (finalized waiting : List (SessionPlan Config)) (batch : ExecutionBatch)
    (ids : ∀ plan ∈ finalized, plan.runId = runId)
    (found : ∀ plan ∈ finalized,
      directory.results.lookup plan.planId = some (program.sessionResult plan))
    (missing : ∀ plan ∈ waiting, directory.results.lookup plan.planId = none) :
    program.skipFinalized directory runId (finalized ++ waiting) batch =
      .ok (waiting, ⟨batch.steps ++ (program.gatherAll finalized).steps,
        batch.hasFailure || (program.gatherAll finalized).hasFailure⟩) := by
  induction finalized generalizing batch with
  | nil =>
    have rest : program.skipFinalized directory runId waiting batch = .ok (waiting, batch) := by
      clear found ids
      induction waiting with
      | nil => rfl
      | cons plan waiting ih =>
        obtain ⟨here, later⟩ := List.forall_mem_cons.mp missing
        rw [skipFinalized]
        simp only [finalizedResult, here, bind, Except.bind, ih later]
        rfl
    rw [List.nil_append, rest]
    simp [gatherAll]
  | cons plan finalized ih =>
    obtain ⟨here, later⟩ := List.forall_mem_cons.mp found
    obtain ⟨id, ids⟩ := List.forall_mem_cons.mp ids
    have accepted : program.finalizedResult directory runId plan.planId =
        .ok (some (program.sessionResult plan)) := by
      rw [finalizedResult, here]
      simp [sessionResult, id, rereads plan, bind, Except.bind, pure, Except.pure]
    rw [List.cons_append, skipFinalized]
    simp only [accepted, bind, Except.bind]
    rw [ih _ ids later]
    simp [gatherAll, ExecutionBatch.extend, sessionResult, succeeds, Bool.or_assoc]

theorem gatherAll_concat (plans : List (SessionPlan Config)) (plan : SessionPlan Config) :
    program.gatherAll (plans ++ [plan]) =
      (program.gatherAll plans).extend (program.sessionResult plan) := by
  simp [gatherAll, ExecutionBatch.extend, sessionResult, succeeds, Bool.or_comm]

theorem mem_take_iff {α : Type*} {l : List α} (nodup : l.Nodup) {n m : Nat} {a : α}
    (here : l[n]? = some a) : a ∈ l.take m ↔ n < m := by
  obtain ⟨inside, rfl⟩ := List.getElem?_eq_some_iff.mp here
  rw [List.mem_take_iff_getElem]
  constructor
  · intro ⟨n', lt, same⟩
    have := (nodup.getElem_inj_iff).mp same
    omega
  · intro lt
    exact ⟨n, by omega, rfl⟩

variable {s s' : ExperimentState Config} {index : Nat}

/-- The plans of the position that a process is at, in the directory it finds. -/
theorem plan_planned {id : String} {position : Position} {call : PlanCall}
    (process : s.process = some ⟨id, position, .entered⟩) (called : position.call = some call)
    (planned : program.runner.callPlans program.game program.spec id call =
      .ok (program.plansAt id position))
    {waiting : List (SessionPlan Config)} {batch : ExecutionBatch}
    (skipped : program.skipFinalized s.directory id (program.plansAt id position) {} =
      .ok (waiting, batch))
    (h : program.step s .plan = some s') :
    s' = { s with process := some ⟨id, position, .executing waiting batch⟩ } := by
  simp only [step, process, called, Option.bind_eq_bind, Option.bind_some, planned, skipped] at h
  exact (Option.some.inj h).symm

theorem plan_failed {id : String} {position : Position} {call : PlanCall} {error : String}
    (process : s.process = some ⟨id, position, .entered⟩) (called : position.call = some call)
    (failed : program.runner.callPlans program.game program.spec id call = .error error)
    (h : program.step s .plan = some s') :
    s' = ExperimentState.moveTo s id (.returned (.error error)) := by
  simp only [step, process, called, Option.bind_eq_bind, Option.bind_some, failed] at h
  exact (Option.some.inj h).symm

theorem plan_enabled (h : program.step s .plan = some s') : ∃ id position call,
    s.process = some ⟨id, position, .entered⟩ ∧ position.call = some call := by
  cases process : s.process with
  | none => simp [step, process] at h
  | some now =>
    obtain ⟨id, position, stage⟩ := now
    cases stage with
    | entered =>
      cases called : position.call with
      | none => simp [step, process, called] at h
      | some call => exact ⟨id, position, call, rfl, called⟩
    | executing _ _ | trained _ => simp [step, process] at h

/-- Planning a set again finds what the run has written of it. -/
theorem plan_step (injective : Injective program.game.sha256) (positive : program.Positive)
    (rereads : program.Rereads) (resumes : program.Resumes runId s) (h : program.step s .plan = some s') :
    program.Resumes runId s' := by
  obtain ⟨id, position, call, process, called⟩ := plan_enabled h
  obtain ⟨k, done, recorded, standing⟩ := resumes
  obtain ⟨rfl, p, le, rfl, goes, stands⟩ := standing.process process
  cases stands with
  | entered clean =>
    cases planned : program.runner.callPlans program.game program.spec id call with
    | error error =>
      obtain rfl := plan_failed process called planned h
      have target : program.follow id (program.positionAt id p) = .returned (.error error) := by
        rw [follow_set called, planned]
      rw [ExperimentState.moveTo, ← target]
      rcases Nat.lt_or_eq_of_le le with lt | rfl
      · exact ⟨k, done, recorded, .advance lt goes clean⟩
      · have none : program.plansAt id (program.positionAt id p) = [] := by
          simp only [plansAt, called, planned]
        refine ⟨p + 1, 0, recorded.leaveSet called ?_, .arrive⟩
        simp [writesAt, none, untilFailure]
    | ok plans =>
      obtain rfl : program.plansAt id (program.positionAt id p) = plans := by
        simp only [plansAt, called, planned]
      have isPlanned : program.Planned id (program.positionAt id p) := ⟨call, called, planned⟩
      have ids : ∀ plan ∈ program.plansAt id (program.positionAt id p), plan.runId = id :=
        (plansAt_distinct _).2
      rcases Nat.lt_or_eq_of_le le with lt | rfl
      · have notReturned : (program.positionAt id k).hasReturned = false := by
          by_contra returned
          have := goes (by simpa using returned)
          omega
        have passed := clean_of_passed lt notReturned
        have skipped := skipFinalized_append rereads _ [] {} ids
          (fun plan mem => recorded.lookup_earlier lt (by rw [writesAt_clean passed]; exact mem))
          (by simp)
        rw [List.append_nil] at skipped
        obtain rfl := plan_planned process called planned skipped h
        refine ⟨k, done, recorded, rfl, p, le, rfl, goes, ?_⟩
        simpa using Stands.replaying lt clean isPlanned
      · have skipped := skipFinalized_append rereads
          ((program.plansAt id (program.positionAt id p)).take done)
          ((program.plansAt id (program.positionAt id p)).drop done) {}
          (fun plan mem => ids plan (List.mem_of_mem_take mem))
          (fun plan mem => (recorded.lookup_here injective positive
            (List.mem_of_mem_take mem)).mpr ⟨mem, rfl⟩)
          (fun plan mem => recorded.lookup_later injective positive mem)
        rw [List.take_append_drop] at skipped
        obtain rfl := plan_planned process called planned skipped h
        refine ⟨p, done, recorded, rfl, p, le, rfl, goes, ?_⟩
        simpa using Stands.executing rfl done (Nat.le_refl _) (fun _ => Nat.le_succ _) clean
          isPlanned

theorem write_cases (h : program.step s (.write index) = some s') :
    ∃ id position waiting batch plan, s.process = some ⟨id, position, .executing waiting batch⟩ ∧
      waiting[index]? = some plan ∧ index < program.concurrency ∧
      s.directory.results.lookup plan.planId = none ∧
      s' = { s with directory := { s.directory with
        results := AList.insert plan.planId (program.sessionResult plan) s.directory.results } } := by
  simp only [step] at h
  split at h
  · rename_i id position waiting batch process
    obtain ⟨plan, here, h⟩ := Option.bind_eq_some_iff.mp h
    split at h
    · rename_i fits
      exact ⟨id, position, waiting, batch, plan, process, here, fits.1, fits.2,
        (Option.some.inj h).symm⟩
    · cases h
  · cases h

/-- The first unwritten plan is written. -/
theorem write_step (injective : Injective program.game.sha256) (positive : program.Positive)
    (inOrder : program.inOrder s (.write index) = true)
    (resumes : program.Resumes runId s) (h : program.step s (.write index) = some s') :
    program.Resumes runId s' := by
  obtain ⟨id, position, waiting, batch, plan, process, here, within, fresh, rfl⟩ := write_cases h
  obtain ⟨k, done, recorded, standing⟩ := resumes
  obtain ⟨rfl, p, le, rfl, goes, stands⟩ := standing.process process
  simp only [ExperimentProgram.inOrder, process, List.all_eq_true] at inOrder
  cases stands with
  | replaying lt clean planned => simp at here
  | executing same i upTo close clean planned =>
    subst same
    rw [List.getElem?_drop] at here
    have unwritten : plan ∉ (program.plansAt id (program.positionAt id p)).take done := by
      intro before
      rw [(recorded.lookup_here injective positive (List.mem_of_mem_take before)).mpr
        ⟨before, rfl⟩] at fresh
      cases fresh
    have nodup : (program.plansAt id (program.positionAt id p)).Nodup :=
      List.Nodup.of_map _ (plansAt_distinct _).1
    have next : i + index = done := by
      have notBefore := (mem_take_iff nodup here).not.mp unwritten
      by_contra differ
      obtain ⟨inside, -⟩ := List.getElem?_eq_some_iff.mp here
      have earlier : ((program.plansAt id (program.positionAt id p)).drop i)[done - i]? =
          some ((program.plansAt id (program.positionAt id p)).get ⟨done, by omega⟩) := by
        rw [List.getElem?_drop, Nat.add_sub_cancel' upTo]
        exact List.getElem?_eq_getElem _
      have isWritten := inOrder _ ((mem_take_iff (nodup.sublist (List.drop_sublist _ _)) earlier).mpr
        (by omega))
      rw [recorded.lookup_later injective positive
        (List.drop_eq_getElem_cons _ ▸ List.mem_cons_self)] at isWritten
      cases isWritten
    subst next
    refine ⟨p, i + index + 1, recorded.write here fresh, ?_⟩
    rw [process]
    refine ⟨rfl, p, le, rfl, goes, .executing rfl i (by omega) (fun failFast => ?_) clean planned⟩
    have one : program.concurrency = 1 := by rw [concurrency, failFast, if_pos rfl]
    omega

theorem gather_cases (h : program.step s (.gather index) = some s') :
    ∃ id position waiting batch plan result,
      s.process = some ⟨id, position, .executing waiting batch⟩ ∧ waiting[index]? = some plan ∧
      s.directory.results.lookup plan.planId = some result ∧ index < program.concurrency ∧
      ((result.succeeded = false ∧ program.spec.execution.failFast = true ∧
        s' = ExperimentState.moveTo s id
          (.returned (.error "agent experiment stopped after a failed session"))) ∨
      ((program.spec.execution.failFast = true → result.succeeded = true) ∧
        s' = { s with process := some ⟨id, position,
          .executing (waiting.eraseIdx index) (batch.extend result)⟩ })) := by
  simp only [step] at h
  split at h
  · rename_i id position waiting batch process
    obtain ⟨plan, here, h⟩ := Option.bind_eq_some_iff.mp h
    obtain ⟨result, found, h⟩ := Option.bind_eq_some_iff.mp h
    split at h
    · rename_i within
      refine ⟨id, position, waiting, batch, plan, result, process, here, found, within, ?_⟩
      split at h
      · rename_i stops
        simp only [Bool.and_eq_true, Bool.not_eq_true'] at stops
        exact .inl ⟨stops.1, stops.2, (Option.some.inj h).symm⟩
      · rename_i goesOn
        refine .inr ⟨fun failFast => ?_, (Option.some.inj h).symm⟩
        by_contra fails
        exact goesOn (by simpa [failFast] using fails)
    · cases h
  · cases h

/-- The first waiting plan is gathered. -/
theorem gather_step (injective : Injective program.game.sha256) (positive : program.Positive)
    (inOrder : program.inOrder s (.gather index) = true)
    (resumes : program.Resumes runId s) (h : program.step s (.gather index) = some s') :
    program.Resumes runId s' := by
  obtain ⟨id, position, waiting, batch, plan, result, process, here, found, within, outcome⟩ :=
    gather_cases h
  obtain rfl : index = 0 := by simpa [ExperimentProgram.inOrder, process] using inOrder
  obtain ⟨k, done, recorded, standing⟩ := resumes
  obtain ⟨rfl, p, le, rfl, goes, stands⟩ := standing.process process
  cases stands with
  | replaying lt clean planned => simp at here
  | executing same i upTo close clean planned =>
    subst same
    have at_i : (program.plansAt id (program.positionAt id p))[i]? = some plan := by
      simpa using here
    have inside := List.mem_of_getElem? at_i
    obtain ⟨written, rfl⟩ := (recorded.lookup_here injective positive inside).mp found
    have nodup : (program.plansAt id (program.positionAt id p)).Nodup :=
      List.Nodup.of_map _ (plansAt_distinct _).1
    have before : i < done := (mem_take_iff nodup at_i).mp written
    rcases outcome with ⟨fails, failFast, rfl⟩ | ⟨goesOn, rfl⟩
    · replace fails : program.succeeds plan = false := fails
      obtain rfl : done = i + 1 := by
        have := close failFast
        omega
      have writes : program.writesAt id (program.positionAt id p) =
          (program.plansAt id (program.positionAt id p)).take (i + 1) := by
        rw [writesAt, if_pos failFast, untilFailure_take (clean failFast) at_i fails]
      obtain ⟨call, called, expanded⟩ := planned
      have target : program.follow id (program.positionAt id p) =
          .returned (.error "agent experiment stopped after a failed session") := by
        have failure : (program.gatherAll
            (program.plansAt id (program.positionAt id p))).hasFailure = true :=
          List.any_eq_true.mpr ⟨plan, inside, by simpa using fails⟩
        rw [follow_set called, expanded]
        simp only [failFast, failure, Bool.and_self, if_true]
      rw [ExperimentState.moveTo, ← target]
      exact ⟨p + 1, 0, recorded.leaveSet called writes, .arrive⟩
    · have taken : (program.plansAt id (program.positionAt id p)).take (i + 1) =
          (program.plansAt id (program.positionAt id p)).take i ++ [plan] := by
        rw [List.take_add_one, at_i]
        rfl
      refine ⟨p, done, recorded, rfl, p, le, rfl, goes, ?_⟩
      rw [← gatherAll_concat, ← taken, List.eraseIdx_zero, List.tail_drop]
      refine .executing rfl (i + 1) before (fun failFast => ?_) (fun failFast other mem => ?_)
        planned
      · have := close failFast
        omega
      · rw [taken, List.mem_append, List.mem_singleton] at mem
        rcases mem with earlier | rfl
        · exact clean failFast other earlier
        · exact goesOn failFast

/-- The whole set is gathered. -/
theorem leave_step (resumes : program.Resumes runId s) (h : program.step s .leave = some s') :
    program.Resumes runId s' := by
  simp only [step] at h
  split at h
  · rename_i id position batch process
    obtain ⟨k, done, recorded, standing⟩ := resumes
    obtain ⟨rfl, p, le, rfl, goes, stands⟩ := standing.process process
    cases h
    generalize emptied : ([] : List (SessionPlan Config)) = waiting at stands
    cases stands with
    | replaying lt clean planned =>
      have notReturned : (program.positionAt id k).hasReturned = false := by
        by_contra returned
        have := goes (by simpa using returned)
        omega
      rw [ExperimentState.moveTo, ← follow_planned planned (clean_of_passed lt notReturned)]
      exact ⟨k, done, recorded, .advance lt goes clean⟩
    | executing same i upTo close clean planned =>
      subst same
      have all := List.drop_eq_nil_iff.mp emptied.symm
      rw [List.take_of_length_le all] at clean
      rw [List.take_of_length_le all, ExperimentState.moveTo, ← follow_planned planned clean]
      obtain ⟨call, called, -⟩ := planned
      refine ⟨p + 1, 0, recorded.leaveSet called ?_, .arrive⟩
      rw [writesAt_clean clean, List.take_of_length_le (Nat.le_trans all upTo)]
  · cases h

/-- The record of an update that the run has left behind. -/
theorem Recorded.record_earlier {directory : OutputDirectory}
    {trains : List (CheckpointId × TrainingBatch)}
    (recorded : program.Recorded runId k done directory trains) {p : Nat} (lt : p < k)
    (goes : (program.positionAt runId k).hasReturned = false) {loop : TrainingLoop}
    (boundary : program.positionAt runId p = .boundary loop) :
    ∃ next, program.follow runId (.boundary loop) = program.afterUpdate loop next ∧
      loadCheckpointRecord directory runId loop.checkpoints =
        .ok (some (checkpointRecord runId loop next)) := by
  have goes' := positionAt_goes (Nat.succ_le_of_lt lt) goes
  rw [positionAt, boundary] at goes'
  cases updated : program.train loop.checkpoint (trainingBatch runId loop) with
  | error error =>
    simp only [follow, updated] at goes'
    cases goes'
  | ok next =>
    have found := (recorded.records loop.checkpoints _).mpr
      ⟨p, lt, loop, next, boundary, updated, rfl, rfl⟩
    refine ⟨next, by simp only [follow, updated], ?_⟩
    rw [loadCheckpointRecord, found]
    simp [checkpointRecord]

theorem Recorded.record_here {directory : OutputDirectory}
    {trains : List (CheckpointId × TrainingBatch)} (positive : program.Positive)
    (recorded : program.Recorded runId k done directory trains) {loop : TrainingLoop}
    (boundary : program.positionAt runId k = .boundary loop) :
    directory.checkpoints.lookup loop.checkpoints = none := by
  cases found : directory.checkpoints.lookup loop.checkpoints with
  | none => rfl
  | some record =>
    obtain ⟨i, lt, loop', next, there, -, same, -⟩ := (recorded.records _ _).mp found
    have := boundary_inj positive there boundary same
    omega

theorem load_step (positive : program.Positive) (resumes : program.Resumes runId s)
    (h : program.step s .load = some s') : program.Resumes runId s' := by
  simp only [step] at h
  split at h
  · rename_i id loop process
    obtain ⟨k, done, recorded, standing⟩ := resumes
    obtain ⟨rfl, p, le, boundary, goes, stands⟩ := standing.process process
    cases stands with
    | entered clean =>
      rcases Nat.lt_or_eq_of_le le with lt | rfl
      · have notReturned : (program.positionAt id k).hasReturned = false := by
          by_contra returned
          have := goes (by simpa using returned)
          omega
        obtain ⟨next, target, loaded⟩ := recorded.record_earlier lt notReturned boundary.symm
        rw [loaded] at h
        cases h
        refine ⟨k, done, recorded, ?_⟩
        rw [ExperimentState.moveTo]
        simp only [checkpointRecord]
        rw [← target, boundary]
        exact .advance lt goes clean
      · have missing := recorded.record_here positive boundary.symm
        simp only [loadCheckpointRecord, missing] at h
        cases h
  · cases h

/-- An update is presented when its record is missing. -/
theorem train_step (positive : program.Positive) (resumes : program.Resumes runId s)
    (h : program.step s .train = some s') : program.Resumes runId s' := by
  simp only [step] at h
  split at h
  · rename_i id loop process
    obtain ⟨k, done, recorded, standing⟩ := resumes
    obtain ⟨rfl, p, le, boundary, goes, stands⟩ := standing.process process
    cases stands with
    | entered clean =>
      rcases Nat.lt_or_eq_of_le le with lt | rfl
      · have notReturned : (program.positionAt id k).hasReturned = false := by
          by_contra returned
          have := goes (by simpa using returned)
          omega
        obtain ⟨next, target, loaded⟩ := recorded.record_earlier lt notReturned boundary.symm
        rw [loaded] at h
        cases h
      · have missing := recorded.record_here positive boundary.symm
        have extended : program.Recorded id p done s.directory
            (s.trains ++ [(loop.checkpoint, trainingBatch id loop)]) := {
          results := recorded.results
          records := recorded.records
          called := by
            intro call mem
            rcases List.mem_append.mp mem with earlier | here
            · exact recorded.called call earlier
            · exact ⟨p, Nat.le_refl _, loop, boundary.symm, List.mem_singleton.mp here⟩
          trained := fun i lt loop' here =>
            List.mem_append_left _ (recorded.trained i lt loop' here) }
        simp only [loadCheckpointRecord, missing] at h
        split at h
        · rename_i error updated
          cases h
          have target : program.follow id (program.positionAt id p) =
              .returned (.error error) := by
            rw [← boundary]
            simp only [follow, updated]
          rw [ExperimentState.moveTo, ← target]
          refine ⟨p + 1, 0, extended.leave ?_ rfl ?_ ?_, .arrive⟩
          · rw [← boundary]
            simp [writesAt, plansAt_boundary, untilFailure]
          · intro n record
            refine ⟨.inl, fun either => either.resolve_right ?_⟩
            rintro ⟨loop', next, here, accepted, -⟩
            obtain rfl : loop = loop' := by simpa [here] using boundary
            rw [updated] at accepted
            cases accepted
          · intro loop' here
            obtain rfl : loop = loop' := by simpa [here] using boundary
            exact List.mem_append_right _ (List.mem_singleton_self _)
        · rename_i next updated
          cases h
          exact ⟨p, done, extended, rfl, p, le, boundary, goes,
            .trained rfl loop next boundary.symm updated
              (List.mem_append_right _ (List.mem_singleton_self _))⟩
  · cases h

theorem record_step (positive : program.Positive) (resumes : program.Resumes runId s)
    (h : program.step s .record = some s') : program.Resumes runId s' := by
  simp only [step] at h
  split at h
  · rename_i id loop next process
    cases h
    obtain ⟨k, done, recorded, standing⟩ := resumes
    obtain ⟨rfl, p, le, boundary, goes, stands⟩ := standing.process process
    cases stands with
    | trained same loop' next here updated presented =>
      subst same
      obtain rfl : loop = loop' := by simpa [here] using boundary
      have missing := recorded.record_here positive here
      have target : program.follow id (program.positionAt id p) =
          program.afterUpdate loop next := by
        rw [here]
        simp only [follow, updated]
      rw [ExperimentState.moveTo, ← target]
      refine ⟨p + 1, 0, recorded.leave ?_ rfl (fun n record => ?_) ?_, .arrive⟩
      · rw [here]
        simp [writesAt, plansAt_boundary, untilFailure]
      · simp only [Map.lookup_insert_eq]
        split
        · rename_i number
          subst number
          constructor
          · intro inserted
            exact .inr ⟨loop, next, here, updated, rfl, Option.some.inj inserted⟩
          · intro either
            rcases either with earlier | ⟨loop', next', there, updated', -, rfl⟩
            · rw [missing] at earlier
              cases earlier
            · obtain rfl : loop = loop' := by simpa [here] using there
              rw [updated] at updated'
              cases updated'
              rfl
        · rename_i differ
          refine ⟨.inl, fun either => either.resolve_right fun another => ?_⟩
          obtain ⟨loop', next', there, -, number, -⟩ := another
          obtain rfl : loop = loop' := by simpa [here] using there
          exact differ number.symm
      · intro loop' there
        obtain rfl : loop = loop' := by simpa [here] using there
        exact presented
  · cases h

/-- What is killed leaves a directory from which the run goes on. -/
theorem kill_step (injective : Injective program.game.sha256) (positive : program.Positive)
    (inOrder : program.inOrder s .kill = true)
    (resumes : program.Resumes runId s) (h : program.step s .kill = some s') :
    program.Resumes runId s' := by
  simp only [step] at h
  split at h
  · rename_i now process
    split at h
    · cases h
    · rename_i running
      cases h
      obtain ⟨id, position, stage⟩ := now
      obtain ⟨k, done, recorded, standing⟩ := resumes
      obtain ⟨rfl, p, le, rfl, goes, stands⟩ := standing.process process
      have notReturned : (program.positionAt id k).hasReturned = false := by
        by_contra returned
        have here := goes (by simpa using returned)
        subst here
        exact running (by simpa using returned)
      refine ⟨k, done, recorded, notReturned, ?_⟩
      cases stands with
      | entered clean => exact clean
      | replaying lt clean planned => exact clean
      | executing same i upTo close clean planned =>
        subst same
        intro failFast plan mem
        simp only [ExperimentProgram.inOrder, process, failFast, Bool.not_true, Bool.false_or,
          List.all_eq_true] at inOrder
        have inside := List.mem_of_mem_take mem
        rw [← List.take_append_drop i (program.plansAt id (program.positionAt id p))] at inside
        rcases List.mem_append.mp inside with gathered | waiting
        · exact clean failFast plan gathered
        · have written := (recorded.lookup_here injective positive
            (List.mem_of_mem_take mem)).mpr ⟨mem, rfl⟩
          have succeeded := inOrder plan waiting
          rw [written] at succeeded
          exact succeeded
      | trained same loop next here updated presented =>
        rw [here, plansAt_boundary]
        intro _ plan mem
        simp at mem
  · cases h

theorem positive_of_valid
    (valid : program.runner.validateSpec program.game program.spec = .ok ⟨⟩) :
    program.Positive := by
  intro training here
  have trained := ExperimentRunner.validateSpec_training valid here
  obtain ⟨cadence, -⟩ := Except.of_check_ok trained
  simp only [Bool.or_eq_true, decide_eq_true_eq, not_or] at cadence
  exact Nat.pos_of_ne_zero cadence.2

theorem start_cases {fresh : String} (h : program.step s (.start fresh) = some s') :
    s.process = none ∧
      ((∃ error, s' = ExperimentState.moveTo s "" (.returned (.error error)) ∧
        (Invocation.mk program.runner program.spec s.directory.manifest fresh).start program.game =
          .error error) ∨
      ∃ manifest, (Invocation.mk program.runner program.spec s.directory.manifest fresh).start
          program.game = .ok manifest ∧
        s' = ExperimentState.moveTo
          { s with directory := { s.directory with manifest := some manifest } }
          manifest.runId program.firstPosition) := by
  simp only [step] at h
  split at h
  · cases h
  · rename_i process
    refine ⟨process, ?_⟩
    split at h
    · rename_i error failed
      exact .inl ⟨error, (Option.some.inj h).symm, failed⟩
    · rename_i manifest started
      exact .inr ⟨manifest, started, (Option.some.inj h).symm⟩

/-- Without a process, or behind its return, there is nothing to do but to start. -/
theorem step_idle {action : ExperimentAction} (other : ∀ fresh, action ≠ .start fresh)
    (idle : s.process = none ∨
      ∃ id outcome, s.process = some ⟨id, .returned outcome, .entered⟩) :
    program.step s action = none := by
  rcases idle with process | ⟨id, outcome, process⟩
  · cases action with
    | start fresh => exact absurd rfl (other fresh)
    | _ => simp [step, process]
  · cases action with
    | start fresh => exact absurd rfl (other fresh)
    | plan => simp [step, process, Position.call]
    | kill => simp [step, process, Position.hasReturned]
    | _ => simp [step, process]

theorem step_manifest {action : ExperimentAction} (other : ∀ fresh, action ≠ .start fresh)
    (h : program.step s action = some s') :
    s'.directory.manifest = s.directory.manifest := by
  cases action with
  | start fresh => exact absurd rfl (other fresh)
  | plan =>
    simp only [step] at h
    split at h
    · obtain ⟨call, -, h⟩ := Option.bind_eq_some_iff.mp h
      split at h
      · cases h
        rfl
      · split at h <;> cases h <;> rfl
    · cases h
  | write index =>
    obtain ⟨_, _, _, _, _, -, -, -, -, rfl⟩ := write_cases h
    rfl
  | gather index =>
    obtain ⟨_, _, _, _, _, _, -, -, -, -, ⟨-, -, rfl⟩ | ⟨-, rfl⟩⟩ := gather_cases h <;> rfl
  | leave | load | record =>
    simp only [step] at h
    split at h
    · first
        | (cases h; rfl)
        | (split at h <;> cases h <;> rfl)
    · cases h
  | train =>
    simp only [step] at h
    split at h
    · split at h
      · split at h <;> cases h <;> rfl
      · cases h
    · cases h
  | kill =>
    simp only [step] at h
    split at h
    · split at h <;> cases h
      rfl
    · cases h

def manifestOf (program : ExperimentProgram Config) (runId : String) : RunManifest :=
  ⟨experimentSchema, runId, program.game.id, program.game.version,
    hashValue program.game program.spec.toJson⟩

def OnTheWay (program : ExperimentProgram Config) (s : ExperimentState Config) : Prop :=
  match s.directory.manifest with
  | none => s.directory.results = ∅ ∧ s.directory.checkpoints = ∅ ∧ s.trains = [] ∧
      (s.process = none ∨ ∃ id outcome, s.process = some ⟨id, .returned outcome, .entered⟩)
  | some manifest => program.runner.validateSpec program.game program.spec = .ok ⟨⟩ ∧
      manifest = program.manifestOf manifest.runId ∧ program.Resumes manifest.runId s

theorem start_step {fresh : String}
    (way : program.OnTheWay s) (h : program.step s (.start fresh) = some s') :
    program.OnTheWay s' := by
  obtain ⟨process, outcome⟩ := start_cases h
  unfold OnTheWay at way
  cases manifest : s.directory.manifest with
  | none =>
    rw [manifest] at way outcome
    obtain ⟨results, checkpoints, trains, -⟩ := way
    rcases outcome with ⟨error, rfl, -⟩ | ⟨made, started, rfl⟩
    · simp only [OnTheWay, ExperimentState.moveTo, manifest]
      exact ⟨results, checkpoints, trains, .inr ⟨_, _, rfl⟩⟩
    · obtain ⟨⟨⟩, valid, created⟩ := Except.of_bind_ok started
      cases created
      refine ⟨valid, rfl, 0, 0, ?_, rfl, 0, Nat.le_refl _, rfl, fun _ => rfl, .entered ?_⟩
      · simp only [ExperimentState.moveTo, results, checkpoints, trains]
        refine ⟨fun id result => ?_, fun n record => ?_, by simp, by simp⟩
        · simp [Written]
        · simp
      · intro _ plan mem
        simp at mem
  | some old =>
    rw [manifest] at way outcome
    obtain ⟨valid, same, k, done, recorded, standing⟩ := way
    have restarted := (Invocation.start_valid valid old.runId fresh).2
    change (Invocation.mk program.runner program.spec (some (program.manifestOf old.runId))
      fresh).start program.game = .ok (program.manifestOf old.runId) at restarted
    rw [← same] at restarted
    rw [process] at standing
    obtain ⟨goes, clean⟩ := standing
    rcases outcome with ⟨error, -, failed⟩ | ⟨again, started, rfl⟩
    · rw [restarted] at failed
      cases failed
    · rw [restarted] at started
      cases started
      have kept : program.Recorded old.runId k done { s.directory with manifest := some old }
          s.trains := ⟨recorded.results, recorded.records, recorded.called, recorded.trained⟩
      refine ⟨valid, same, k, done, kept, rfl, 0, Nat.zero_le _, rfl, fun returned => ?_,
        .entered clean⟩
      rw [goes] at returned
      cases returned

theorem onTheWay_of_run (injective : Injective program.game.sha256) (rereads : program.Rereads)
    (run : program.machine.Run (fun s action => program.inOrder s action = true) {} s) :
    program.OnTheWay s := by
  refine run.invariant ⟨rfl, rfl, rfl, .inl rfl⟩ ?_
  intro s s' action way met h
  change program.step s action = some s' at h
  by_cases starts : ∃ fresh, action = .start fresh
  · obtain ⟨fresh, rfl⟩ := starts
    exact start_step way h
  · have other : ∀ fresh, action ≠ .start fresh := fun fresh same => starts ⟨fresh, same⟩
    have kept := step_manifest other h
    unfold OnTheWay at way ⊢
    rw [kept]
    cases manifest : s.directory.manifest with
    | none =>
      rw [manifest] at way
      rw [step_idle other way.2.2.2] at h
      cases h
    | some found =>
      rw [manifest] at way
      obtain ⟨valid, same, resumes⟩ := way
      refine ⟨valid, same, ?_⟩
      have positive := positive_of_valid valid
      cases action with
      | start fresh => exact absurd rfl (other fresh)
      | plan => exact plan_step injective positive rereads resumes h
      | write index => exact write_step injective positive met resumes h
      | gather index => exact gather_step injective positive met resumes h
      | leave => exact leave_step resumes h
      | load => exact load_step positive resumes h
      | train => exact train_step positive resumes h
      | record => exact record_step positive resumes h
      | kill => exact kill_step injective positive met resumes h

def hasReturned (s : ExperimentState Config) : Bool :=
  s.process.any fun process => process.position.hasReturned

theorem updateId_inj {n m : Nat} (same : updateId runId n = updateId runId m) : n = m := by
  have texts := String.append_right_inj _ |>.mp same
  exact Nat.repr_injective texts

/-- A run that has returned has left everything that the uninterrupted run leaves. -/
theorem resumes_returned (resumes : program.Resumes runId s) (returned : hasReturned s = true) :
    (∃ i outcome, program.positionAt runId i = .returned outcome ∧
      s.process.map Process.position = some (.returned outcome)) ∧
    (∀ id result, s.directory.results.lookup id = some result ↔
      ∃ i plan, plan ∈ program.writesAt runId (program.positionAt runId i) ∧ plan.planId = id ∧
        program.sessionResult plan = result) ∧
    (∀ n record, s.directory.checkpoints.lookup n = some record ↔
      ∃ i, program.RecordAt runId i n record) ∧
    ∀ call, call ∈ s.trains ↔ ∃ i loop, program.positionAt runId i = .boundary loop ∧
      call = (loop.checkpoint, trainingBatch runId loop) := by
  obtain ⟨k, done, recorded, standing⟩ := resumes
  unfold hasReturned at returned
  cases process : s.process with
  | none => simp [process] at returned
  | some now =>
  obtain ⟨id, position, stage⟩ := now
  have finished : position.hasReturned = true := by simpa [process] using returned
  obtain ⟨rfl, p, le, rfl, -, -⟩ := standing.process process
  obtain ⟨outcome, here⟩ : ∃ outcome, program.positionAt id p = .returned outcome := by
    cases here : program.positionAt id p with
    | returned outcome => exact ⟨outcome, rfl⟩
    | evaluation | training _ | boundary _ | validation _ =>
      simp only [here] at finished
      cases finished
  have beyond (i : Nat) (le' : k ≤ i) : program.positionAt id i = .returned outcome :=
    positionAt_returned here (Nat.le_trans le le')
  have within {i : Nat} (differs : program.positionAt id i ≠ .returned outcome) : i < k := by
    by_contra finished
    exact differs (beyond i (Nat.le_of_not_lt finished))
  refine ⟨⟨p, outcome, here, by rw [Option.map_some, here]⟩, fun planId result => ?_,
    fun n record => ?_, fun call => ?_⟩
  · rw [recorded.results]
    constructor
    · intro ⟨plan, written, same⟩
      rcases written with ⟨i, -, earlier⟩ | later
      · exact ⟨i, plan, earlier, same⟩
      · rw [beyond k (Nat.le_refl k), plansAt_returned] at later
        simp at later
    · intro ⟨i, plan, written, same⟩
      refine ⟨plan, .inl ⟨i, within fun finished => ?_, written⟩, same⟩
      rw [finished] at written
      have := writesAt_subset written
      simp [plansAt_returned] at this
  · rw [recorded.records]
    constructor
    · intro earlier
      obtain ⟨i, -, record⟩ := earlier
      exact ⟨i, record⟩
    · intro ⟨i, loop, next, boundary, record⟩
      refine ⟨i, within fun finished => ?_, loop, next, boundary, record⟩
      rw [boundary] at finished
      cases finished
  · constructor
    · intro mem
      obtain ⟨i, -, loop, called⟩ := recorded.called call mem
      exact ⟨i, loop, called⟩
    · intro ⟨i, loop, boundary, same⟩
      rw [same]
      refine recorded.trained i (within fun finished => ?_) loop boundary
      rw [boundary] at finished
      cases finished

/--
Runs that are killed and resumed do what an uninterrupted run does, provided that every stored
trajectory is read back as it was, that sessions are finalized in the order of their plans and that
no failure that stops a run is hidden by a kill.
-/
theorem resume_equals_once (injective : Injective program.game.sha256)
    (rereads : ∀ plan, program.reload (program.session plan).2 = .ok (program.session plan).2)
    (run : program.machine.Run (fun s action => program.inOrder s action = true) {} s)
    (run' : program.machine.Run (fun s action => program.inOrder s action = true) {} s')
    {manifest : RunManifest} (here : s.directory.manifest = some manifest)
    (there : s'.directory.manifest = some manifest) :
    (∀ call ∈ s.trains, ∀ call' ∈ s'.trains, call.2.updateId = call'.2.updateId → call = call') ∧
    (∀ call ∈ s.trains, ∃ training updates, program.spec.training = some training ∧
      call.2 = ⟨updateId manifest.runId (updates + 1),
        (updates + 1) * training.checkpointEveryEpochs,
        program.epochSteps manifest.runId training.checkpointEveryEpochs updates
          training.checkpointEveryEpochs call.1⟩) ∧
    (hasReturned s = true → hasReturned s' = true →
      s.process.map Process.position = s'.process.map Process.position ∧
      (∀ id, s.directory.results.lookup id = s'.directory.results.lookup id) ∧
      (∀ n, s.directory.checkpoints.lookup n = s'.directory.checkpoints.lookup n) ∧
      ∀ call, call ∈ s.trains ↔ call ∈ s'.trains) := by
  have way := onTheWay_of_run injective rereads run
  have way' := onTheWay_of_run injective rereads run'
  unfold OnTheWay at way way'
  rw [here] at way
  rw [there] at way'
  obtain ⟨valid, -, resumes⟩ := way
  obtain ⟨-, -, resumes'⟩ := way'
  have positive := positive_of_valid valid
  refine ⟨?_, ?_, fun returned returned' => ?_⟩
  · obtain ⟨k, done, recorded, -⟩ := resumes
    obtain ⟨k', done', recorded', -⟩ := resumes'
    intro call mem call' mem' same
    obtain ⟨i, -, loop, boundary, rfl⟩ := recorded.called call mem
    obtain ⟨i', -, loop', boundary', rfl⟩ := recorded'.called call' mem'
    obtain rfl := boundary_inj positive boundary boundary' (updateId_inj same)
    obtain rfl : loop = loop' := by simpa [boundary] using boundary'
    rfl
  · obtain ⟨k, done, recorded, -⟩ := resumes
    intro call mem
    obtain ⟨i, -, loop, boundary, rfl⟩ := recorded.called call mem
    have counted : program.Counted manifest.runId (.boundary loop) :=
      boundary ▸ counted_at positive i
    obtain ⟨trains, updates, number, epoch, pending⟩ := counted
    refine ⟨loop.training, updates, trains, ?_⟩
    rw [trainingBatch, epoch, pending, number]
  · obtain ⟨⟨i, outcome, finished, position⟩, results, records, trains⟩ :=
      resumes_returned resumes returned
    obtain ⟨⟨i', outcome', over', position'⟩, results', records', trains'⟩ :=
      resumes_returned resumes' returned'
    have same : Position.returned outcome = .returned outcome' := by
      rcases Nat.le_total i i' with le | le
      · rw [← over', positionAt_returned finished le]
      · rw [← finished, positionAt_returned over' le]
    refine ⟨by rw [position, position', same], fun id => Option.ext fun result => ?_,
      fun n => Option.ext fun record => ?_, fun call => ?_⟩
    · rw [results, results']
    · rw [records, records']
    · rw [trains, trains']

/-- The second session of an epoch ends first, and the process is killed behind the update. -/
def reordered : List ExperimentAction :=
  [.start "run", .plan, .write 1, .gather 1, .write 0, .gather 0, .leave, .train, .kill,
    .start "again", .plan, .leave, .train]

/-- The sessions end in order, with a kill between them. -/
def ordered : List ExperimentAction :=
  [.start "run", .plan, .write 0, .kill, .start "again", .plan, .write 0, .gather 0, .leave, .train]

theorem two_plans {call : PlanCall} {a b : SessionPlan Config}
    (planned : program.runner.callPlans program.game program.spec runId call = .ok [a, b]) :
    a.runId = runId ∧ b.runId = runId ∧ b.planId ≠ a.planId := by
  obtain ⟨distinct, ids⟩ := callPlans_distinct planned
  refine ⟨ids a List.mem_cons_self, ids b (List.mem_cons_of_mem _ List.mem_cons_self), ?_⟩
  intro same
  simp [same] at distinct

theorem start_training {loop : TrainingLoop}
    (valid : program.runner.validateSpec program.game program.spec = .ok ⟨⟩)
    (first : program.firstPosition = .training loop) :
    program.step {} (.start "run") = some
      ⟨{ manifest := some (program.manifestOf "run") }, some ⟨"run", .training loop, .entered⟩,
        []⟩ := by
  have fresh := (Invocation.start_valid valid "run" "run").1
  simp only [step, fresh, first, ExperimentState.moveTo, manifestOf]

section TwoSessions

variable {a b : SessionPlan Config} {loop : TrainingLoop}
  (valid : program.runner.validateSpec program.game program.spec = .ok ⟨⟩)
  (first : program.firstPosition = .training loop)
  (due : loop.epoch % loop.training.checkpointEveryEpochs = 0)
  (planned : program.runner.callPlans program.game program.spec "run"
    (.training loop.epoch loop.checkpoint) = .ok [a, b])
  (two : program.concurrency = 2) (onward : program.spec.execution.failFast = false)
  (succeedA : (program.session a).1 = true) (succeedB : (program.session b).1 = true)
  (trained : ∀ base batch, program.train base batch = .ok ⟨batch.updateId⟩)
  (rereads : program.Rereads)

include valid first due planned two onward succeedA succeedB trained rereads

theorem exec_reordered : ∃ s, program.machine.exec {} reordered = some s ∧
    s.trains.map Prod.snd =
      [⟨updateId "run" (loop.checkpoints + 1), loop.epoch,
        loop.pending ++ ((program.session b).2 ++ (program.session a).2)⟩,
      ⟨updateId "run" (loop.checkpoints + 1), loop.epoch,
        loop.pending ++ ((program.session a).2 ++ (program.session b).2)⟩] := by
  obtain ⟨runA, runB, differ⟩ := two_plans planned
  have again := (Invocation.start_valid valid "run" "again").2
  have started := start_training valid first
  simp only [reordered, Machine.exec, machine, started, Option.bind_some]
  simp [step, Position.call, planned, skipFinalized, finalizedResult, bind, Except.bind, pure,
    Except.pure, two, onward, differ, differ.symm, succeedA, succeedB, sessionResult,
    rereads a, rereads b,
    ExecutionBatch.extend, trained, ExperimentState.moveTo, afterSet, due, loadCheckpointRecord,
    Position.hasReturned, manifestOf, again, first, runA, runB, trainingBatch,
    Map.lookup_insert_eq, -AList.insert_empty]

theorem exec_ordered : ∃ s, (program.machine.restrict program.inOrder).exec {} ordered = some s ∧
    s.directory.manifest = some (program.manifestOf "run") ∧ s.trains.map Prod.snd =
      [⟨updateId "run" (loop.checkpoints + 1), loop.epoch,
        loop.pending ++ ((program.session a).2 ++ (program.session b).2)⟩] := by
  obtain ⟨runA, runB, differ⟩ := two_plans planned
  have again := (Invocation.start_valid valid "run" "again").2
  have started := start_training valid first
  have allowed : program.inOrder {} (.start "run") = true := rfl
  simp only [ordered, Machine.exec, Machine.restrict, machine, started, allowed, if_true,
    Option.bind_some]
  simp [inOrder, step, Position.call, planned, skipFinalized, finalizedResult, bind, Except.bind,
    pure, Except.pure, two, onward, differ, succeedA, succeedB, sessionResult, rereads a,
    ExecutionBatch.extend, trained, ExperimentState.moveTo, afterSet, due, loadCheckpointRecord,
    Position.hasReturned, manifestOf, again, first, runA, runB, trainingBatch,
    Map.lookup_insert_eq, -AList.insert_empty]

end TwoSessions

/-- One epoch with two seeds; each session has one step that tells its seed. -/
def twoSeeds : ExperimentProgram Unit where
  game := plainGame
  runner := plainRunner "1"
  spec := { plainFile with
    training := some {
      learner := "learner", scenarios := [⟨"first", emptyJson, [1, 2], 1⟩]
      seats := ⟨"learner", "learner"⟩, mirrorRoles := false, epochs := 1
      checkpointEveryEpochs := 1, reward := ⟨"score", emptyJson⟩ }
    execution := { concurrency := 2 } }
  session := fun plan => (true, [.int plan.gameSeed])
  train := fun _ batch => .ok ⟨batch.updateId⟩
  reload := .ok

theorem twoSeeds_valid :
    twoSeeds.runner.validateSpec twoSeeds.game twoSeeds.spec = .ok ⟨⟩ := rfl

theorem twoSeeds_first : ∃ loop : TrainingLoop, twoSeeds.firstPosition = .training loop ∧
    loop.epoch = 1 ∧ loop.checkpoint = ⟨"base"⟩ ∧ loop.training.checkpointEveryEpochs = 1 :=
  ⟨_, rfl, rfl, rfl, rfl⟩

theorem twoSeeds_plans : ∃ a b : SessionPlan Unit,
    twoSeeds.runner.callPlans twoSeeds.game twoSeeds.spec "run" (.training 1 ⟨"base"⟩) =
      .ok [a, b] ∧ a.gameSeed = 1 ∧ b.gameSeed = 2 := by
  obtain ⟨a, b, set, documentA, documentB, here, mapped, idA, idB, seedA, seedB, gameA, gameB⟩ :
      ∃ (a b : SessionPlan Unit) (set : SessionSet) (documentA documentB : List (String × Value)),
        twoSeeds.runner.sessionSet twoSeeds.spec (.training 1 ⟨"base"⟩) = some set ∧
        set.coordinates.mapM (twoSeeds.runner.sessionPlan twoSeeds.game twoSeeds.spec "run" set) =
          .ok [a, b] ∧ a.planId = hashValue plainGame (json documentA) ∧
        b.planId = hashValue plainGame (json documentB) ∧
        Value.member? documentA "game_seed" = some (.int (1 : Nat)) ∧
        Value.member? documentB "game_seed" = some (.int (2 : Nat)) ∧
        a.gameSeed = 1 ∧ b.gameSeed = 2 :=
    ⟨_, _, _, _, _, rfl, rfl, rfl, rfl, rfl, rfl, rfl, rfl⟩
  have differ : a.planId ≠ b.planId := by
    intro same
    rw [idA, idB] at same
    have document := hashValue_eq plainGame_injective same
    have seeds := nat_eq (Value.canonicalValue_member document "game_seed" seedA seedB)
    cases seeds
  refine ⟨a, b, ?_, gameA, gameB⟩
  rw [ExperimentRunner.callPlans, here]
  simp only [ExperimentRunner.planSet, mapped, bind, Except.bind, List.map_cons, List.map_nil]
  simp [rejectDuplicates, differ.symm, pure, Except.pure]

/-- A run that was killed between two sessions presents their steps in order, as any run does. -/
theorem resume_equals_once_twoSeeds : ∃ s : ExperimentState Unit, s.trains.length = 1 ∧
    ∀ call ∈ s.trains, ∃ training updates, twoSeeds.spec.training = some training ∧
      call.2 = ⟨updateId "run" (updates + 1), (updates + 1) * training.checkpointEveryEpochs,
        twoSeeds.epochSteps "run" training.checkpointEveryEpochs updates
          training.checkpointEveryEpochs call.1⟩ := by
  obtain ⟨a, b, planned, -⟩ := twoSeeds_plans
  obtain ⟨loop, first, epoch, checkpoint, every⟩ := twoSeeds_first
  rw [← epoch, ← checkpoint] at planned
  obtain ⟨s, ran, manifest, trains⟩ := exec_ordered twoSeeds_valid first (by rw [every]; omega)
    planned rfl rfl rfl rfl (fun _ _ => rfl) fun _ => rfl
  have run := Machine.Run.of_exec (fun _ _ met => met) ran
  have length := congrArg List.length trains
  exact ⟨s, by simpa using length,
    (resume_equals_once plainGame_injective (fun _ => rfl) run run manifest manifest).2.1⟩

/-- A kill behind an update whose sessions ended out of order presents it again in another order. -/
theorem update_reordered : ∃ s, twoSeeds.machine.Run Machine.unguarded {} s ∧
    ∃ call ∈ s.trains, ∃ call' ∈ s.trains, call.2.updateId = call'.2.updateId ∧
      call.2.steps ≠ call'.2.steps := by
  obtain ⟨a, b, planned, seedA, seedB⟩ := twoSeeds_plans
  obtain ⟨loop, first, epoch, checkpoint, every⟩ := twoSeeds_first
  rw [← epoch, ← checkpoint] at planned
  obtain ⟨s, ran, trains⟩ := exec_reordered twoSeeds_valid first (by rw [every]; omega)
    planned rfl rfl rfl rfl (fun _ _ => rfl) fun _ => rfl
  obtain ⟨call, mem, same⟩ := List.mem_map.mp (trains ▸ List.mem_cons_self)
  obtain ⟨call', mem', same'⟩ :=
    List.mem_map.mp (trains ▸ List.mem_cons_of_mem _ List.mem_cons_self)
  refine ⟨s, Machine.Run.of_exec_unguarded ran, call, mem, call', mem', by rw [same, same'], ?_⟩
  rw [same, same']
  simp [twoSeeds, seedA, seedB]

end ExperimentProgram

end AgentExperiment

end Parlando
