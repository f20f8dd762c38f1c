import Parlando.ConfigHistory

namespace Parlando

open Concurrency

/-- The primary key of `experiment_config_revisions`. -/
def RevisionRow.key (row : RevisionRow) : String × Int := (row.experimentId, row.revision)

/-- What the tables hold at any time: only the first revision may be missing or differ. -/
structure Catalogued (store : ConfigStore) : Prop where
  experiments : Table.Unique ExperimentRow.experimentId store.experiments
  revisions : Table.Unique RevisionRow.key store.revisions
  owned : ∀ r ∈ store.revisions, ∃ row ∈ store.experiments,
    row.experimentId = r.experimentId ∧ 1 ≤ r.revision ∧ r.revision ≤ row.configRevision
  first : ∀ row ∈ store.experiments, 1 ≤ row.configRevision
  later : ∀ row ∈ store.experiments, ∀ n, 2 ≤ n → n ≤ row.configRevision →
    store.hasRevision row.experimentId n = true
  latest : ∀ row ∈ store.experiments, 2 ≤ row.configRevision → ∀ r ∈ store.revisions,
    r.experimentId = row.experimentId → r.revision = row.configRevision → r.config = row.config

/-- The history of every experiment is complete and ends with its configuration. -/
structure History (store : ConfigStore) : Prop where
  experiments : Table.Unique ExperimentRow.experimentId store.experiments
  revisions : Table.Unique RevisionRow.key store.revisions
  owned : ∀ r ∈ store.revisions, ∃ row ∈ store.experiments, row.experimentId = r.experimentId
  numbers : ∀ row ∈ store.experiments, ∀ n,
    (∃ r ∈ store.revisions, r.experimentId = row.experimentId ∧ r.revision = n) ↔
      1 ≤ n ∧ n ≤ row.configRevision
  started : ∀ row ∈ store.experiments, 1 ≤ row.configRevision
  latest : ∀ row ∈ store.experiments, ∀ r ∈ store.revisions, r.experimentId = row.experimentId →
    r.revision = row.configRevision → r.config = row.config

def FirstAgrees (store : ConfigStore) (row : ExperimentRow) : Prop :=
  row.configRevision = 1 → ∀ r ∈ store.revisions, r.experimentId = row.experimentId →
    r.revision = 1 → r.config = row.config

/-- No revision is changed or removed, and no experiment falls back behind one of its revisions. -/
structure Advances (store store' : ConfigStore) : Prop where
  revisions : store.revisions <+: store'.revisions
  experiments : ∀ row ∈ store.experiments, ∃ row' ∈ store'.experiments,
    row'.experimentId = row.experimentId ∧ row.configRevision ≤ row'.configRevision

namespace Advances

theorem refl (store : ConfigStore) : Advances store store :=
  ⟨List.prefix_rfl, fun row mem => ⟨row, mem, rfl, Int.le_refl _⟩⟩

theorem trans {a b c : ConfigStore} (first : Advances a b) (second : Advances b c) :
    Advances a c := by
  refine ⟨first.revisions.trans second.revisions, fun row mem => ?_⟩
  obtain ⟨row', mem', same, le⟩ := first.experiments row mem
  obtain ⟨row'', mem'', same', le'⟩ := second.experiments row' mem'
  exact ⟨row'', mem'', same'.trans same, le.trans le'⟩

end Advances

section Tables

variable {store store' : ConfigStore} {experimentId : String} {row : ExperimentRow}

theorem hasRevision_iff {revision : Int} : store.hasRevision experimentId revision = true ↔
    ∃ r ∈ store.revisions, r.experimentId = experimentId ∧ r.revision = revision := by
  simp [ConfigStore.hasRevision]

theorem hasRevision_false_iff {revision : Int} :
    store.hasRevision experimentId revision = false ↔
      ∀ r ∈ store.revisions, r.experimentId = experimentId → r.revision ≠ revision := by
  simp [ConfigStore.hasRevision]

theorem Advances.hasRevision (advances : Advances store store') {revision : Int}
    (has : store.hasRevision experimentId revision = true) :
    store'.hasRevision experimentId revision = true := by
  obtain ⟨r, mem, same⟩ := hasRevision_iff.mp has
  exact hasRevision_iff.mpr ⟨r, advances.revisions.subset mem, same⟩

theorem experimentDefinition_none (fresh : store.experimentDefinition experimentId = none) :
    ∀ row ∈ store.experiments, row.experimentId ≠ experimentId :=
  Table.find?_none fresh

theorem experimentDefinition_some (found : store.experimentDefinition experimentId = some row) :
    row ∈ store.experiments ∧ row.experimentId = experimentId :=
  Table.find?_mem found

/-- A history without gaps is what the tables hold when the first revision is there and agrees. -/
theorem Catalogued.history (catalogued : Catalogued store)
    (complete : ∀ row ∈ store.experiments, store.hasRevision row.experimentId 1 = true ∧
      FirstAgrees store row) : History store := by
  refine ⟨catalogued.experiments, catalogued.revisions, fun r mem => ?_, fun row mem n => ?_,
    catalogued.first, fun row mem r rMem same latest => ?_⟩
  · obtain ⟨row, rowMem, same, -⟩ := catalogued.owned r mem
    exact ⟨row, rowMem, same⟩
  · constructor
    · rintro ⟨r, rMem, same, rfl⟩
      obtain ⟨row', mem', same', bounds⟩ := catalogued.owned r rMem
      rw [catalogued.experiments.eq mem mem' (same.symm.trans same'.symm)]
      exact bounds
    · rintro ⟨positive, le⟩
      by_cases one : n = 1
      · rw [one]
        exact hasRevision_iff.mp (complete row mem).1
      · exact hasRevision_iff.mp (catalogued.later row mem n (by omega) le)
  · have positive := catalogued.first row mem
    by_cases one : row.configRevision = 1
    · exact (complete row mem).2 one r rMem same (latest.trans one)
    · exact catalogued.latest row mem (by omega) r rMem same latest

theorem History.catalogued (history : History store) : Catalogued store := by
  refine ⟨history.experiments, history.revisions, fun r mem => ?_, history.started,
    fun row mem n two le => ?_, fun row mem _ r rMem => history.latest row mem r rMem⟩
  · obtain ⟨row, rowMem, same⟩ := history.owned r mem
    exact ⟨row, rowMem, same, (history.numbers row rowMem r.revision).mp ⟨r, mem, same.symm, rfl⟩⟩
  · exact hasRevision_iff.mpr ((history.numbers row mem n).mpr ⟨by omega, le⟩)

/-- A new experiment begins with its first revision, which is yet to be recorded. -/
theorem Catalogued.addExperiment (catalogued : Catalogued store)
    (fresh : store.experimentDefinition row.experimentId = none) (first : row.configRevision = 1) :
    Catalogued { store with experiments := store.experiments ++ [row] } := by
  have others := experimentDefinition_none fresh
  refine ⟨catalogued.experiments.append others, catalogued.revisions, fun r mem => ?_,
    fun row' mem => ?_, fun row' mem n two le => ?_, fun row' mem two => ?_⟩
  · obtain ⟨row', mem', owned⟩ := catalogued.owned r mem
    exact ⟨row', List.mem_append_left _ mem', owned⟩
  all_goals rcases List.mem_append.mp mem with mem | mem
  · exact catalogued.first row' mem
  · rw [List.mem_singleton.mp mem, first]
  · exact catalogued.later row' mem n two le
  · rw [List.mem_singleton.mp mem, first] at le
    omega
  · exact catalogued.latest row' mem two
  · rw [List.mem_singleton.mp mem, first] at two
    omega

theorem advances_addExperiment :
    Advances store { store with experiments := store.experiments ++ [row] } :=
  ⟨List.prefix_rfl, fun old mem => ⟨old, List.mem_append_left _ mem, rfl, Int.le_refl _⟩⟩

/-- A revision that is missing can be recorded, with any document if it is not the current one. -/
theorem Catalogued.addRevision {r : RevisionRow} (catalogued : Catalogued store)
    (found : store.experimentDefinition r.experimentId = some row) (first : r.revision = 1)
    (missing : store.hasRevision r.experimentId 1 = false) :
    Catalogued { store with revisions := store.revisions ++ [r] } := by
  obtain ⟨rowMem, same⟩ := experimentDefinition_some found
  have positive := catalogued.first row rowMem
  have others := hasRevision_false_iff.mp missing
  refine ⟨catalogued.experiments, ?_, fun r' mem => ?_, catalogued.first,
    fun row' mem n two le => ?_, fun row' mem two r' rMem owner latest => ?_⟩
  · refine catalogued.revisions.append fun old mem key => ?_
    obtain ⟨owner, revision⟩ := Prod.mk.inj key
    exact others old mem owner (revision.trans first)
  · rcases List.mem_append.mp mem with mem | mem
    · exact catalogued.owned r' mem
    · rw [List.mem_singleton.mp mem]
      exact ⟨row, rowMem, same, by omega, by omega⟩
  · have advances : Advances store { store with revisions := store.revisions ++ [r] } :=
      ⟨List.prefix_append _ _, fun row mem => ⟨row, mem, rfl, Int.le_refl _⟩⟩
    exact advances.hasRevision (catalogued.later row' mem n two le)
  · rcases List.mem_append.mp rMem with rMem | rMem
    · exact catalogued.latest row' mem two r' rMem owner latest
    · rw [List.mem_singleton.mp rMem] at latest
      omega

theorem advances_addRevision (r : RevisionRow) :
    Advances store { store with revisions := store.revisions ++ [r] } :=
  ⟨List.prefix_append _ _, fun row mem => ⟨row, mem, rfl, Int.le_refl _⟩⟩

/-- A change of columns other than the configuration and its revision. -/
theorem Catalogued.updateStatus (catalogued : Catalogued store) (experimentId status : String) :
    Catalogued (store.updateExperimentStatus experimentId status) ∧
      Advances store (store.updateExperimentStatus experimentId status) := by
  have old {row' : ExperimentRow}
      (mem : row' ∈ (store.updateExperimentStatus experimentId status).experiments) :
      ∃ row ∈ store.experiments, row'.experimentId = row.experimentId ∧
        row'.configRevision = row.configRevision ∧ row'.config = row.config := by
    obtain ⟨row, rowMem, rfl⟩ := Table.mem_update mem
    refine ⟨row, rowMem, ?_⟩
    split <;> exact ⟨rfl, rfl, rfl⟩
  have advances : Advances store (store.updateExperimentStatus experimentId status) := by
    refine ⟨List.prefix_rfl, fun row mem => ⟨_, List.mem_map_of_mem mem, ?_⟩⟩
    split <;> exact ⟨rfl, Int.le_refl _⟩
  refine ⟨⟨catalogued.experiments.update fun _ => rfl, catalogued.revisions, fun r mem => ?_,
    fun row' mem => ?_, fun row' mem n two le => ?_, fun row' mem two r rMem owner latest => ?_⟩,
    advances⟩
  · obtain ⟨row, rowMem, same, positive, le⟩ := catalogued.owned r mem
    obtain ⟨row', mem', same', le'⟩ := advances.experiments row rowMem
    exact ⟨row', mem', same'.trans same, positive, le.trans le'⟩
  all_goals obtain ⟨row, rowMem, same, revision, config⟩ := old mem
  · rw [revision]
    exact catalogued.first row rowMem
  · rw [same]
    exact catalogued.later row rowMem n two (revision ▸ le)
  · rw [config]
    exact catalogued.latest row rowMem (revision ▸ two) r rMem (owner.trans same)
      (latest.trans revision)

structure Saved (store store' : ConfigStore) (call : SaveCall) (row : ExperimentRow) : Prop where
  found : store.experimentDefinition call.experimentId = some row
  expected : row.configRevision = call.expectedRevision
  fresh : store.hasRevision call.experimentId (call.expectedRevision + 1) = false
  experiments : store'.experiments =
    Table.update ExperimentRow.experimentId store.experiments call.experimentId
      fun row => { row with config := call.config, configRevision := call.expectedRevision + 1 }
  revisions : store'.revisions = store.revisions ++
    [⟨call.experimentId, call.expectedRevision + 1, call.config, call.changeSummary⟩]

theorem SaveCall.transaction_ok {call : SaveCall} {n : Int}
    (committed : call.transaction store = .ok (store', n)) :
    ∃ row, Saved store store' call row := by
  unfold SaveCall.transaction ConfigStore.saveExperimentConfiguration at committed
  split at committed
  · cases committed
  · rename_i row found
    simp only at committed
    split at committed
    · cases committed
    · rename_i current
      split at committed
      · cases committed
      · rename_i fresh
        cases committed
        exact ⟨row, found, by tauto, Bool.eq_false_iff.mpr fresh, rfl, rfl⟩

namespace Saved

variable {call : SaveCall}

theorem advances (saved : Saved store store' call row) (catalogued : Catalogued store) :
    Advances store store' := by
  refine ⟨saved.revisions ▸ List.prefix_append _ _, fun other mem => ?_⟩
  rw [saved.experiments]
  refine ⟨_, List.mem_map_of_mem mem, ?_⟩
  split
  · rename_i same
    obtain ⟨rowMem, rowSame⟩ := experimentDefinition_some saved.found
    rw [catalogued.experiments.eq mem rowMem (same.trans rowSame.symm), saved.expected]
    exact ⟨rfl, by simp⟩
  · exact ⟨rfl, Int.le_refl _⟩

/-- A row after the save is an old row of another experiment, or it has the saved document. -/
theorem of_mem {row' : ExperimentRow} (saved : Saved store store' call row)
    (mem : row' ∈ store'.experiments) :
    (row' ∈ store.experiments ∧ row'.experimentId ≠ call.experimentId) ∨
      (row'.experimentId = call.experimentId ∧ row'.config = call.config ∧
        row'.configRevision = call.expectedRevision + 1) := by
  rw [saved.experiments] at mem
  obtain ⟨old, oldMem, rfl⟩ := Table.mem_update mem
  split
  · rename_i same
    exact .inr ⟨same, rfl, rfl⟩
  · rename_i differs
    exact .inl ⟨oldMem, differs⟩

theorem catalogued (saved : Saved store store' call row) (before : Catalogued store) :
    Catalogued store' := by
  obtain ⟨rowMem, rowSame⟩ := experimentDefinition_some saved.found
  have positive := before.first row rowMem
  have expected := saved.expected
  have advances := saved.advances before
  have fresh := hasRevision_false_iff.mp saved.fresh
  have recorded : store'.hasRevision call.experimentId (call.expectedRevision + 1) = true := by
    have mem : ⟨call.experimentId, call.expectedRevision + 1, call.config, call.changeSummary⟩ ∈
        store'.revisions := by
      rw [saved.revisions]
      exact List.mem_append_right _ (List.mem_singleton_self _)
    exact hasRevision_iff.mpr ⟨_, mem, rfl, rfl⟩
  have bounded : ∀ r ∈ store.revisions, r.experimentId = call.experimentId →
      r.revision ≤ call.expectedRevision := by
    intro r mem same
    obtain ⟨row', mem', same', -, le⟩ := before.owned r mem
    rw [before.experiments.eq mem' rowMem (same'.trans (same.trans rowSame.symm)), expected] at le
    exact le
  refine ⟨?_, ?_, fun r mem => ?_, fun row' mem => ?_, fun row' mem n two le => ?_,
    fun row' mem two r rMem owner latest => ?_⟩
  · rw [saved.experiments]
    exact before.experiments.update fun _ => rfl
  · rw [saved.revisions]
    refine before.revisions.append fun old mem key => ?_
    obtain ⟨owner, revision⟩ := Prod.mk.inj key
    exact fresh old mem owner revision
  · rw [saved.revisions] at mem
    rcases List.mem_append.mp mem with mem | mem
    · obtain ⟨old, oldMem, same, lower, upper⟩ := before.owned r mem
      obtain ⟨new, newMem, same', le⟩ := advances.experiments old oldMem
      exact ⟨new, newMem, same'.trans same, lower, upper.trans le⟩
    · obtain ⟨new, newMem, same, -⟩ := advances.experiments row rowMem
      rcases saved.of_mem newMem with ⟨-, differs⟩ | ⟨-, -, revision⟩
      · exact absurd (same.trans rowSame) differs
      · rw [List.mem_singleton.mp mem]
        exact ⟨new, newMem, same.trans rowSame, by simp only; omega, revision.ge⟩
  · rcases saved.of_mem mem with ⟨old, -⟩ | ⟨-, -, revision⟩
    · exact before.first row' old
    · omega
  · rcases saved.of_mem mem with ⟨old, -⟩ | ⟨same, -, revision⟩
    · exact advances.hasRevision (before.later row' old n two le)
    · rw [same]
      by_cases here : n = call.expectedRevision + 1
      · rw [here]
        exact recorded
      · have earlier := before.later row rowMem n two (by omega)
        rw [rowSame] at earlier
        exact advances.hasRevision earlier
  · rw [saved.revisions] at rMem
    rcases saved.of_mem mem with ⟨old, differs⟩ | ⟨same, config, revision⟩
    · rcases List.mem_append.mp rMem with rMem | rMem
      · exact before.latest row' old two r rMem owner latest
      · rw [List.mem_singleton.mp rMem] at owner
        exact absurd owner.symm differs
    · rcases List.mem_append.mp rMem with rMem | rMem
      · have le := bounded r rMem (owner.trans same)
        omega
      · rw [List.mem_singleton.mp rMem, config]

end Saved

end Tables

def ConfigTask.Recording (experimentId : String) : ConfigTask → Prop
  | .ensure experiment (.recording _) => experiment.experimentId = experimentId
  | _ => False

/-- The call has saved a configuration of the experiment over the expected revision. -/
def ConfigTask.HasSaved (experimentId : String) (expectedRevision : Int) : ConfigTask → Prop
  | .save call (.returned (.ok _)) =>
    call.experimentId = experimentId ∧ call.expectedRevision = expectedRevision
  | _ => False

def ExperimentRecord.row (experiment : ExperimentRecord) (status : String) : ExperimentRow :=
  ⟨experiment.experimentId, experiment.gameVersion, experiment.config, 1, status⟩

inductive ConfigStep (store : ConfigStore) :
    ConfigTask → ConfigInput → ConfigStore → ConfigTask → Prop where
  /-- Nothing is written; a call that was to record the first revision found it, or gave up. -/
  | unwritten {task input task'} (unsaved : ∀ id n, ¬task'.HasSaved id n)
      (found : ∀ experiment status, task = .ensure experiment (.recording status) →
        input = .answers → store.hasRevision experiment.experimentId 1 = true ∨
          store.experimentDefinition experiment.experimentId = none) :
      ConfigStep store task input store task'
  | kept {experiment row}
      (found : store.experimentDefinition experiment.experimentId = some row) :
      ConfigStep store (.ensure experiment .call) .answers store
        (.ensure experiment (.recording row.status))
  | inserted {experiment}
      (fresh : store.experimentDefinition experiment.experimentId = none) :
      ConfigStep store (.ensure experiment .call) .answers
        { store with experiments := store.experiments ++ [experiment.row experiment.status] }
        (.ensure experiment (.recording experiment.status))
  | recorded {experiment status row}
      (found : store.experimentDefinition experiment.experimentId = some row)
      (missing : store.hasRevision experiment.experimentId 1 = false) :
      ConfigStep store (.ensure experiment (.recording status)) .answers
        { store with revisions := store.revisions ++ [ConfigStore.initialRevision experiment] }
        (.ensure experiment (.returned (.ok status)))
  | created {experiment}
      (fresh : store.experimentDefinition experiment.experimentId = none)
      (missing : store.hasRevision experiment.experimentId 1 = false) :
      ConfigStep store (.create experiment .call) .answers
        { store with
          experiments := store.experiments ++ [experiment.row "inactive"]
          revisions := store.revisions ++ [ConfigStore.initialRevision experiment] }
        (.create experiment (.returned (.ok ())))
  | saved {call row store' n} (saved : Saved store store' call row) :
      ConfigStep store (.save call .call) .answers store' (.save call (.returned (.ok n)))
  | statusUpdated {experimentId status} :
      ConfigStep store (.updateStatus experimentId status .call) .answers
        (store.updateExperimentStatus experimentId status)
        (.updateStatus experimentId status (.returned (.ok ())))

section Steps

variable {store store' : ConfigStore} {task task' : ConfigTask} {input : ConfigInput}

theorem ensure_step {experiment : ExperimentRecord} {pc pc' : EnsurePc}
    (step : EnsurePc.step experiment store input pc = some (store', pc')) :
    ConfigStep store (.ensure experiment pc) input store' (.ensure experiment pc') := by
  unfold EnsurePc.step at step
  split at step
  · cases step
    exact .unwritten (fun _ _ => id) nofun
  · cases step
    exact .unwritten (fun _ _ => id) nofun
  · cases step
    exact .unwritten (fun _ _ => id) nofun
  · cases step
    exact .unwritten (fun _ _ => id) nofun
  · cases known : store.experimentDefinition experiment.experimentId with
    | none =>
      simp only [ConfigStore.insertOrKeepExperiment, known] at step
      cases step
      exact .inserted known
    | some row =>
      simp only [ConfigStore.insertOrKeepExperiment, known] at step
      cases step
      exact .kept known
  · rename_i status
    unfold ConfigStore.insertOrIgnoreRevision at step
    split at step
    · rename_i store'' recorded
      cases step
      split at recorded
      · rename_i has
        cases recorded
        refine .unwritten (fun _ _ => id) fun experiment' status' same _ => ?_
        cases same
        exact .inl has
      · rename_i missing
        split at recorded
        · cases recorded
        · rename_i known
          cases recorded
          rw [Bool.not_eq_true, Option.isNone_eq_false_iff, Option.isSome_iff_exists] at known
          obtain ⟨row, found⟩ := known
          exact .recorded found (Bool.eq_false_iff.mpr missing)
    · rename_i error refused
      cases step
      refine .unwritten (fun _ _ => id) fun experiment' status' same _ => ?_
      cases same
      split at refused
      · cases refused
      · split at refused
        · rename_i unknown
          exact .inr (Option.isNone_iff_eq_none.mp unknown)
        · cases refused
  · cases step

/-- A call of one transaction either commits it or leaves the tables alone. -/
theorem transaction_step {ρ : Type} {transaction : Except String (ConfigStore × ρ)}
    {pc pc' : TransactionPc ρ}
    (step : TransactionPc.step transaction store input pc = some (store', pc')) :
    (store' = store ∧ (pc' = .stopped ∨ ∃ error, pc' = .returned (.error error))) ∨
      (pc = .call ∧ input = .answers ∧
        ∃ result, transaction = .ok (store', result) ∧ pc' = .returned (.ok result)) := by
  unfold TransactionPc.step at step
  split at step
  · cases step
    exact .inl ⟨rfl, .inl rfl⟩
  · cases step
    exact .inl ⟨rfl, .inr ⟨_, rfl⟩⟩
  · split at step
    · cases step
      exact .inr ⟨rfl, rfl, _, rfl, rfl⟩
    · cases step
      exact .inl ⟨rfl, .inr ⟨_, rfl⟩⟩
  · cases step

theorem create_step {experiment : ExperimentRecord} {pc pc' : TransactionPc Unit}
    (step : TransactionPc.step ((store.createExperiment experiment).map (·, ())) store input pc =
      some (store', pc')) :
    ConfigStep store (.create experiment pc) input store' (.create experiment pc') := by
  rcases transaction_step step with ⟨rfl, -⟩ | ⟨rfl, rfl, ⟨⟩, committed, rfl⟩
  · exact .unwritten (fun _ _ => id) nofun
  · unfold ConfigStore.createExperiment at committed
    split at committed
    · cases committed
    · rename_i unknown
      split at committed
      · cases committed
      · rename_i missing
        cases committed
        exact .created (Option.not_isSome_iff_eq_none.mp unknown) (Bool.eq_false_iff.mpr missing)

theorem save_step {call : SaveCall} {pc pc' : TransactionPc Int}
    (step : TransactionPc.step (call.transaction store) store input pc = some (store', pc')) :
    ConfigStep store (.save call pc) input store' (.save call pc') := by
  rcases transaction_step step with ⟨rfl, rfl | ⟨_, rfl⟩⟩ | ⟨rfl, rfl, n, committed, rfl⟩
  · exact .unwritten (fun _ _ => id) nofun
  · exact .unwritten (fun _ _ => id) nofun
  · obtain ⟨row, saved⟩ := SaveCall.transaction_ok committed
    exact .saved saved

theorem config_step {pid : Nat} {started : List ConfigTask}
    (step : configProgram.step store pid task input = some (store', task', started)) :
    started = [] ∧ ConfigStep store task input store' task' := by
  obtain ⟨⟨store'', task''⟩, taken, same⟩ := Option.map_eq_some_iff.mp step
  cases same
  refine ⟨rfl, ?_⟩
  cases task with
  | ensure experiment pc =>
    obtain ⟨⟨_, _⟩, moved, same⟩ := Option.map_eq_some_iff.mp taken
    cases same
    exact ensure_step moved
  | create experiment pc =>
    obtain ⟨⟨_, _⟩, moved, same⟩ := Option.map_eq_some_iff.mp taken
    cases same
    exact create_step moved
  | save call pc =>
    obtain ⟨⟨_, _⟩, moved, same⟩ := Option.map_eq_some_iff.mp taken
    cases same
    exact save_step moved
  | updateStatus experimentId status pc =>
    obtain ⟨⟨_, _⟩, moved, same⟩ := Option.map_eq_some_iff.mp taken
    cases same
    rcases transaction_step moved with ⟨rfl, -⟩ | ⟨rfl, rfl, ⟨⟩, committed, rfl⟩
    · exact .unwritten (fun _ _ => id) nofun
    · cases committed
      exact .statusUpdated

end Steps

theorem ConfigStep.catalogued {store store' : ConfigStore} {task task' : ConfigTask}
    {input : ConfigInput} (step : ConfigStep store task input store' task')
    (catalogued : Catalogued store) : Catalogued store' ∧ Advances store store' := by
  cases step with
  | unwritten => exact ⟨catalogued, .refl _⟩
  | kept => exact ⟨catalogued, .refl _⟩
  | inserted fresh => exact ⟨catalogued.addExperiment fresh rfl, advances_addExperiment⟩
  | recorded found missing =>
    exact ⟨catalogued.addRevision found rfl missing, advances_addRevision _⟩
  | @created experiment fresh missing =>
    have added := @Catalogued.addExperiment store (experiment.row "inactive") catalogued fresh rfl
    have found := added.experiments.find? (List.mem_append_right _ (List.mem_singleton_self _))
    exact ⟨added.addRevision found rfl missing,
      advances_addExperiment.trans (advances_addRevision _)⟩
  | saved saved => exact ⟨saved.catalogued catalogued, saved.advances catalogued⟩
  | statusUpdated => exact catalogued.updateStatus _ _

/-- Only the commit of a save lets a call have saved. -/
theorem ConfigStep.of_hasSaved {store store' : ConfigStore} {task task' : ConfigTask}
    {input : ConfigInput} {experimentId : String} {n : Int}
    (step : ConfigStep store task input store' task') (has : task'.HasSaved experimentId n) :
    ∃ call row, Saved store store' call row ∧ call.experimentId = experimentId ∧
      call.expectedRevision = n := by
  cases step with
  | unwritten unsaved => exact absurd has (unsaved _ _)
  | saved saved => exact ⟨_, _, saved, has⟩
  | kept | inserted | recorded | created | statusUpdated => exact has.elim

abbrev ConfigPool := Pool ConfigStore ConfigTask

/-- What holds in every state: the tables are in order, and no two saves replaced one revision. -/
structure SavedOnce (w : ConfigPool) : Prop where
  catalogued : Catalogued w.shared
  saved : ∀ (pid : Nat) (task : ConfigTask) experimentId n, w.tasks[pid]? = some task →
    task.HasSaved experimentId n →
      ∃ row ∈ w.shared.experiments, row.experimentId = experimentId ∧ n < row.configRevision
  once : ∀ (pid q : Nat) (task task' : ConfigTask) experimentId n, w.tasks[pid]? = some task →
    w.tasks[q]? = some task' → task.HasSaved experimentId n → task'.HasSaved experimentId n →
      pid = q

theorem SavedOnce.step {w w' : ConfigPool} {a : Pool.Action ConfigTask ConfigInput}
    (savedOnce : SavedOnce w) (step : configMachine.step w a = some w') :
    SavedOnce w' ∧ Advances w.shared w'.shared := by
  rcases Program.step_cases step with ⟨task, rfl, entry, rfl⟩ |
    ⟨pid, input, task, store, task', started, rfl, here, taken, rfl⟩
  · have unsaved (id : String) (n : Int) : ¬task.HasSaved id n := by
      intro has
      unfold ConfigTask.HasSaved at has
      split at has
      · cases entry
      · exact has
    refine ⟨⟨savedOnce.catalogued, fun q t id n found has => ?_,
      fun q r t t' id n found found' has has' => ?_⟩, .refl _⟩
    · rcases Pool.task_of_append found with found | rfl
      · exact savedOnce.saved q t id n found has
      · exact absurd has (unsaved id n)
    · rcases Pool.task_of_append found with found | rfl
      · rcases Pool.task_of_append found' with found' | rfl
        · exact savedOnce.once q r t t' id n found found' has has'
        · exact absurd has' (unsaved id n)
      · exact absurd has (unsaved id n)
  · obtain ⟨rfl, change⟩ := config_step taken
    obtain ⟨catalogued, advances⟩ := change.catalogued savedOnce.catalogued
    -- A save that commits now replaces a revision that no earlier save can have replaced.
    have alone : ∀ (q : Nat) (t : ConfigTask) id n, w.tasks[q]? = some t → t.HasSaved id n →
        ¬task'.HasSaved id n := by
      intro q t id n found has now
      obtain ⟨call, row, saved, rfl, rfl⟩ := change.of_hasSaved now
      obtain ⟨row', mem', same', lt⟩ := savedOnce.saved q t _ _ found has
      obtain ⟨mem, same⟩ := experimentDefinition_some saved.found
      rw [savedOnce.catalogued.experiments.eq mem' mem (same'.trans same.symm), saved.expected] at lt
      exact Int.lt_irrefl _ lt
    refine ⟨⟨catalogued, fun q t id n found has => ?_,
      fun q r t t' id n found found' has has' => ?_⟩, advances⟩
    · rcases Pool.task_after found with ⟨-, rfl⟩ | ⟨-, found⟩ | new
      · obtain ⟨call, row, saved, rfl, rfl⟩ := change.of_hasSaved has
        obtain ⟨mem, same⟩ := experimentDefinition_some saved.found
        obtain ⟨row', mem', same', -⟩ := advances.experiments row mem
        rcases saved.of_mem mem' with ⟨-, differs⟩ | ⟨-, -, revision⟩
        · exact absurd (same'.trans same) differs
        · exact ⟨row', mem', same'.trans same, by omega⟩
      · obtain ⟨row, mem, same, lt⟩ := savedOnce.saved q t id n found has
        obtain ⟨row', mem', same', le⟩ := advances.experiments row mem
        exact ⟨row', mem', same'.trans same, Int.lt_of_lt_of_le lt le⟩
      · exact absurd new List.not_mem_nil
    · rcases Pool.task_after found with ⟨rfl, rfl⟩ | ⟨-, earlier⟩ | new
      · rcases Pool.task_after found' with ⟨rfl, -⟩ | ⟨-, earlier'⟩ | new
        · rfl
        · exact absurd has (alone r t' id n earlier' has')
        · exact absurd new List.not_mem_nil
      · rcases Pool.task_after found' with ⟨-, rfl⟩ | ⟨-, earlier'⟩ | new
        · exact absurd has' (alone q t id n earlier has)
        · exact savedOnce.once q r t t' id n earlier earlier' has has'
        · exact absurd new List.not_mem_nil
      · exact absurd new List.not_mem_nil

theorem SavedOnce.run {guard : ConfigPool → Pool.Action ConfigTask ConfigInput → Prop}
    {w w' : ConfigPool} (savedOnce : SavedOnce w) (run : configMachine.Run guard w w') :
    SavedOnce w' ∧ Advances w.shared w'.shared := by
  induction run with
  | refl => exact ⟨savedOnce, .refl _⟩
  | tail _ _ step ih =>
    obtain ⟨after, advances⟩ := ih.1.step step
    exact ⟨after, ih.2.trans advances⟩

/-- Another call than `pid` is yet to record the first revision of the experiment. -/
def RecordingElsewhere (w : ConfigPool) (pid : Nat) (experimentId : String) : Prop :=
  ∃ (q : Nat) (task : ConfigTask), q ≠ pid ∧ w.tasks[q]? = some task ∧ task.Recording experimentId

/--
While the first revision is missing, it is recorded with the experiment's own document unless that
is no longer the current one, and the last call that is to record it does not stop or fail.
-/
def FirstRevisionSafe (w : ConfigPool) : Pool.Action ConfigTask ConfigInput → Prop
  | .spawn _ => True
  | .run pid input => ∀ experiment status,
      w.tasks[pid]? = some (.ensure experiment (.recording status)) →
      w.shared.hasRevision experiment.experimentId 1 = false →
      match input with
      | .answers => ∀ row, w.shared.experimentDefinition experiment.experimentId = some row →
          row.configRevision = 1 → experiment.config = row.config
      | .fails | .stops => RecordingElsewhere w pid experiment.experimentId

def Covered (w : ConfigPool) (experimentId : String) : Prop :=
  w.shared.hasRevision experimentId 1 = true ∨ w.Has fun _ task => task.Recording experimentId

def FirstCovered (w : ConfigPool) : Prop :=
  ∀ row ∈ w.shared.experiments, FirstAgrees w.shared row ∧ Covered w row.experimentId

section Covering

variable {w : ConfigPool} {pid : Nat} {input : ConfigInput} {task task' : ConfigTask}
  {store' : ConfigStore} {started : List ConfigTask}

theorem Covered.kept {store : ConfigStore} {experimentId : String}
    (covered : Covered w experimentId) (here : w.tasks[pid]? = some task)
    (advances : Advances w.shared store)
    (kept : task.Recording experimentId → task'.Recording experimentId) :
    Covered ⟨store, w.tasks.set pid task' ++ []⟩ experimentId :=
  covered.imp advances.hasRevision fun has => has.after here kept fun _ _ _ => id

/-- A call that gives up leaves the first revision to another one, or it is there already. -/
theorem Covered.unwritten {row : ExperimentRow} (covered : Covered w row.experimentId)
    (met : FirstRevisionSafe w (.run pid input)) (here : w.tasks[pid]? = some task)
    (mem : row ∈ w.shared.experiments)
    (found : ∀ experiment status, task = .ensure experiment (.recording status) →
      input = .answers → w.shared.hasRevision experiment.experimentId 1 = true ∨
        w.shared.experimentDefinition experiment.experimentId = none) :
    Covered ⟨w.shared, w.tasks.set pid task' ++ []⟩ row.experimentId := by
  cases has : w.shared.hasRevision row.experimentId 1 with
  | true => exact .inl has
  | false =>
    obtain ⟨q, t, ht, recording⟩ := covered.resolve_left (Bool.eq_false_iff.mp has)
    by_cases same : q = pid
    · subst same
      cases Option.some.inj (ht.symm.trans here)
      unfold ConfigTask.Recording at recording
      split at recording
      · rename_i experiment status
        have safe := met experiment status here (recording ▸ has)
        cases input with
        | answers =>
          rcases found experiment status rfl rfl with present | unknown
          · rw [recording, has] at present
            cases present
          · exact absurd recording.symm (experimentDefinition_none unknown row mem)
        | fails | stops =>
          obtain ⟨r, u, differs, hu, other⟩ := safe
          exact .inr ⟨r, u, Pool.other_after differs hu, recording ▸ other⟩
      · exact recording.elim
    · exact .inr ⟨q, t, Pool.other_after same ht, recording⟩

/-- An experiment that is new has no revisions yet. -/
theorem no_revisions {store : ConfigStore} {experimentId : String} (catalogued : Catalogued store)
    (fresh : store.experimentDefinition experimentId = none) :
    ∀ r ∈ store.revisions, r.experimentId ≠ experimentId := by
  intro r mem same
  obtain ⟨row, rowMem, owner, -⟩ := catalogued.owned r mem
  exact experimentDefinition_none fresh row rowMem (owner.trans same)

theorem FirstCovered.step (covered : FirstCovered w) (catalogued : Catalogued w.shared)
    (met : FirstRevisionSafe w (.run pid input)) (here : w.tasks[pid]? = some task)
    (step : ConfigStep w.shared task input store' task') :
    FirstCovered ⟨store', w.tasks.set pid task' ++ []⟩ := by
  have advances := (step.catalogued catalogued).2
  cases step with
  | unwritten _ found =>
    intro row mem
    obtain ⟨agrees, covers⟩ := covered row mem
    exact ⟨agrees, covers.unwritten met here mem found⟩
  | kept found =>
    intro row mem
    obtain ⟨agrees, covers⟩ := covered row mem
    exact ⟨agrees, .kept covers here advances False.elim⟩
  | @inserted experiment fresh =>
    intro row mem
    rcases List.mem_append.mp mem with mem | mem
    · obtain ⟨agrees, covers⟩ := covered row mem
      exact ⟨agrees, .kept covers here advances False.elim⟩
    · rw [List.mem_singleton.mp mem]
      exact ⟨fun _ r rMem same => absurd same (no_revisions catalogued fresh r rMem),
        .inr ⟨pid, _, Pool.self_after here, rfl⟩⟩
  | @recorded experiment status row' found missing =>
    intro row mem
    obtain ⟨agrees, covers⟩ := covered row mem
    have safe := met experiment status here missing
    have recorded : ConfigStore.initialRevision experiment ∈
        w.shared.revisions ++ [ConfigStore.initialRevision experiment] :=
      List.mem_append_right _ (List.mem_singleton_self _)
    by_cases same : experiment.experimentId = row.experimentId
    · refine ⟨fun one r rMem owner first => ?_,
        .inl (hasRevision_iff.mpr ⟨_, recorded, same, rfl⟩)⟩
      rcases List.mem_append.mp rMem with rMem | rMem
      · exact agrees one r rMem owner first
      · obtain ⟨mem', same'⟩ := experimentDefinition_some found
        rw [List.mem_singleton.mp rMem, catalogued.experiments.eq mem mem' (same'.trans same).symm]
        rw [catalogued.experiments.eq mem mem' (same'.trans same).symm] at one
        exact safe row' found one
    · refine ⟨fun one r rMem owner first => ?_, .kept covers here advances same⟩
      rcases List.mem_append.mp rMem with rMem | rMem
      · exact agrees one r rMem owner first
      · rw [List.mem_singleton.mp rMem] at owner
        exact absurd owner same
  | @created experiment fresh missing =>
    have none := no_revisions catalogued fresh
    have recorded : ConfigStore.initialRevision experiment ∈
        w.shared.revisions ++ [ConfigStore.initialRevision experiment] :=
      List.mem_append_right _ (List.mem_singleton_self _)
    intro row mem
    rcases List.mem_append.mp mem with mem | mem
    · obtain ⟨agrees, covers⟩ := covered row mem
      refine ⟨fun one r rMem owner first => ?_, .kept covers here advances False.elim⟩
      rcases List.mem_append.mp rMem with rMem | rMem
      · exact agrees one r rMem owner first
      · rw [List.mem_singleton.mp rMem] at owner
        exact absurd owner.symm (experimentDefinition_none fresh row mem)
    · rw [List.mem_singleton.mp mem]
      refine ⟨fun one r rMem owner first => ?_, .inl (hasRevision_iff.mpr ⟨_, recorded, rfl, rfl⟩)⟩
      rcases List.mem_append.mp rMem with rMem | rMem
      · exact absurd owner (none r rMem)
      · rw [List.mem_singleton.mp rMem]
        rfl
  | @saved call row' _ n saved =>
    obtain ⟨mem', same'⟩ := experimentDefinition_some saved.found
    have positive := catalogued.first row' mem'
    have expected := saved.expected
    intro row mem
    rcases saved.of_mem mem with ⟨mem, differs⟩ | ⟨same, -, revision⟩
    · obtain ⟨agrees, covers⟩ := covered row mem
      refine ⟨fun one r rMem owner first => ?_, .kept covers here advances False.elim⟩
      rw [saved.revisions] at rMem
      rcases List.mem_append.mp rMem with rMem | rMem
      · exact agrees one r rMem owner first
      · rw [List.mem_singleton.mp rMem] at owner
        exact absurd owner.symm differs
    · refine ⟨fun one => absurd one (by omega), ?_⟩
      have covers := (covered row' mem').2
      rw [same'.trans same.symm] at covers
      exact .kept covers here advances False.elim
  | @statusUpdated experimentId status =>
    intro row mem
    obtain ⟨old, oldMem, rfl⟩ := Table.mem_update mem
    obtain ⟨agrees, covers⟩ := covered old oldMem
    split
    · exact ⟨agrees, .kept covers here advances False.elim⟩
    · exact ⟨agrees, .kept covers here advances False.elim⟩

end Covering

def ConfigTask.Ended : ConfigTask → Prop
  | ensure _ .call | ensure _ (.recording _) | create _ .call | save _ .call
  | updateStatus _ _ .call => False
  | _ => True

/-- No call is in progress. -/
def Quiet (w : ConfigPool) : Prop :=
  ∀ (pid : Nat) (task : ConfigTask), w.tasks[pid]? = some task → task.Ended

theorem FirstCovered.run {w w' : ConfigPool} (covered : FirstCovered w) (savedOnce : SavedOnce w)
    (run : configMachine.Run FirstRevisionSafe w w') : FirstCovered w' := by
  refine run.invariant_of_reached covered fun {t u a} reached covered met step => ?_
  rcases Program.step_cases step with ⟨task, rfl, -, rfl⟩ |
    ⟨pid, input, task, store, task', started, rfl, here, taken, rfl⟩
  · intro row mem
    obtain ⟨agrees, covers⟩ := covered row mem
    exact ⟨agrees, covers.imp_right Pool.Has.append⟩
  · obtain ⟨rfl, change⟩ := config_step taken
    exact covered.step (savedOnce.run reached).1.catalogued met here change

/-- Where no call is in progress, nothing is left to record. -/
theorem FirstCovered.history {w : ConfigPool} (covered : FirstCovered w) (savedOnce : SavedOnce w)
    (quiet : Quiet w) : History w.shared := by
  refine savedOnce.catalogued.history fun row mem => ?_
  obtain ⟨agrees, covers⟩ := covered row mem
  refine ⟨covers.resolve_right ?_, agrees⟩
  rintro ⟨pid, task, found, recording⟩
  have ended := quiet pid task found
  unfold ConfigTask.Recording at recording
  split at recording
  · exact ended
  · exact recording

theorem History.savedOnce {w : ConfigPool} (history : History w.shared) (idle : w.tasks = []) :
    SavedOnce w := by
  have nobody {pid : Nat} {task : ConfigTask} (found : w.tasks[pid]? = some task) : False := by
    rw [idle] at found
    cases found
  exact ⟨history.catalogued, fun _ _ _ _ found => (nobody found).elim,
    fun _ _ _ _ _ _ found => (nobody found).elim⟩

theorem History.firstCovered {w : ConfigPool} (history : History w.shared) : FirstCovered w := by
  intro row mem
  refine ⟨fun one r rMem owner first => ?_, .inl (hasRevision_iff.mpr ?_)⟩
  · exact history.latest row mem r rMem owner (first.trans one.symm)
  · exact (history.numbers row mem 1).mpr ⟨Int.le_refl _, history.started row mem⟩

/-- A save that does not commit leaves all tables as they were. -/
theorem save_unchanged {w w' : ConfigPool} {pid : Nat} {input : ConfigInput} {call : SaveCall}
    (here : w.tasks[pid]? = some (.save call .call))
    (step : configMachine.step w (.run pid input) = some w')
    (failed : ∀ n, w'.tasks[pid]? ≠ some (.save call (.returned (.ok n)))) :
    w'.shared = w.shared := by
  rcases Program.step_cases step with ⟨_, impossible, -⟩ |
    ⟨pid', input', task, store, task', started, same, found, taken, rfl⟩
  · cases impossible
  · cases same
    cases Option.some.inj (found.symm.trans here)
    obtain ⟨rfl, change⟩ := config_step taken
    cases change with
    | unwritten => rfl
    | saved => exact absurd (Pool.self_after here) (failed _)

/--
Histories stay complete and agree with their experiments in every run in which a missing first
revision is recorded with the current document and is not given up. In any run at all, revisions
stay as they are, no two saves replace one revision, and a failed save changes nothing.
-/
theorem configuration_history {w₀ w : ConfigPool} (history : History w₀.shared)
    (idle : w₀.tasks = []) (run : configMachine.Run Machine.unguarded w₀ w) :
    (configMachine.Run FirstRevisionSafe w₀ w → Quiet w → History w.shared) ∧
    w₀.shared.revisions <+: w.shared.revisions ∧
    (∀ w', configMachine.Run Machine.unguarded w w' →
      w.shared.revisions <+: w'.shared.revisions) ∧
    (∀ (pid q : Nat) (task task' : ConfigTask) experimentId n, w.tasks[pid]? = some task →
      w.tasks[q]? = some task' → task.HasSaved experimentId n → task'.HasSaved experimentId n →
        pid = q) ∧
    ∀ pid input call w', w.tasks[pid]? = some (.save call .call) →
      configMachine.step w (.run pid input) = some w' →
      (∀ n, w'.tasks[pid]? ≠ some (.save call (.returned (.ok n)))) → w'.shared = w.shared := by
  obtain ⟨savedOnce, advances⟩ := (history.savedOnce idle).run run
  refine ⟨fun safe quiet => ?_, advances.revisions, fun w' later => ?_, savedOnce.once,
    fun pid input call w' here step failed => save_unchanged here step failed⟩
  · exact (history.firstCovered.run (history.savedOnce idle) safe).history savedOnce quiet
  · exact (savedOnce.run later).2.revisions

def emptyConfigStore : ConfigStore where
  experiments := []
  gameSettings := ⟨"", ""⟩

theorem emptyConfigStore_history : History emptyConfigStore :=
  ⟨List.nodup_nil, List.nodup_nil, nofun, nofun, nofun, nofun⟩

def startedWith (planned : Int) : ExperimentRecord :=
  ⟨"demo", "1.0.0", .object [("planned_sessions", .int planned)], "inactive"⟩

def restarted : List (Pool.Action ConfigTask ConfigInput) :=
  [.spawn (.ensure (startedWith 10) .call), .run 0 .answers, .run 0 .stops,
    .spawn (.ensure (startedWith 20) .call), .run 1 .answers, .run 1 .answers]

theorem restarted_disagrees :
    ∃ w : ConfigPool, configMachine.Run Machine.unguarded ⟨emptyConfigStore, []⟩ w ∧ Quiet w ∧
      ¬History w.shared := by
  have run : configMachine.exec ⟨emptyConfigStore, []⟩ restarted = some
      ⟨{ emptyConfigStore with
        experiments := [(startedWith 10).row "inactive"]
        revisions := [ConfigStore.initialRevision (startedWith 20)] },
        [.ensure (startedWith 10) .stopped,
          .ensure (startedWith 20) (.returned (.ok "inactive"))]⟩ := by rfl
  refine ⟨_, Machine.Run.of_exec_unguarded run, fun pid task found => ?_, fun history => ?_⟩
  · match pid, found with
    | 0, found | 1, found =>
      cases found
      trivial
  · have same := history.latest _ (.head _) _ (.head _) rfl rfl
    cases same

def recordsNothing (w : ConfigPool) : Pool.Action ConfigTask ConfigInput → Bool
  | .spawn _ => true
  | .run pid _ => match w.tasks[pid]? with
    | some (.ensure experiment (.recording _)) => w.shared.hasRevision experiment.experimentId 1
    | _ => true

theorem firstRevisionSafe_of_recordsNothing (w : ConfigPool)
    (a : Pool.Action ConfigTask ConfigInput) (nothing : recordsNothing w a = true) :
    FirstRevisionSafe w a := by
  cases a with
  | spawn task => trivial
  | run pid input =>
    intro experiment status here missing
    simp only [recordsNothing, here, missing] at nothing
    cases nothing

def edited : List (Pool.Action ConfigTask ConfigInput) :=
  [.spawn (.create (startedWith 10) .call), .run 0 .answers,
    .spawn (.ensure (startedWith 20) .call), .run 1 .answers, .run 1 .answers,
    .spawn (.save ⟨"demo", 1, .object [], none, ∅, []⟩ .call), .run 2 .answers]

theorem edited_history :
    History { emptyConfigStore with
      experiments := [⟨"demo", "1.0.0", .object [], 2, "inactive"⟩]
      revisions := [ConfigStore.initialRevision (startedWith 10), ⟨"demo", 2, .object [], none⟩] } := by
  have run : (configMachine.restrict recordsNothing).exec ⟨emptyConfigStore, []⟩ edited = some
      ⟨{ emptyConfigStore with
        experiments := [⟨"demo", "1.0.0", .object [], 2, "inactive"⟩]
        revisions := [ConfigStore.initialRevision (startedWith 10),
          ⟨"demo", 2, .object [], none⟩] },
        [.create (startedWith 10) (.returned (.ok ())),
          .ensure (startedWith 20) (.returned (.ok "inactive")),
          .save ⟨"demo", 1, .object [], none, ∅, []⟩ (.returned (.ok 2))]⟩ := by rfl
  have safe := Machine.Run.of_exec firstRevisionSafe_of_recordsNothing run
  have any : configMachine.Run Machine.unguarded _ _ := safe.mono fun _ _ _ => trivial
  refine (configuration_history emptyConfigStore_history rfl any).1 safe fun pid task found => ?_
  match pid, found with
  | 0, found | 1, found | 2, found =>
    cases found
    trivial

end Parlando
