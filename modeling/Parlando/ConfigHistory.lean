import Parlando.Administration
import Parlando.Concurrency.Pool
import Parlando.Database

namespace Parlando

open Concurrency

/-- The argument of `ensure_experiment` and `create_experiment`. -/
structure ExperimentRecord where
  experimentId : String
  gameVersion : String
  config : Value
  status : String

namespace ConfigStore

/-- The primary key `(experiment_id, revision)` is taken. -/
def hasRevision (store : ConfigStore) (experimentId : String) (revision : Int) : Bool :=
  store.revisions.any fun row => row.experimentId == experimentId && row.revision == revision

def initialRevision (experiment : ExperimentRecord) : RevisionRow where
  experimentId := experiment.experimentId
  revision := 1
  config := experiment.config
  changeSummary := some "Initial configuration"

/--
The first statement of `ensure_experiment`, with the status that it returns. A row that is there
already gets the new server version and manifest, but keeps its configuration.
-/
def insertOrKeepExperiment (store : ConfigStore) (experiment : ExperimentRecord) :
    ConfigStore × String :=
  match store.experimentDefinition experiment.experimentId with
  | some row => (store, row.status)
  | none =>
    ({ store with experiments := store.experiments ++ [{
        experimentId := experiment.experimentId
        gameVersion := experiment.gameVersion
        config := experiment.config
        configRevision := 1
        status := experiment.status }] }, experiment.status)

/-- The second statement of `ensure_experiment`, which ignores a revision that is there already. -/
def insertOrIgnoreRevision (store : ConfigStore) (experiment : ExperimentRecord) :
    Except String ConfigStore :=
  if store.hasRevision experiment.experimentId 1 then .ok store
  else if (store.experimentDefinition experiment.experimentId).isNone then .error foreignKeyFailed
  else .ok { store with revisions := store.revisions ++ [initialRevision experiment] }

/-- The transaction `create_experiment`; the new experiment is inactive. -/
def createExperiment (store : ConfigStore) (experiment : ExperimentRecord) :
    Except String ConfigStore :=
  if (store.experimentDefinition experiment.experimentId).isSome then .error uniqueFailed
  else if store.hasRevision experiment.experimentId 1 then .error uniqueFailed
  else .ok { store with
    experiments := store.experiments ++ [{
      experimentId := experiment.experimentId
      gameVersion := experiment.gameVersion
      config := experiment.config
      configRevision := 1
      status := "inactive" }]
    revisions := store.revisions ++ [initialRevision experiment] }

def updateExperimentStatus (store : ConfigStore) (experimentId status : String) : ConfigStore :=
  { store with
    experiments := Table.update ExperimentRow.experimentId store.experiments experimentId
      fun row => { row with status } }

end ConfigStore

/-- What becomes of a call's next statement or transaction. -/
inductive ConfigInput where
  | answers
  /-- The database reports an error; a transaction is rolled back. -/
  | fails
  /-- The process crashes, or the call is dropped, before the statement or transaction. -/
  | stops

/-- Where an `ensure_experiment` call stands; each of its statements commits by itself. -/
inductive EnsurePc where
  | call
  | recording (status : String)
  | returned (result : Except String String)
  | stopped

inductive TransactionPc (ρ : Type) where
  | call
  | returned (result : Except String ρ)
  | stopped

/-- The arguments of a `save_experiment_configuration` call. -/
structure SaveCall where
  experimentId : String
  expectedRevision : Int
  config : Value
  changeSummary : Option String := none
  secretUpdates : Map String String := ∅
  secretDeletions : List String := []

inductive ConfigTask where
  | ensure (experiment : ExperimentRecord) (pc : EnsurePc)
  | create (experiment : ExperimentRecord) (pc : TransactionPc Unit)
  | save (call : SaveCall) (pc : TransactionPc Int)
  | updateStatus (experimentId status : String) (pc : TransactionPc Unit)

namespace EnsurePc

def step (experiment : ExperimentRecord) (store : ConfigStore) :
    ConfigInput → EnsurePc → Option (ConfigStore × EnsurePc)
  | .stops, call | .stops, recording _ => some (store, stopped)
  | .fails, call | .fails, recording _ => some (store, returned (.error "database error"))
  | .answers, call =>
    let (store, status) := store.insertOrKeepExperiment experiment
    some (store, recording status)
  | .answers, recording status =>
    match store.insertOrIgnoreRevision experiment with
    | .ok store => some (store, returned (.ok status))
    | .error error => some (store, returned (.error error))
  | _, _ => none

end EnsurePc

namespace TransactionPc

/-- A transaction that does not commit leaves the store as it was. -/
def step {ρ : Type} (transaction : Except String (ConfigStore × ρ)) (store : ConfigStore) :
    ConfigInput → TransactionPc ρ → Option (ConfigStore × TransactionPc ρ)
  | .stops, call => some (store, stopped)
  | .fails, call => some (store, returned (.error "database error"))
  | .answers, call =>
    match transaction with
    | .ok (store, result) => some (store, returned (.ok result))
    | .error error => some (store, returned (.error error))
  | _, _ => none

end TransactionPc

namespace SaveCall

def transaction (call : SaveCall) (store : ConfigStore) : Except String (ConfigStore × Int) :=
  store.saveExperimentConfiguration call.experimentId call.expectedRevision call.config
    call.changeSummary call.secretUpdates call.secretDeletions

end SaveCall

namespace ConfigTask

def entry : ConfigTask → Bool
  | ensure _ .call | create _ .call | save _ .call | updateStatus _ _ .call => true
  | _ => false

def step (store : ConfigStore) (input : ConfigInput) :
    ConfigTask → Option (ConfigStore × ConfigTask)
  | ensure experiment pc =>
    (EnsurePc.step experiment store input pc).map fun (store, pc) => (store, ensure experiment pc)
  | create experiment pc =>
    (TransactionPc.step ((store.createExperiment experiment).map (·, ())) store input pc).map
      fun (store, pc) => (store, create experiment pc)
  | save call pc =>
    (TransactionPc.step (call.transaction store) store input pc).map
      fun (store, pc) => (store, save call pc)
  | updateStatus experimentId status pc =>
    (TransactionPc.step (.ok (store.updateExperimentStatus experimentId status, ())) store input
      pc).map fun (store, pc) => (store, updateStatus experimentId status pc)

end ConfigTask

/-- The calls that write configurations, in any interleaving of statements and transactions. -/
def configProgram : Program ConfigStore ConfigTask ConfigInput where
  entry _ task := task.entry
  step store _ task input := (task.step store input).map fun (store, task) => (store, task, [])

abbrev configMachine := configProgram.machine

end Parlando
