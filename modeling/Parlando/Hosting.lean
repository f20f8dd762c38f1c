import Parlando.Concurrency.Pool
import Parlando.Protocol

namespace Parlando

open Concurrency

/-- Participant-availability lifecycle for one experiment hosted by a game process. -/
inductive ExperimentLifecycle where
  | inactive
  | testing
  | active
  | completed
  | archived
  deriving DecidableEq, Repr

namespace ExperimentLifecycle

def asStr : ExperimentLifecycle → String
  | inactive => "inactive"
  | testing => "testing"
  | active => "active"
  | completed => "completed"
  | archived => "archived"

/-- Reports whether participants may create or enter sessions in this lifecycle. -/
def allowsIntake : ExperimentLifecycle → Bool
  | testing | active => true
  | _ => false

/-- Validates deliberate administrator transitions and rejects destructive shortcuts. -/
def canTransitionTo (current next : ExperimentLifecycle) : Bool :=
  current == next || match current, next with
    | inactive, testing | inactive, active | inactive, archived => true
    | testing, inactive => true
    | active, inactive | active, completed => true
    | completed, archived => true
    | archived, inactive => true
    | _, _ => false

end ExperimentLifecycle

/-- One runtime that the host has mounted, with its lock `experiment_lifecycle`. -/
structure MountedRuntime where
  lifecycle : ExperimentLifecycle
  /-- The update that holds the lock for writing. -/
  writer : Option Nat := none
  /-- How many admissions hold it for reading. -/
  readers : Nat := 0

/-- A session of the experiment, in the memory of a runtime and in the database. -/
structure HostedSession where
  /-- The runtime that created it; none for a session of an earlier process. -/
  runtime : Option Nat
  /-- It is in its runtime's memory and has not ended there. -/
  live : Bool
  /-- Its row is ended. -/
  ended : Bool

structure HostedExperiment where
  /-- `experiments.status`. -/
  status : ExperimentLifecycle
  configRevision : Int
  /-- The runtimes in the order of their mounting, evicted ones included. -/
  runtimes : List MountedRuntime := []
  /-- The experiment's entry in the router cache. -/
  cache : Option Nat := none
  /-- Who holds the experiment's lock in `runtime_router_build_locks`. -/
  buildLock : Option Nat := none
  sessions : List HostedSession := []

inductive HostSection where
  | skip
  | lockLifecycle (r pid : Nat)
  | releaseLifecycle (r : Nat)
  | enter (r : Nat)
  | leave (r : Nat)
  | setLifecycle (r : Nat) (lifecycle : ExperimentLifecycle)
  | storeStatus (status : ExperimentLifecycle)
  | saveRevision
  | evict
  | mount (lifecycle : ExperimentLifecycle)
  | lockBuild (pid : Nat)
  | releaseBuild
  | insertRow (r : Nat)
  | insertSession (session : Nat)
  | endRow (session : Nat)
  | endSession (session : Nat)

namespace HostedExperiment

def updateRuntime (host : HostedExperiment) (r : Nat) (f : MountedRuntime → MountedRuntime) : HostedExperiment :=
  { host with runtimes := host.runtimes.modify r f }

def updateSession (host : HostedExperiment) (i : Nat) (f : HostedSession → HostedSession) : HostedExperiment :=
  { host with sessions := host.sessions.modify i f }

def openSessions (host : HostedExperiment) : List Nat :=
  ((List.range host.sessions.length).reverse.take 10000).filter fun i =>
    host.sessions[i]?.any fun session => !session.ended

end HostedExperiment

def HostSection.apply (host : HostedExperiment) : HostSection → HostedExperiment
  | skip => host
  | lockLifecycle r pid => host.updateRuntime r fun runtime => { runtime with writer := some pid }
  | releaseLifecycle r => host.updateRuntime r fun runtime => { runtime with writer := none }
  | enter r => host.updateRuntime r fun runtime => { runtime with readers := runtime.readers + 1 }
  | leave r => host.updateRuntime r fun runtime => { runtime with readers := runtime.readers - 1 }
  | setLifecycle r lifecycle => host.updateRuntime r fun runtime => { runtime with lifecycle }
  | storeStatus status => { host with status }
  | saveRevision => { host with configRevision := host.configRevision + 1 }
  | evict => { host with cache := none }
  | mount lifecycle => { host with
      runtimes := host.runtimes ++ [{ lifecycle }]
      cache := host.cache.or (some host.runtimes.length) }
  | lockBuild pid => { host with buildLock := some pid }
  | releaseBuild => { host with buildLock := none }
  | insertRow r => { host with sessions := host.sessions ++ [⟨some r, false, false⟩] }
  | insertSession i => host.updateSession i fun session => { session with live := true }
  | endRow i => host.updateSession i fun session => { session with ended := true }
  | endSession i => host.updateSession i fun session => { session with live := false }

structure HostInput where
  /-- The store statement of the step succeeds. -/
  storeOk : Bool := true
  /-- What the request's own validation, provider checks or preparation refuse it with. -/
  refused : Option AppError := none

structure UpdateCall where
  /-- The runtime the request was dispatched to. -/
  runtime : Nat
  next : ExperimentLifecycle
  deriving DecidableEq

/-- Where an `admin_update_experiment_status` request stands; it holds its runtime's lock from `write` on. -/
inductive UpdatePc where
  | checks
  | lock
  | write
  | remember
  | evict
  | release (result : Except AppError Unit)
  | returned (result : Except AppError Unit)

namespace UpdatePc

def step (call : UpdateCall) (host : HostedExperiment) (pid : Nat) (input : HostInput) :
    UpdatePc → Option (HostSection × UpdatePc)
  | checks =>
    match input.refused with
    | some error => some (.skip, returned (.error error))
    | none => some (.skip, lock)
  | lock =>
    host.runtimes[call.runtime]?.bind fun runtime =>
      if runtime.writer.isSome || runtime.readers != 0 then none
      else if runtime.lifecycle.canTransitionTo call.next then
        some (.lockLifecycle call.runtime pid, write)
      else some (.skip, returned (.error ⟨.conflict, "Experiment cannot transition directly from " ++
        runtime.lifecycle.asStr ++ " to " ++ call.next.asStr⟩))
  | write =>
    if input.storeOk then some (.storeStatus call.next, remember)
    else some (.skip, release (.error internalError))
  | remember =>
    some (.setLifecycle call.runtime call.next,
      if call.next = .inactive then evict else release (.ok ()))
  | evict => some (.evict, release (.ok ()))
  | release result => some (.releaseLifecycle call.runtime, returned result)
  | returned _ => none

end UpdatePc

/-- Where an `admin_archive_experiment` request stands. -/
inductive ArchivePc where
  | lock
  | write
  /-- Reads the status that stood in the way. -/
  | explain
  | evict
  | release (result : Except AppError Unit)
  | returned (result : Except AppError Unit)

namespace ArchivePc

def step (host : HostedExperiment) (pid : Nat) (input : HostInput) : ArchivePc → Option (HostSection × ArchivePc)
  | lock => if host.buildLock.isSome then none else some (.lockBuild pid, write)
  | write =>
    if !input.storeOk then some (.skip, release (.error ⟨.conflict, "database error"⟩))
    else if host.status = .inactive ∨ host.status = .completed then
      some (.storeStatus .archived, evict)
    else some (.skip, explain)
  | explain =>
    some (.skip, release (.error ⟨.conflict,
      if !input.storeOk then "database error"
      else if host.status = .archived then "Experiment is already archived."
      else "Experiment in " ++ host.status.asStr ++ " status must stop intake before archival."⟩))
  | evict => some (.evict, release (.ok ()))
  | release result => some (.releaseBuild, returned result)
  | returned _ => none

end ArchivePc

/-- Where an `admin_save_experiment_config` request stands. -/
inductive SavePc where
  | lock
  | read
  | save
  | evict
  | release (result : Except AppError Unit)
  | returned (result : Except AppError Unit)

namespace SavePc

def step (expectedRevision : Int) (host : HostedExperiment) (pid : Nat) (input : HostInput) :
    SavePc → Option (HostSection × SavePc)
  | lock => if host.buildLock.isSome then none else some (.lockBuild pid, read)
  | read =>
    if !input.storeOk then some (.skip, release (.error internalError))
    else if host.status ≠ .inactive then
      some (.skip, release (.error ⟨.conflict,
        "Experiment configuration can only be edited while the experiment is inactive"⟩))
    else match input.refused with
      | some error => some (.skip, release (.error error))
      | none => some (.skip, save)
  | save =>
    if input.storeOk && host.configRevision == expectedRevision && host.status == .inactive then
      some (.saveRevision, evict)
    else some (.skip, release (.error ⟨.conflict,
      "experiment configuration changed concurrently or experiment is not inactive"⟩))
  | evict => some (.evict, release (.ok ()))
  | release result => some (.releaseBuild, returned result)
  | returned _ => none

end SavePc

/-- Where `invalidate_inactive_runtime_routers`, after a change of the game's settings, stands. -/
inductive RefreshPc where
  | list
  | lock
  | read
  | evict
  | release
  | returned

namespace RefreshPc

def step (host : HostedExperiment) (pid : Nat) (input : HostInput) : RefreshPc → Option (HostSection × RefreshPc)
  | list => some (.skip, if host.cache.isSome then lock else returned)
  | lock => if host.buildLock.isSome then none else some (.lockBuild pid, read)
  | read =>
    some (.skip, if input.storeOk && host.status == .inactive then evict else release)
  | evict => some (.evict, release)
  | release => some (.releaseBuild, returned)
  | returned => none

end RefreshPc

/-- Where an `experiment_router` call stands; the runtime it builds is its own until `mount`. -/
inductive BuildPc where
  | probe
  | lock
  | recheck
  | definition
  | ensure
  | interrupted (lifecycle : ExperimentLifecycle)
  | finalize (lifecycle : ExperimentLifecycle) (sessions : List Nat)
  | endSession (lifecycle : ExperimentLifecycle) (session : Nat) (sessions : List Nat)
  | mount (lifecycle : ExperimentLifecycle)
  | release (found : Bool)
  | returned (found : Bool)

namespace BuildPc

def step (host : HostedExperiment) (pid : Nat) (input : HostInput) : BuildPc → Option (HostSection × BuildPc)
  | probe => some (.skip, if host.cache.isSome then returned true else lock)
  | lock => if host.buildLock.isSome then none else some (.lockBuild pid, recheck)
  | recheck => some (.skip, if host.cache.isSome then release true else definition)
  | definition =>
    some (.skip, if input.storeOk && input.refused.isNone then ensure else release false)
  | ensure => some (.skip, if input.storeOk then interrupted host.status else release false)
  | interrupted lifecycle =>
    some (.skip, if input.storeOk then finalize lifecycle host.openSessions else release false)
  | finalize lifecycle [] => some (.skip, mount lifecycle)
  | finalize lifecycle (i :: rest) =>
    some (.skip, if input.storeOk then endSession lifecycle i rest else release false)
  | endSession lifecycle i rest =>
    if input.storeOk then some (.endRow i, finalize lifecycle rest)
    else some (.skip, release false)
  | mount lifecycle => some (.mount lifecycle, release true)
  | release found => some (.releaseBuild, returned found)
  | returned _ => none

end BuildPc

/-- Where a `create_session` request that makes a session of its own stands. -/
inductive AdmissionPc where
  | intake
  | insertRow
  | insertSession (session : Nat)
  | complete (session : Nat)
  | leave
  | returned

namespace AdmissionPc

def step (r : Nat) (host : HostedExperiment) (input : HostInput) : AdmissionPc → Option (HostSection × AdmissionPc)
  | intake =>
    host.runtimes[r]?.bind fun runtime =>
      if runtime.writer.isSome then none
      else if runtime.lifecycle.allowsIntake then some (.enter r, insertRow)
      else some (.skip, returned)
  | insertRow =>
    if input.storeOk && input.refused.isNone then
      some (.insertRow r, insertSession host.sessions.length)
    else some (.skip, leave)
  | insertSession i => some (.insertSession i, complete i)
  | complete i =>
    if input.storeOk && host.sessions[i]?.any fun session => !session.ended then some (.skip, leave)
    else some (.endSession i, leave)
  | leave => some (.leave r, returned)
  | returned => none

end AdmissionPc

inductive EndingPc where
  | row
  | memory
  | done

namespace EndingPc

def step (i : Nat) (input : HostInput) : EndingPc → Option (HostSection × EndingPc)
  | row => if input.storeOk then some (.endRow i, memory) else some (.skip, done)
  | memory => some (.endSession i, done)
  | done => none

end EndingPc

/-- Every request that works on the experiment. -/
inductive HostTask where
  | update (call : UpdateCall) (pc : UpdatePc)
  | archive (pc : ArchivePc)
  | save (expectedRevision : Int) (pc : SavePc)
  | refresh (pc : RefreshPc)
  | build (pc : BuildPc)
  | admission (runtime : Nat) (pc : AdmissionPc)
  | ending (session : Nat) (pc : EndingPc)

namespace HostTask

def step (host : HostedExperiment) (pid : Nat) (input : HostInput) : HostTask → Option (HostSection × HostTask)
  | update call pc => (pc.step call host pid input).map fun (sec, pc) => (sec, update call pc)
  | archive pc => (pc.step host pid input).map fun (sec, pc) => (sec, archive pc)
  | save revision pc => (pc.step revision host pid input).map fun (sec, pc) => (sec, save revision pc)
  | refresh pc => (pc.step host pid input).map fun (sec, pc) => (sec, refresh pc)
  | build pc => (pc.step host pid input).map fun (sec, pc) => (sec, build pc)
  | admission r pc => (pc.step r host input).map fun (sec, pc) => (sec, admission r pc)
  | ending i pc => (pc.step i input).map fun (sec, pc) => (sec, ending i pc)

/-- Where a request may begin: on a runtime that was mounted at some time, evicted or not. -/
def entry (host : HostedExperiment) : HostTask → Bool
  | update call .checks => call.runtime < host.runtimes.length
  | archive .lock | save _ .lock | refresh .list | build .probe => true
  | admission r .intake => r < host.runtimes.length
  | ending i .row => host.sessions[i]?.any HostedSession.live
  | _ => false

/-- The request has been answered. -/
def isDone : HostTask → Bool
  | update _ (.returned _) | archive (.returned _) | save _ (.returned _) | refresh .returned
  | build (.returned _) | admission _ .returned | ending _ .done => true
  | _ => false

end HostTask

def hostProgram : Program HostedExperiment HostTask HostInput where
  entry := HostTask.entry
  step host pid task input := (task.step host pid input).map fun (sec, task) =>
    (sec.apply host, task, [])

abbrev hostMachine := hostProgram.machine

/-- The process has just started: `deactivate_open_experiments` has closed the experiment. -/
def HostedExperiment.started (stored : ExperimentLifecycle) (configRevision : Int) (endedRows : List Bool) :
    Pool HostedExperiment HostTask :=
  ⟨{ status := if stored.allowsIntake then .inactive else stored
     configRevision
     sessions := endedRows.map fun ended => ⟨none, false, ended⟩ }, []⟩

end Parlando
