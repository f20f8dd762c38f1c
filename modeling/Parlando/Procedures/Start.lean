import Parlando.Procedures.Submit

namespace Parlando

variable {G : Game}

/-- Where a `maybe_start_game` call stands; the transition lock is held from `check` to `release`. -/
inductive StartPc where
  | fetch
  | lock (lock : Nat)
  | check (lock : Nat)
  | commit (lock : Nat) (startedAt : Timestamp)
  | write (lock : Nat) (startedAt : Timestamp)
  | release (lock : Nat)
  | returned
  deriving DecidableEq, Repr

def startable (config : ExperimentConfig) (session : Option (LiveSession G)) : Bool :=
  session.any fun session => session.lifecycle.isForming && session.readyForGame config

namespace StartPc

/-- One atomic step of `maybe_start_game`. -/
def step (config : ExperimentConfig) (cell : Cell G) (pid : Nat) (input : Input) :
    StartPc → Option (Section G × StartPc)
  | fetch => some (.fetchLock, lock cell.transitionLock)
  | lock l => if cell.lockFree l then some (.acquire l pid, check l) else none
  | check l =>
    if startable config cell.session then some (.skip, commit l input.now)
    else some (.skip, release l)
  | commit l startedAt =>
    if input.storeOk then
      let idleDeadlineAt := idleDeadline config startedAt
      some (.transaction (.start startedAt idleDeadlineAt),
        if (cell.store.startSession startedAt idleDeadlineAt).2 then write l startedAt
        else release l)
    else some (.skip, release l)
  | write l startedAt =>
    -- The lifecycle is not looked at again before it is overwritten.
    some (.memory (.start startedAt (idleDeadline config startedAt)), release l)
  | release l => some (.release l, returned)
  | returned => none

end StartPc

end Parlando
