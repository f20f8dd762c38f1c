import Mathlib.Tactic.TypeStar

namespace Parlando.Concurrency

/-- A lock whose waiters get it in the order in which they asked for it. -/
structure FairLock (ι : Type*) where
  locked : Bool := false
  waiters : List ι := []

namespace FairLock

variable {ι : Type*} (lock : FairLock ι)

/-- Who asks for the lock now gets it at once: nobody holds it or waits for it. -/
def free : Bool := !lock.locked && lock.waiters.isEmpty

def hold : FairLock ι := { lock with locked := true }

def release : FairLock ι := { lock with locked := false }

def enqueue (i : ι) : FairLock ι := { lock with waiters := lock.waiters ++ [i] }

def abandon [DecidableEq ι] (i : ι) : FairLock ι := { lock with waiters := lock.waiters.erase i }

/-- The waiter that gets the lock next, and the lock without it in the queue. -/
def next : Option (ι × FairLock ι) :=
  match lock.locked, lock.waiters with
  | false, i :: waiters => some (i, { lock with waiters })
  | _, _ => none

end FairLock

end Parlando.Concurrency
