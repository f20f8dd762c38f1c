import Parlando.Concurrency.FairLock
import Parlando.Concurrency.Machine
import Parlando.Data.Map

namespace Parlando

open Concurrency

/-- What follows the reservation of a place: the settings are read and the factory is called. -/
inductive FactoryCall where
  /-- `_struct_to_dict` raises, as it does on settings with a number that is not finite. -/
  | unreadable
  | returns
  | raises
  /-- The factory returns an awaitable. -/
  | awaits
  deriving DecidableEq

/--
The await at which an RPC is suspended, or how it has ended. RPCs are named by their indices, and so
is the agent that a `CreateAgent` makes.
-/
inductive AgentRpc where
  /-- `context.abort` before the lock is asked for. -/
  | rejecting
  /-- `CreateAgent` waits for the lock to reserve its place. -/
  | reserving
  /-- `context.abort` under the lock, as the capacity is reached. -/
  | refusing
  | creating
  /-- It waits for the lock to store its agent. -/
  | storing
  /-- It waits for the lock in `finally`; the id is that of an agent it has stored. -/
  | releasing (stored : Option String)
  | returned (agentId : String)
  | failed
  /-- `Shutdown` waits for the lock. -/
  | popping (agentId : String)
  /-- `agent.shutdown()` has been called; the logger has left the tables with its agent. -/
  | stopping (logger : Option Nat)
  | ended
  deriving DecidableEq

namespace AgentRpc

def isOver : AgentRpc → Bool
  | returned _ | failed | ended => true
  | _ => false

/-- The RPC is counted among the agents being created. -/
def reserves : AgentRpc → Bool
  | creating | storing | releasing _ => true
  | _ => false

def isCreating : AgentRpc → Bool
  | creating | storing | releasing none => true
  | _ => false

end AgentRpc

structure AgentService where
  maxAgents : Nat
  agents : Map String Nat := ∅
  loggers : Map String Nat := ∅
  creatingAgents : Int := 0
  agentLock : FairLock Nat := {}
  rpcs : List AgentRpc := []
  /-- The agents ever stored. -/
  stored : List Nat := []
  /-- The agents whose `shutdown` has been called, call by call. -/
  shutdowns : List Nat := []

inductive AgentServiceAction where
  /-- A `CreateAgent` arrives, authenticated and for a known role or not. -/
  | create (admitted : Bool) (call : FactoryCall)
  | shutdown (admitted : Bool) (agentId : String)
  /-- The first waiter goes on; the call counts where it reserves a place, as in `create`. -/
  | resume (call : FactoryCall)
  | aborted (i : Nat)
  /-- The awaitable of the factory returns an agent or raises. -/
  | created (i : Nat) (ok : Bool)
  /-- `agent.shutdown()` returns or raises. -/
  | stopped (i : Nat)
  /-- The RPC is cancelled at its await. -/
  | cancel (i : Nat)

namespace AgentService

variable (s : AgentService) (i : Nat)

def setRpc (rpc : AgentRpc) : AgentService := { s with rpcs := s.rpcs.set i rpc }

def wait (rpc : AgentRpc) : AgentService :=
  { s with agentLock := s.agentLock.enqueue i, rpcs := s.rpcs.set i rpc }

def release (stored : Option String) : AgentService :=
  { s with creatingAgents := s.creatingAgents - 1 }.setRpc i <|
    match stored with
    | some agentId => .returned agentId
    | none => .failed

def enterRelease (stored : Option String) : AgentService :=
  if s.agentLock.free then s.release i stored else s.wait i (.releasing stored)

/-- The section that stores the agent; `uuid4` gives every RPC an id of its own. -/
def store (uuid : Nat → String) : AgentService :=
  { s with
    agents := s.agents.insert (uuid i) i
    loggers := s.loggers.insert (uuid i) i
    stored := s.stored ++ [i] }.enterRelease i (some (uuid i))

def enterStore (uuid : Nat → String) : AgentService :=
  if s.agentLock.free then s.store i uuid else s.wait i .storing

def reserve (uuid : Nat → String) (call : FactoryCall) : AgentService :=
  if s.agents.entries.length + s.creatingAgents ≥ s.maxAgents then
    { s with agentLock := s.agentLock.hold }.setRpc i .refusing
  else
    let s := { s with creatingAgents := s.creatingAgents + 1 }
    match call with
    -- The settings are read between the reservation and the `try`.
    | .unreadable => s.setRpc i .failed
    | .returns => s.enterStore i uuid
    | .raises => s.enterRelease i none
    | .awaits => s.setRpc i .creating

/-- The section of `Shutdown`, and the call of the agent's own `shutdown`. -/
def pop (agentId : String) : AgentService :=
  let s' := { s with agents := s.agents.erase agentId, loggers := s.loggers.erase agentId }
  match s.agents.lookup agentId with
  | some agent =>
    { s' with shutdowns := s.shutdowns ++ [agent] }.setRpc i <|
      .stopping (s.loggers.lookup agentId)
  | none => s'.setRpc i .ended

def resumed (uuid : Nat → String) (call : FactoryCall) : AgentRpc → Option AgentService
  | .reserving => some (s.reserve i uuid call)
  | .storing => some (s.store i uuid)
  | .releasing stored => some (s.release i stored)
  | .popping agentId => some (s.pop i agentId)
  | _ => none

def cancelled : AgentRpc → Option AgentService
  | .rejecting => some (s.setRpc i .failed)
  | .reserving => some ({ s with agentLock := s.agentLock.abandon i }.setRpc i .failed)
  | .refusing => some ({ s with agentLock := s.agentLock.release }.setRpc i .failed)
  | .creating => some (s.enterRelease i none)
  | .storing => some ({ s with agentLock := s.agentLock.abandon i }.enterRelease i none)
  -- The section that would have given the place up is never entered.
  | .releasing _ => some ({ s with agentLock := s.agentLock.abandon i }.setRpc i .failed)
  | .popping _ => some ({ s with agentLock := s.agentLock.abandon i }.setRpc i .ended)
  | .stopping _ => some (s.setRpc i .ended)
  | .returned _ | .failed | .ended => none

def arrive (rpc : AgentRpc) : AgentService := { s with rpcs := s.rpcs ++ [rpc] }

def step (uuid : Nat → String) : AgentServiceAction → Option AgentService
  | .create false _ => some (s.arrive .rejecting)
  | .create true call =>
    let i := s.rpcs.length
    let arrived := s.arrive .reserving
    some (if s.agentLock.free then arrived.reserve i uuid call else arrived.wait i .reserving)
  | .shutdown false _ => some (s.arrive .rejecting)
  | .shutdown true agentId =>
    let i := s.rpcs.length
    let arrived := s.arrive (.popping agentId)
    some (if s.agentLock.free then arrived.pop i agentId else arrived.wait i (.popping agentId))
  | .resume call => s.agentLock.next.bind fun (i, agentLock) =>
    s.rpcs[i]?.bind ({ s with agentLock }.resumed i uuid call)
  | .aborted i =>
    match s.rpcs[i]? with
    | some .rejecting => some (s.setRpc i .failed)
    | some .refusing => some ({ s with agentLock := s.agentLock.release }.setRpc i .failed)
    | _ => none
  | .created i ok =>
    if s.rpcs[i]? = some .creating then
      some (if ok then s.enterStore i uuid else s.enterRelease i none)
    else none
  | .stopped i =>
    match s.rpcs[i]? with
    | some (.stopping _) => some (s.setRpc i .ended)
    | _ => none
  | .cancel i => s.rpcs[i]?.bind (s.cancelled i)

end AgentService

/-- RPCs switch only at awaits; `uuid` gives the id that each would draw. -/
def agentServiceMachine (uuid : Nat → String) : Machine AgentService AgentServiceAction where
  step s action := s.step uuid action

end Parlando
