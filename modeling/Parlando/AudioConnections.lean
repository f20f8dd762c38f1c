import Parlando.Concurrency.Pool

namespace Parlando

open Concurrency

/-- What the audio loops of one session and role share. -/
structure AudioRole where
  /-- The generation of the role's entry in `audio_connections`. -/
  connection : Option Nat := none
  /-- The generation of the role's peer in the `AudioSessionRegistry`. -/
  peer : Option Nat := none
  /-- Generations are minted with fresh identifiers. -/
  nextGeneration : Nat := 0
  /-- The connections that have been told to shut down. -/
  told : List Nat := []

namespace AudioRole

def registerConnection (role : AudioRole) : AudioRole × Nat :=
  ({ role with
      connection := some role.nextGeneration
      nextGeneration := role.nextGeneration + 1
      told := role.connection.toList ++ role.told }, role.nextGeneration)

/-- Removes a connection only when the finishing socket still owns it. -/
def unregisterConnection (role : AudioRole) (generation : Nat) : AudioRole :=
  if role.connection = some generation then { role with connection := none } else role

/-- `AudioSessionRegistry::connect`: the latest browser connection takes the role's place. -/
def connect (role : AudioRole) : AudioRole × Nat :=
  ({ role with
      peer := some role.nextGeneration
      nextGeneration := role.nextGeneration + 1 }, role.nextGeneration)

/-- `AudioSessionRegistry::disconnect`: only the current generation is removed. -/
def disconnect (role : AudioRole) (generation : Nat) : AudioRole :=
  if role.peer = some generation then { role with peer := none } else role

def isCurrent (role : AudioRole) (generation : Nat) : Bool := role.peer == some generation

end AudioRole

/-- Where an `audio_websocket_loop` stands, with its generations in the two tables. -/
inductive AudioLoop where
  | register
  | connect (connection : Nat)
  | running (connection generation : Nat)
  | disconnect (connection generation : Nat)
  | unregister (connection generation : Nat)
  | returned (connection generation : Nat)
  deriving DecidableEq

/-- What a running loop's `select!` yields. -/
inductive AudioInput where
  /-- A frame, and whether its sequence number and timestamp are acceptable. -/
  | frame (acceptable : Bool)
  | shutdown
  /-- The socket is closed or fails. -/
  | closed

namespace AudioLoop

def step (role : AudioRole) (input : AudioInput) : AudioLoop → Option (AudioRole × AudioLoop)
  | register =>
    let (role, connection) := role.registerConnection
    some (role, connect connection)
  | connect connection =>
    let (role, generation) := role.connect
    some (role, running connection generation)
  | running connection generation =>
    match input with
    -- Only the current generation relays and transcribes the frame; another one ends.
    | .frame acceptable =>
      if acceptable && !role.isCurrent generation then some (role, disconnect connection generation)
      else some (role, running connection generation)
    | .shutdown =>
      if role.told.contains connection then some (role, disconnect connection generation) else none
    | .closed => some (role, disconnect connection generation)
  | disconnect connection generation =>
    some (role.disconnect generation, unregister connection generation)
  | unregister connection generation =>
    some (role.unregisterConnection connection, returned connection generation)
  | returned _ _ => none

/-- The loop is not between two steps of its startup or of its shutdown. -/
def isSettled : AudioLoop → Bool
  | connect _ | unregister _ _ => false
  | _ => true

/-- The loop serves its role: it relays what it receives and its queue is sent what the partner says. -/
def serves (role : AudioRole) : AudioLoop → Bool
  | running _ generation => role.isCurrent generation
  | _ => false

end AudioLoop

def audioProgram : Program AudioRole AudioLoop AudioInput where
  entry _ loop := loop == .register
  step role _ loop input := (loop.step role input).map fun (role, loop) => (role, loop, [])

abbrev audioMachine := audioProgram.machine

end Parlando
