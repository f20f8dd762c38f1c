import Parlando.Ending

namespace Parlando

variable {G : Game}

/--
One live session with everything its tasks share: the entry of `memory.sessions`, the rows of the
database, the transition locks handed out for it and the game connection of each role.
-/
structure Cell (G : Game) where
  clock : Timestamp
  session : Option (LiveSession G)
  store : SessionStore
  /-- The entry of `session_transition_locks`, an index into `locks`. -/
  lockEntry : Option Nat := none
  /-- The owner of every transition lock ever created for the session. -/
  locks : List (Option Nat) := []
  /-- The generation that owns each role's connection. -/
  connections : RoleMap Nat := {}
  nextGeneration : Nat := 0

/-- One section under the write lock of `memory`, on the session's own entry. -/
inductive MemorySection (G : Game) where
  | connect (id : ParticipantSessionId) (now : Timestamp)
  | disconnect (id : ParticipantSessionId) (disconnectedAt deadline : Timestamp)
  | pause (deadline : Timestamp)
  | start (startedAt idleDeadlineAt : Timestamp)
  | transition (after : G.State) (sessionEnd : Option SessionEnd) (completedAt : Timestamp)
      (voiceEndsAt : Option Timestamp)
  | terminate (sessionEnd : SessionEnd) (now : Timestamp)
  | touch (activityAt idleDeadlineAt : Timestamp)
  | addHuman (participant : ParticipantSession) (now : Timestamp)
  | attachAgent (agent : ParticipantSession) (now : Timestamp)
  | detachAgent (id : ParticipantSessionId)
  | agentReady (id : ParticipantSessionId) (now : Timestamp)
  | audioReady (id : ParticipantSessionId) (now : Timestamp)
  | remove

inductive Transaction where
  | append (record : SessionEventRecord) (now : Timestamp)
  | commit (records : List SessionEventRecord) (sessionEnd : Option SessionEnd) (now : Timestamp)
  | endSession (record : SessionEventRecord) (sessionEnd : SessionEnd) (now : Timestamp)
  | start (startedAt idleDeadlineAt : Timestamp)
  | touch (activityAt idleDeadlineAt : Timestamp)
  | connection (id : ParticipantSessionId) (status : String)
      (leftAt reconnectDeadlineAt : Option Timestamp)
  | addMember (member : SessionParticipantRow)

inductive Section (G : Game) where
  /-- A read, a failed transaction or a local computation. -/
  | skip
  | memory (update : MemorySection G)
  | transaction (update : Transaction)
  /-- `session_transition_lock`: the entry's lock, created where there is none. -/
  | fetchLock
  | acquire (lock pid : Nat)
  | release (lock : Nat)
  /-- The cleaner forgets the lock of a removed session. -/
  | dropLock
  /-- The cleaner forgets the connections of a removed session. -/
  | dropConnections
  | register (role : PlayerRole)
  | unregister (role : PlayerRole) (generation : Nat)

def MemorySection.apply (config : ExperimentConfig) (session : LiveSession G) :
    MemorySection G → Option (LiveSession G)
  | connect id now => some (session.connectParticipant id now)
  | disconnect id disconnectedAt deadline =>
    some (session.disconnectParticipant id disconnectedAt deadline)
  | pause deadline => some (session.pauseForReconnect deadline)
  | start startedAt idleDeadlineAt => some (session.start startedAt idleDeadlineAt)
  | transition after sessionEnd completedAt voiceEndsAt =>
    some (session.applyTransition after sessionEnd completedAt voiceEndsAt)
  | terminate sessionEnd now => some (session.terminate sessionEnd now)
  | touch activityAt idleDeadlineAt => some (session.touch activityAt idleDeadlineAt)
  | addHuman participant now =>
    match session.addHumanParticipant config participant now with
    | .ok (_, session) => some session
    | .error _ => some session
  | attachAgent agent now =>
    match session.attachAgent agent now with
    | .ok session => some session
    | .error _ => some session
  | detachAgent id => some (session.detachAgent id)
  | agentReady id now => some (session.markAgentReady id now)
  | audioReady id now => some (session.markAudioReady id now)
  | remove => none

def Transaction.apply (store : SessionStore) : Transaction → SessionStore
  | append record now => store.appendSessionEvent record now
  | commit records sessionEnd now => (store.commitSessionTransition records sessionEnd now).1
  | endSession record sessionEnd now => (store.endSession record sessionEnd now).1
  | start startedAt idleDeadlineAt => (store.startSession startedAt idleDeadlineAt).1
  | touch activityAt idleDeadlineAt => store.touchSessionActivity activityAt idleDeadlineAt
  | connection id status leftAt reconnectDeadlineAt =>
    store.updateSessionParticipantConnection id status leftAt reconnectDeadlineAt
  | addMember member => store.addSessionParticipant member

namespace Cell

/-- The lock `session_transition_lock` hands out next. -/
def transitionLock (cell : Cell G) : Nat := cell.lockEntry.getD cell.locks.length

def lockFree (cell : Cell G) (lock : Nat) : Bool := (cell.locks[lock]?).join.isNone

/-- Whether the connection of a role still belongs to a generation. -/
def ownsConnection (cell : Cell G) (role : PlayerRole) (generation : Nat) : Bool :=
  cell.connections.get role == some generation

def apply (config : ExperimentConfig) (cell : Cell G) : Section G → Cell G
  | .skip => cell
  | .memory update =>
    { cell with session := cell.session.bind fun session => update.apply config session }
  | .transaction update => { cell with store := update.apply cell.store }
  | .fetchLock => { cell with
      lockEntry := some cell.transitionLock
      locks := if cell.lockEntry.isNone then cell.locks ++ [none] else cell.locks }
  | .acquire lock pid => { cell with locks := cell.locks.set lock (some pid) }
  | .release lock => { cell with locks := cell.locks.set lock none }
  | .dropLock => { cell with lockEntry := none }
  | .dropConnections => { cell with connections := {} }
  | .register role => { cell with
      connections := cell.connections.insert role cell.nextGeneration
      nextGeneration := cell.nextGeneration + 1 }
  | .unregister role generation => { cell with
      connections :=
        if cell.ownsConnection role generation then cell.connections.erase role
        else cell.connections }

def memoryEnded (cell : Cell G) : Bool :=
  cell.session.any fun session => session.lifecycle.isEnded

end Cell

/-- What the environment decides about one step: the time, and whether outside calls succeed. -/
structure Input where
  now : Timestamp
  /-- The database transaction of the step succeeds. -/
  storeOk : Bool := true
  /-- The agent's code answers in time and without an error. -/
  agentOk : Bool := true
  /-- The error of the agent's code where it fails. -/
  agentError : String := ""
  /-- The error of admission where it finds no capacity left. -/
  capacityError : Option AppError := none
  /-- Both humans of the session are connected to its audio. -/
  humanPair : Bool := false
  /-- The place in a hash map's iteration order that a search stops at. -/
  pick : Nat := 0

end Parlando
