import Parlando.Data.Text
import Parlando.Procedures.Cleanup

namespace Parlando

variable {G : Game}

structure SessionTables where
  sessionBuses : List String := []
  sessionTransitionLocks : List String := []
  committedTranscripts : List String := []
  agentInboxes : List String := []
  gameConnections : List String := []
  audioConnections : List String := []
  rejectionWindows : List String := []
  deriving DecidableEq, Repr

namespace SessionTables

def withoutIds (removed keys : List String) : List String :=
  keys.filter fun key => !removed.contains key

/-- Drops the keys that begin with the id of a removed session and a separator. -/
def withoutStarting (separator : String) (removed keys : List String) : List String :=
  keys.filter fun key => !removed.any fun id => Text.startsWith (id ++ separator) key

def forget (tables : SessionTables) (removed : List String) : SessionTables where
  sessionBuses := withoutIds removed tables.sessionBuses
  sessionTransitionLocks := withoutIds removed tables.sessionTransitionLocks
  committedTranscripts := withoutStarting ":" removed tables.committedTranscripts
  agentInboxes := withoutStarting ":" removed tables.agentInboxes
  gameConnections := withoutStarting ":" removed tables.gameConnections
  audioConnections := withoutStarting ":" removed tables.audioConnections
  rejectionWindows := withoutStarting "\x00" removed tables.rejectionWindows

end SessionTables

/-- What a runtime holds in memory for its sessions. -/
structure MemoryState (G : Game) where
  sessions : Map String (LiveSession G)
  tables : SessionTables := {}

/--
One call of the cleaner, which nothing interrupts, removes the session; `expired` says whether an
expiry of the session for a reason succeeds.
-/
def LiveSession.isReclaimed (session : LiveSession G) (now : Timestamp)
    (expired : EndReason → Bool) : Bool :=
  (cleanupReason session now).any fun reason =>
    roomIsCurrent session session.updatedAt reason now &&
      (reason == .terminalCleanup || decide (session.sessionId ≤ 0) || expired reason)

namespace MemoryState

/-- Removes or expires transient sessions; each is handled on its own. -/
def cleanupTransientRooms (memory : MemoryState G) (now : Timestamp)
    (expired : String → EndReason → Bool) : MemoryState G :=
  let removed := memory.sessions.keys.filter fun id =>
    (memory.sessions.lookup id).any fun session => session.isReclaimed now (expired id)
  if removed.isEmpty then memory
  else {
    sessions := memory.sessions.retain fun id => !removed.contains id
    tables := memory.tables.forget removed }

end MemoryState

end Parlando
