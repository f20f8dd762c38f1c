import Parlando.Concurrency.Channel
import Parlando.Concurrency.Machine
import Parlando.Store

namespace Parlando

open Concurrency

def maxSessionLogEntryBytes : Nat := 64 * 1024

/-- Maximum UTF-8 bytes accepted from one session during its process lifetime. -/
def maxSessionLogBytes : Nat := 8 * 1024 * 1024

/-- Maximum number of accepted entries waiting for the asynchronous storage worker. -/
def sessionLogQueueCapacity : Nat := 256

inductive SessionLogError where
  | entryTooLarge
  | sessionLimitExceeded
  | queueFull
  | closed
  deriving DecidableEq

/-- Runtime-owned attribution attached to a log entry. -/
inductive SessionLogSource where
  | game
  | agent (participantId : Int) (role : PlayerRole)
  deriving DecidableEq

structure PendingSessionLog where
  source : SessionLogSource
  text : String
  deriving DecidableEq

namespace PendingSessionLog

/-- `text.len()`. -/
def bytes (entry : PendingSessionLog) : Nat := entry.text.utf8ByteSize

/-- The record the writer appends for an entry. -/
def record (entry : PendingSessionLog) : SessionEventRecord :=
  let (actorParticipantId, actorRole, source) := match entry.source with
    | .game => (none, none, "game")
    | .agent participantId role => (some participantId, some role, "agent")
  { eventType := "log"
    actorParticipantId
    actorRole
    payload := .object [("source", .string source), ("text", .string entry.text)]
    gameState := none }

end PendingSessionLog

/--
Shared bounded sink state used by every scoped handle of one live session. In the channel each entry
stands beside the call that sent it, which no step reads.
-/
structure SessionLoggerInner where
  sender : Channel (Nat × PendingSessionLog) := { capacity := sessionLogQueueCapacity }
  acceptedBytes : Nat := 0

inductive LogPc where
  | start
  | reserve
  /-- The two halves of `try_send`: a permit is acquired, then the entry is pushed. -/
  | acquire
  | push
  | refund (error : SessionLogError)
  | returned (result : Except SessionLogError Unit)

/-- A call of `SessionLogger::log` on a handle with this source. -/
structure LogCall where
  entry : PendingSessionLog
  pc : LogPc := .start

namespace LogCall

/-- The next atomic step of a call, which is named by its index. -/
def step (inner : SessionLoggerInner) (index : Nat) (call : LogCall) :
    Option (SessionLoggerInner × LogCall) :=
  let bytes := call.entry.bytes
  match call.pc with
  | .start =>
    if bytes > maxSessionLogEntryBytes then
      some (inner, { call with pc := .returned (.error .entryTooLarge) })
    else some (inner, { call with pc := .reserve })
  | .reserve =>
    -- `checked_add` cannot overflow: neither summand exceeds its limit.
    if inner.acceptedBytes + bytes ≤ maxSessionLogBytes then
      some ({ inner with acceptedBytes := inner.acceptedBytes + bytes },
        { call with pc := .acquire })
    else some (inner, { call with pc := .returned (.error .sessionLimitExceeded) })
  | .acquire =>
    match inner.sender.reserve with
    | .ok sender => some ({ inner with sender }, { call with pc := .push })
    | .error .full => some (inner, { call with pc := .refund .queueFull })
    | .error .closed => some (inner, { call with pc := .refund .closed })
  | .push =>
    some ({ inner with sender := inner.sender.send (index, call.entry) },
      { call with pc := .returned (.ok ()) })
  | .refund error =>
    some ({ inner with acceptedBytes := inner.acceptedBytes - bytes },
      { call with pc := .returned (.error error) })
  | .returned _ => none

def isReturned (call : LogCall) : Bool :=
  match call.pc with
  | .returned _ => true
  | _ => false

/-- `log` has returned `Ok`. -/
def isAccepted (call : LogCall) : Bool :=
  match call.pc with
  | .returned (.ok ()) => true
  | _ => false

end LogCall

inductive LogWriter where
  /-- The `select!` between the shutdown signal and the next entry. -/
  | reading
  /-- `receiver.recv()` while `closing`. -/
  | closing
  | appending (entry : PendingSessionLog) (closing : Bool)
  | ended

inductive LogShutdown where
  | notCalled
  /-- The signal has been sent; the call waits for the task. -/
  | waiting
  | returned (aborted : Bool)
  deriving DecidableEq

inductive LogWriterInput where
  /-- The branch of the `select!` that the shutdown signal takes. -/
  | signal
  | receive
  /-- `append_session_event` returns. -/
  | append (ok : Bool)
  /-- The aborted task is dropped at an await. -/
  | cancel

/-- What lets the waiting `shutdown` call go on. -/
inductive LogShutdownInput where
  | call
  | joined
  | timeout

/-- A live session logger, the calls made on its handles, its writer and the shutdown. -/
structure SessionLog where
  inner : SessionLoggerInner := {}
  calls : List LogCall := []
  writer : LogWriter := .reading
  shutdown : LogShutdown := .notCalled
  /-- The records for which `append_session_event` has succeeded. -/
  appended : List SessionEventRecord := []

inductive SessionLogAction where
  /-- Any thread calls `log` on any handle. -/
  | call (source : SessionLogSource) (text : String)
  | log (index : Nat)
  | write (input : LogWriterInput)
  | shutdown (input : LogShutdownInput)
  /-- The last handle is dropped. -/
  | drop

namespace SessionLog

/-- The entries `log` has accepted, in the order of their acceptance, each with its call. -/
def accepted (s : SessionLog) : List (Nat × PendingSessionLog) := s.inner.sender.sent

/-- The task ends; dropping the receiver closes the channel. -/
def endWriter (s : SessionLog) : SessionLog :=
  { s with writer := .ended, inner := { s.inner with sender := s.inner.sender.close } }

/-- `receiver.recv()` and what the loop does with its result. -/
def receive (s : SessionLog) (closing : Bool) : Option SessionLog :=
  match s.inner.sender.receive with
  | .pending => none
  | .ended => some s.endWriter
  | .message (_, entry) => some { s with
      writer := .appending entry closing
      inner := { s.inner with sender := s.inner.sender.take } }

def writerStep (s : SessionLog) : LogWriter → LogWriterInput → Option SessionLog
  | .reading, .signal =>
    if s.shutdown = .notCalled then none
    else some { s with
      writer := .closing, inner := { s.inner with sender := s.inner.sender.close } }
  | .reading, .receive => s.receive false
  | .closing, .receive => s.receive true
  | .appending entry closing, .append ok => some { s with
      writer := if closing then .closing else .reading
      appended := if ok then s.appended ++ [entry.record] else s.appended }
  | .ended, _ => none
  | _, .cancel => if s.shutdown = .returned true then some s.endWriter else none
  | _, _ => none

def shutdownStep (s : SessionLog) : LogShutdown → LogShutdownInput → Option SessionLog
  | .notCalled, .call => some { s with shutdown := .waiting }
  | .waiting, .joined =>
    match s.writer with
    | .ended => some { s with shutdown := .returned false }
    | _ => none
  | .waiting, .timeout =>
    match s.writer with
    | .ended => none
    | _ => some { s with shutdown := .returned true }
  | _, _ => none

def step (s : SessionLog) : SessionLogAction → Option SessionLog
  | .call source text =>
    if s.inner.sender.dropped then none
    else some { s with calls := s.calls ++ [{ entry := ⟨source, text⟩ }] }
  | .log index =>
    s.calls[index]?.bind fun call => (call.step s.inner index).map fun (inner, call) =>
      { s with inner, calls := s.calls.set index call }
  | .write input => s.writerStep s.writer input
  | .shutdown input => s.shutdownStep s.shutdown input
  -- A call in progress borrows a handle.
  | .drop =>
    if s.calls.all LogCall.isReturned then
      some { s with inner := { s.inner with
        sender := { s.inner.sender with dropped := true } } }
    else none

end SessionLog

/-- Every interleaving of `log` calls with the writer and one shutdown. -/
def sessionLogMachine : Machine SessionLog SessionLogAction where
  step := SessionLog.step

end Parlando
