import Parlando.Concurrency.Machine
import Parlando.Data.Map
import Parlando.Data.Text

namespace Parlando

open Concurrency

/-- The character that joins the parts of a window's key. -/
def nul : Char := .ofNat 0

/-- An identifier the server has minted, in which `nul` does not occur. -/
structure MintedId where
  text : String
  plain : nul ∉ text.toList
  deriving DecidableEq

inductive RejectedInput where
  | gameActionRejected
  | chatMessageRejected
  | clientMessageRejected
  deriving DecidableEq, Repr

def RejectedInput.text : RejectedInput → String
  | gameActionRejected => "game_action_rejected"
  | chatMessageRejected => "chat_message_rejected"
  | clientMessageRejected => "client_message_rejected"

/-- What a window counts; the reason code may be any text of the game. -/
structure RejectionKey where
  session : MintedId
  participant : MintedId
  eventType : RejectedInput
  reason : String
  deriving DecidableEq

namespace RejectionKey

def flushPrefix (session participant : MintedId) : String :=
  session.text ++ .singleton nul ++ participant.text ++ .singleton nul

def text (key : RejectionKey) : String :=
  flushPrefix key.session key.participant ++ key.eventType.text ++ .singleton nul ++ key.reason

end RejectionKey

/-- Coalescing state for repeated rejected inputs; times are in seconds. -/
structure RejectionWindow where
  firstSeen : Int
  lastSeen : Int
  lastPersisted : Int
  occurrences : Nat
  /-- The times of the rejections that `occurrences` counts. -/
  counted : List Int

structure RejectionEvent where
  key : RejectionKey
  /-- At most 512 characters; a coalesced event has none. -/
  error : Option String
  /-- The number of bytes of the input and their digest. -/
  submitted : Option (Nat × String)
  firstSeenAt : Int
  lastSeenAt : Int
  occurrences : Nat
  coalesced : Bool
  persistedAt : Int
  counted : List Int

inductive RejectionRecord where
  /-- A call of `persist_rejected_input`. -/
  | rejected (key : RejectionKey) (now : Int)
  | persisted (event : RejectionEvent)
  | flushed (session participant : MintedId)

/-- The rejection windows, and what has happened to them. -/
structure RejectionState where
  now : Int
  windows : Map String RejectionWindow := ∅
  history : List RejectionRecord := []

inductive RejectionAction where
  | reject (key : RejectionKey) (error : String) (rawInput : Option (List UInt8)) (now : Int)
  | flush (session participant : MintedId) (now : Int)
  /-- `cleanup_transient_rooms` has removed these sessions. -/
  | cleanupRooms (removed : List MintedId) (now : Int)
  /-- `cleanup_expired_participants` has removed these participants. -/
  | cleanupParticipants (stale : List MintedId) (now : Int)

def splitNul : List Char → List (List Char)
  | [] => [[]]
  | c :: rest =>
    if c = nul then [] :: splitNul rest
    else match splitNul rest with
      | first :: more => (c :: first) :: more
      | [] => [[c]]

def splitKey (key : String) : Option (RejectedInput × String) :=
  match splitNul key.toList with
  | _room :: _participant :: name :: reason :: _ =>
    match [RejectedInput.gameActionRejected, .chatMessageRejected, .clientMessageRejected].find?
        fun eventType => eventType.text == String.ofList name with
    | some eventType => some (eventType, .ofList reason)
    | none => none
  | _ => none

namespace RejectionState

def persistRejectedInput (sha256 : List UInt8 → String) (s : RejectionState) (key : RejectionKey)
    (error : String) (rawInput : Option (List UInt8)) (now : Int) : RejectionState :=
  let window := (s.windows.lookup key.text).getD {
    firstSeen := now, lastSeen := now, lastPersisted := now - 61, occurrences := 0, counted := [] }
  let window := { window with
    occurrences := window.occurrences + 1
    lastSeen := now
    counted := window.counted ++ [now] }
  let history := s.history ++ [.rejected key now]
  if now - 60 < window.lastPersisted then
    { s with now, windows := s.windows.insert key.text window, history }
  else
    let event := {
      key
      error := some (.ofList (error.toList.take 512))
      submitted := rawInput.map fun bytes => (bytes.length, sha256 bytes)
      firstSeenAt := window.firstSeen
      lastSeenAt := window.lastSeen
      occurrences := window.occurrences
      coalesced := false
      persistedAt := now
      counted := window.counted }
    { s with
      now
      windows := s.windows.insert key.text { window with
        firstSeen := now, lastPersisted := now, occurrences := 0, counted := [] }
      history := history ++ [.persisted event] }

def flushKey (session participant : MintedId) (s : RejectionState) (key : String) :
    RejectionState :=
  match s.windows.lookup key with
  | none => s
  | some window =>
    let s := { s with windows := s.windows.erase key }
    match splitKey key with
    | none => s
    | some (eventType, reason) =>
      if 0 < window.occurrences then
        { s with history := s.history ++ [.persisted {
            key := { session, participant, eventType, reason }
            error := none
            submitted := none
            firstSeenAt := window.firstSeen
            lastSeenAt := window.lastSeen
            occurrences := window.occurrences
            coalesced := true
            persistedAt := s.now
            counted := window.counted }] }
      else s

def flushedKeys (s : RejectionState) (session participant : MintedId) : List String :=
  s.windows.keys.filter fun key => Text.startsWith (RejectionKey.flushPrefix session participant) key

/-- Flushes suppressed rejection counts when the participant's current game transport ends. -/
def flushRejectedInputAggregates (s : RejectionState) (session participant : MintedId)
    (now : Int) : RejectionState :=
  let flushed := (s.flushedKeys session participant).foldl (flushKey session participant)
    { s with now }
  { flushed with history := flushed.history ++ [.flushed session participant] }

def cleanedWithRooms (removed : List MintedId) (key : String) : Bool :=
  removed.any fun session => Text.startsWith (session.text ++ .singleton nul) key

/-- A window goes with a participant whose identifier its key contains. -/
def cleanedWithParticipants (stale : List MintedId) (key : String) : Bool :=
  stale.any fun participant => Text.contains participant.text key

/-- One call; time does not run backwards. -/
def step (sha256 : List UInt8 → String) (s : RejectionState) :
    RejectionAction → Option RejectionState
  | .reject key error rawInput now =>
    if s.now ≤ now then some (s.persistRejectedInput sha256 key error rawInput now) else none
  | .flush session participant now =>
    if s.now ≤ now then some (s.flushRejectedInputAggregates session participant now) else none
  | .cleanupRooms removed now =>
    if s.now ≤ now then some { s with
      now, windows := s.windows.retain fun key => !cleanedWithRooms removed key }
    else none
  | .cleanupParticipants stale now =>
    if s.now ≤ now then some { s with
      now, windows := s.windows.retain fun key => !cleanedWithParticipants stale key }
    else none

end RejectionState

def rejectionMachine (sha256 : List UInt8 → String) : Machine RejectionState RejectionAction where
  step := RejectionState.step sha256

end Parlando
