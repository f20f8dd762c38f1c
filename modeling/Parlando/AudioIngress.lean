import Parlando.AudioFrame
import Parlando.TranscriptionClock
import Parlando.Concurrency.Machine

namespace Parlando

open Concurrency

/-- A binary message that decodes, with the milliseconds the connection had lasted. -/
structure IngressFrame where
  bytes : List UInt8
  frame : AudioFrame
  wallElapsedMs : Nat

inductive IngressPc where
  | receiving
  /-- The frame has passed the timing check; `is_current` is asked. -/
  | checkCurrent (message : IngressFrame)
  /-- `session_accepts_audio` is asked. -/
  | checkAccepts (message : IngressFrame)
  | relay (message : IngressFrame)
  /-- `session_is_active` is asked. -/
  | checkActive (message : IngressFrame)
  | lockClock (message : IngressFrame)
  | trySend (message : IngressFrame)
  | record (message : IngressFrame)
  | ended

inductive ClockHolder where
  | receiveLoop
  | eventTask
  deriving DecidableEq, Repr

/-- An audio connection: the variables of its receive loop and the clock shared with its event task. -/
structure AudioIngress where
  /-- Milliseconds since `media_started`. -/
  wallElapsedMs : Nat := 0
  firstTimestampMs : Option UInt64 := none
  lastSequence : Option UInt32 := none
  lastTimestampMs : Option UInt64 := none
  pc : IngressPc := .receiving
  transcriptionClock : TranscriptionClock := {}
  clockHolder : Option ClockHolder := none
  /-- The binary messages that have arrived. -/
  received : List (List UInt8) := []
  /-- What has been handed to `relay_partner`. -/
  relayed : List IngressFrame := []
  /-- What the provider's input queue has accepted. -/
  queued : List IngressFrame := []
  /-- What `record` has accepted, and what it has returned an error for. -/
  recorded : List IngressFrame := []
  refused : List IngressFrame := []

inductive IngressAction where
  /-- Time passes. -/
  | elapse (ms : Nat)
  | receive (bytes : List UInt8)
  /-- The loop is told to shut down, or its socket closes. -/
  | close
  | isCurrent (answer : Bool)
  | sessionAcceptsAudio (answer : Bool)
  | relayPartner
  | sessionIsActive (answer : Bool)
  | lockClock
  /-- `try_send`; the queue may be full or closed. -/
  | trySend (accepted : Bool)
  | recordFrame
  /-- The event task takes the lock, maps an utterance and releases it with earlier frames or not. -/
  | lockEvents
  | discardBefore (providerStartMs : Int)
  | unmapped

namespace AudioIngress

def saturating (value : Nat) : Nat := min value 18446744073709551615

def streamOrigin (s : AudioIngress) (frame : AudioFrame) : UInt64 :=
  s.firstTimestampMs.getD frame.timestampMs

/-- The most media time a stream may have delivered after some wall time. -/
def mediaAllowance (wallElapsedMs : Nat) : Nat :=
  saturating (saturating (wallElapsedMs % 18446744073709551616 * 2) + 5000)

def timingValid (s : AudioIngress) (frame : AudioFrame) : Bool :=
  s.lastSequence.all (fun sequence => decide (sequence < frame.sequence)) &&
    s.lastTimestampMs.all (fun timestamp => decide (timestamp ≤ frame.timestampMs)) &&
    decide (frame.timestampMs.toNat - (s.streamOrigin frame).toNat ≤
      mediaAllowance s.wallElapsedMs)

/-- A binary message arrives: it is decoded and its timing is checked. -/
def receive (s : AudioIngress) (bytes : List UInt8) : AudioIngress :=
  let s := { s with received := s.received ++ [bytes] }
  match AudioFrame.decode bytes with
  | .error _ => s
  | .ok frame =>
    let valid := s.timingValid frame
    let s := { s with firstTimestampMs := some (s.streamOrigin frame) }
    if valid then
      { s with
        lastSequence := some frame.sequence
        lastTimestampMs := some frame.timestampMs
        pc := .checkCurrent ⟨bytes, frame, s.wallElapsedMs⟩ }
    else s

/-- The clock of a connection whose input queue has accepted a frame. -/
def recordFrame (s : AudioIngress) (message : IngressFrame) : AudioIngress :=
  let (transcriptionClock, result) := s.transcriptionClock.record message.frame.timestampMs.toNat
  let s := { s with transcriptionClock, clockHolder := none, pc := .receiving }
  match result with
  | .ok () => { s with recorded := s.recorded ++ [message] }
  | .error _ => { s with refused := s.refused ++ [message] }

/-- One step of a connection; a provider transcribes the audio or not. -/
def step (transcribed : Bool) (s : AudioIngress) : IngressAction → Option AudioIngress
  | .elapse ms => some { s with wallElapsedMs := s.wallElapsedMs + ms }
  | .receive bytes => match s.pc with
    | .receiving => some (s.receive bytes)
    | _ => none
  | .close => match s.pc with
    | .receiving => some { s with pc := .ended }
    | _ => none
  | .isCurrent answer => match s.pc with
    | .checkCurrent message => some { s with pc := if answer then .checkAccepts message else .ended }
    | _ => none
  | .sessionAcceptsAudio answer => match s.pc with
    | .checkAccepts message => some { s with pc := if answer then .relay message else .receiving }
    | _ => none
  | .relayPartner => match s.pc with
    | .relay message => some { s with
        relayed := s.relayed ++ [message]
        pc := if transcribed then .checkActive message else .receiving }
    | _ => none
  | .sessionIsActive answer => match s.pc with
    | .checkActive message => some { s with pc := if answer then .lockClock message else .receiving }
    | _ => none
  | .lockClock => match s.pc, s.clockHolder with
    | .lockClock message, none => some { s with
        pc := .trySend message, clockHolder := some .receiveLoop }
    | _, _ => none
  | .trySend accepted => match s.pc with
    | .trySend message => some (
        if accepted then { s with queued := s.queued ++ [message], pc := .record message }
        else { s with pc := .receiving, clockHolder := none })
    | _ => none
  | .recordFrame => match s.pc with
    | .record message => some (s.recordFrame message)
    | _ => none
  | .lockEvents =>
    if s.clockHolder = none then some { s with clockHolder := some .eventTask } else none
  | .discardBefore providerStartMs =>
    if s.clockHolder = some .eventTask then some { s with
      transcriptionClock := s.transcriptionClock.discardBefore providerStartMs, clockHolder := none }
    else none
  | .unmapped =>
    if s.clockHolder = some .eventTask then some { s with clockHolder := none } else none

end AudioIngress

def audioIngressMachine (transcribed : Bool) : Machine AudioIngress IngressAction where
  step := AudioIngress.step transcribed

end Parlando
