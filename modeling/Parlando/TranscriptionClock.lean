import Parlando.Conversation

namespace Parlando

def audioFrameDurationMs : Int := 20

/-- Signed 64-bit addition without a check, which wraps around. -/
def wrappingAdd (a b : Int) : Int := (a + b).bmod 18446744073709551616

/-- One canonical frame's position in the supplied audio and relative capture clocks. -/
structure ClockFrame where
  audioStartMs : Int
  captureStartMs : Int
  deriving DecidableEq, Repr

/-- Correspondence between queued provider samples and a connection's capture clock. -/
structure TranscriptionClock where
  frames : List ClockFrame := []
  firstCaptureMs : Option Nat := none
  audioEndMs : Int := 0
  deriving DecidableEq, Repr

namespace TranscriptionClock

/-- Where the next frame starts: jitter is evened out until the capture clock catches up. -/
def captureStart (clock : TranscriptionClock) (captureStartMs : Int) : Int :=
  match clock.frames.getLast? with
  | none => captureStartMs
  | some previous => max captureStartMs (wrappingAdd previous.captureStartMs audioFrameDurationMs)

/-- Records a frame after its provider input queue accepted it. -/
def record (clock : TranscriptionClock) (timestampMs : Nat) :
    TranscriptionClock × Except String Unit :=
  let origin := clock.firstCaptureMs.getD timestampMs
  let clock := { clock with firstCaptureMs := some origin }
  if timestampMs < origin then (clock, .error "capture clock moved backwards")
  else if 9223372036854775808 ≤ timestampMs - origin then
    (clock, .error "out of range integral type conversion attempted")
  else
    let captureStartMs := clock.captureStart (timestampMs - origin : Nat)
    let clock := { clock with frames := clock.frames ++ [⟨clock.audioEndMs, captureStartMs⟩] }
    match checkedAdd clock.audioEndMs audioFrameDurationMs with
    | none => (clock, .error "audio clock overflow")
    | some audioEndMs => ({ clock with audioEndMs }, .ok ())

/-- Records frames one after the other, as long as no one is refused. -/
def recordAll (clock : TranscriptionClock) : List Nat → Except String TranscriptionClock
  | [] => .ok clock
  | timestampMs :: rest =>
    match clock.record timestampMs with
    | (_, .error error) => .error error
    | (clock, .ok ()) => clock.recordAll rest

/-- Maps a provider boundary, choosing the appropriate side of a sample-free gap. -/
def boundary (clock : TranscriptionClock) (timeMs : Int) (isEnd : Bool) : Except String Int :=
  if timeMs < 0 ∨ clock.audioEndMs < timeMs then
    .error "transcript boundary lies outside supplied audio"
  else
    match clock.frames.reverse.find? fun frame => frame.audioStartMs < timeMs ||
        (!isEnd && frame.audioStartMs == timeMs) || (timeMs == 0 && frame.audioStartMs == 0) with
    | none => .error "transcript boundary precedes retained audio"
    | some frame =>
      match checkedAdd frame.captureStartMs (timeMs - frame.audioStartMs) with
      | none => .error "capture boundary overflow"
      | some boundary => .ok boundary

/-- A token in capture time; a point's only boundary is taken as an end. -/
def mapToken (clock : TranscriptionClock) (token : TranscriptToken) :
    Except String TranscriptToken := do
  let point := token.startTimeMs == token.endTimeMs
  let startTimeMs ← clock.boundary token.startTimeMs point
  let endTimeMs ← bif point then .ok startTimeMs else clock.boundary token.endTimeMs true
  return { token with startTimeMs, endTimeMs }

/-- Converts utterance and token intervals into capture time relative to frame one. -/
def map (clock : TranscriptionClock) (utterance : FinalTranscriptUtterance) :
    Except String FinalTranscriptUtterance := do
  let startTimeMs ← clock.boundary utterance.startTimeMs false
  let endTimeMs ← clock.boundary utterance.endTimeMs true
  let tokens ← utterance.tokens.mapM clock.mapToken
  if endTimeMs < startTimeMs then .error "reversed mapped utterance interval"
  else return { utterance with startTimeMs, endTimeMs, tokens }

/-- Releases the frames before the last one that starts before a time; one always stays. -/
def discardFrames (providerStartMs : Int) : List ClockFrame → List ClockFrame
  | first :: next :: rest =>
    if next.audioStartMs < providerStartMs then discardFrames providerStartMs (next :: rest)
    else first :: next :: rest
  | frames => frames

/-- Releases frames before the latest utterance, retaining that utterance for retries. -/
def discardBefore (clock : TranscriptionClock) (providerStartMs : Int) : TranscriptionClock :=
  { clock with frames := discardFrames providerStartMs clock.frames }

end TranscriptionClock

inductive ClockCall where
  | record (timestampMs : Nat)
  | discardBefore (providerStartMs : Int)
  deriving DecidableEq, Repr

namespace ClockCall

/-- The clock after one call; a refused frame leaves what `record` has changed by then. -/
def apply (clock : TranscriptionClock) : ClockCall → TranscriptionClock
  | record timestampMs => (clock.record timestampMs).1
  | discardBefore providerStartMs => clock.discardBefore providerStartMs

def isRecord : ClockCall → Bool
  | record _ => true
  | discardBefore _ => false

end ClockCall

namespace TranscriptionClock

/-- The clock after a sequence of calls. -/
def after (clock : TranscriptionClock) (calls : List ClockCall) : TranscriptionClock :=
  calls.foldl ClockCall.apply clock

end TranscriptionClock

end Parlando
