import Mathlib.Data.Rat.Floor
import Parlando.Concurrency.Machine

namespace Parlando

open Concurrency

/-- Mutable 24 kHz PCM queue with linear interpolation for device-rate playback, over exact samples. -/
structure PcmPlaybackBuffer where
  samples : List Rat := []
  cursor : Rat := 0

structure PcmRenderResult where
  underrun : Bool
  renderedSamples : Nat

namespace PcmPlaybackBuffer

variable (buffer : PcmPlaybackBuffer)

/-- Normalizes signed 16-bit PCM samples to the Web Audio range. -/
def normalize (pcm : List Int) : List Rat := pcm.map fun sample => sample / 32768

def append (pcm : List Int) : PcmPlaybackBuffer :=
  { buffer with samples := buffer.samples ++ normalize pcm }

/-- Returns the number of source-rate samples that remain available for playback. -/
def availableSamples : Nat := buffer.samples.length - ⌊buffer.cursor⌋₊

/-- The loop of `render`: the samples rendered, and the cursor after them. -/
def renderLoop (sourceSamplesPerOutput : Rat) : Nat → Rat → List Rat × Rat
  | 0, cursor => ([], cursor)
  | remaining + 1, cursor =>
    let leftIndex := ⌊cursor⌋₊
    if leftIndex ≥ buffer.samples.length then ([], cursor)
    else
      let rightIndex := min (leftIndex + 1) (buffer.samples.length - 1)
      let fraction := cursor - leftIndex
      let value := buffer.samples.getD leftIndex 0 * (1 - fraction) +
        buffer.samples.getD rightIndex 0 * fraction
      let (values, cursor) :=
        renderLoop sourceSamplesPerOutput remaining (cursor + sourceSamplesPerOutput)
      (value :: values, cursor)

/-- Removes samples strictly before the current fractional interpolation cursor. -/
def discardConsumed : PcmPlaybackBuffer :=
  let consumed := ⌊buffer.cursor⌋₊
  if consumed = 0 then buffer
  else { samples := buffer.samples.drop consumed, cursor := buffer.cursor - consumed }

/-- Renders an output of this length; what is not rendered is silent. -/
def render (length : Nat) (sourceSamplesPerOutput : Rat) :
    Except String (List Rat × PcmRenderResult × PcmPlaybackBuffer) :=
  if sourceSamplesPerOutput ≤ 0 then
    .error "sourceSamplesPerOutput must be finite and positive."
  else
    let (values, cursor) := buffer.renderLoop sourceSamplesPerOutput length buffer.cursor
    .ok (values ++ List.replicate (length - values.length) 0,
      ⟨values.length < length, values.length⟩, { buffer with cursor }.discardConsumed)

/-- Drops oldest unplayed samples until no more than the requested amount remains. -/
def trimTo (maxSamples : Rat) : PcmPlaybackBuffer :=
  let excess := buffer.availableSamples - ⌊maxSamples⌋₊
  if excess = 0 then buffer
  else
    { samples := buffer.samples.drop excess, cursor := max 0 (buffer.cursor - excess) }

end PcmPlaybackBuffer

structure RenderedSample where
  value : Rat
  step : Rat
  arrived : Nat

/-- A queue with all samples ever appended and all ever rendered. -/
structure Playback where
  buffer : PcmPlaybackBuffer := {}
  appended : List Rat := []
  rendered : List RenderedSample := []

inductive PlaybackCall where
  | append (pcm : List Int)
  | render (length : Nat) (sourceSamplesPerOutput : Rat)
  | trimTo (maxSamples : Rat)

namespace Playback

variable (s : Playback)

/-- A call of one of the queue's methods; one that throws changes nothing. -/
def call : PlaybackCall → Playback
  | .append pcm => { s with
      buffer := s.buffer.append pcm
      appended := s.appended ++ PcmPlaybackBuffer.normalize pcm }
  | .render length step =>
    match s.buffer.render length step with
    | .error _ => s
    | .ok (output, result, buffer) => { s with
        buffer
        rendered := s.rendered ++ (output.take result.renderedSamples).map fun value =>
          ⟨value, step, s.appended.length⟩ }
  | .trimTo maxSamples => { s with buffer := s.buffer.trimTo maxSamples }

end Playback

def playbackMachine : Machine Playback PlaybackCall where
  step s call := some (s.call call)

end Parlando
