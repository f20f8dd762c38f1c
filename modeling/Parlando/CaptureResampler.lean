import Mathlib.Algebra.Order.Floor.Semiring
import Mathlib.Algebra.Order.Round
import Mathlib.Data.Rat.Floor
import Mathlib.Tactic.Linarith
import Mathlib.Tactic.Positivity

namespace Parlando

/-- Stateful browser-rate to 24 kHz PCM16 frame converter, over exact samples. -/
structure PcmCaptureResampler where
  samples : List Rat := []
  cursor : Rat := 0
  output : List Rat := []

def captureFrameSamples : Nat := 480

def clampSample (sample : Rat) : Rat := max (-1) (min 1 sample)

def mathRound (value : Rat) : Int := ⌊value + 1 / 2⌋

def quantize (value : Rat) : Int :=
  if value < 0 then mathRound (value * 32768) else mathRound (value * 32767)

namespace PcmCaptureResampler

variable (r : PcmCaptureResampler)

/-- One turn of the loop: the value at the cursor, and a frame where it completes one. -/
def produce (ratio : Rat) : Option (List (List Int) × PcmCaptureResampler) :=
  if r.cursor < r.samples.length then
    let left := ⌊r.cursor⌋₊
    let fraction := r.cursor - left
    if fraction > 0 ∧ left + 1 ≥ r.samples.length then none
    else
      let right := min (left + 1) (r.samples.length - 1)
      let value := r.samples.getD left 0 * (1 - fraction) + r.samples.getD right 0 * fraction
      let output := r.output ++ [clampSample value]
      let r := { r with cursor := r.cursor + ratio }
      if output.length = captureFrameSamples then
        some ([output.map quantize], { r with output := [] })
      else some ([], { r with output })
  else none

theorem produce_cases {ratio : Rat} {frames : List (List Int)} {r' : PcmCaptureResampler}
    (h : r.produce ratio = some (frames, r')) :
    r.cursor < r.samples.length ∧ r'.samples = r.samples ∧ r'.cursor = r.cursor + ratio := by
  unfold produce at h
  split at h
  · rename_i inside
    dsimp only at h
    split at h
    · cases h
    · split at h <;> cases h <;> exact ⟨inside, rfl, rfl⟩
  · cases h

/-- The loop of `append`; a positive ratio brings the cursor to the end. -/
def produceAll (ratio : Rat) (positive : 0 < ratio) (r : PcmCaptureResampler) :
    List (List Int) × PcmCaptureResampler :=
  match _h : r.produce ratio with
  | none => ([], r)
  | some (frames, r') =>
    let (more, r'') := produceAll ratio positive r'
    (frames ++ more, r'')
termination_by ⌈(r.samples.length - r.cursor) / ratio⌉₊
decreasing_by
  obtain ⟨inside, same, moved⟩ := r.produce_cases ‹_›
  have room : 0 < (r.samples.length - r.cursor) / ratio :=
    div_pos (sub_pos.mpr inside) positive
  have less : ((r'.samples.length : Rat) - r'.cursor) / ratio =
      (r.samples.length - r.cursor) / ratio - 1 := by
    rw [same, moved, ← sub_sub, sub_div, div_self positive.ne']
  rw [less, Nat.ceil_sub_one]
  exact Nat.sub_lt (Nat.ceil_pos.mpr room) Nat.one_pos

/-- Appends one browser render quantum and returns every completed 20 ms frame. -/
def append (input : List Rat) (inputSampleRate : Rat) :
    Except String (List (List Int) × PcmCaptureResampler) :=
  if positive : 0 < inputSampleRate then
    let r := { r with samples := r.samples ++ input.map clampSample }
    let (frames, r) := r.produceAll (inputSampleRate / 24000) (by positivity)
    let consumed := min ⌊r.cursor⌋₊ r.samples.length
    .ok (frames, { r with samples := r.samples.drop consumed, cursor := r.cursor - consumed })
  else .error "inputSampleRate must be finite and positive."

/-- A sequence of calls at one rate, with all frames they return. -/
def appendAll (inputSampleRate : Rat) : PcmCaptureResampler → List (List Rat) →
    Except String (List (List Int) × PcmCaptureResampler)
  | r, [] => .ok ([], r)
  | r, input :: inputs => do
    let (frames, r) ← r.append input inputSampleRate
    let (more, r) ← r.appendAll inputSampleRate inputs
    return (frames ++ more, r)

end PcmCaptureResampler

end Parlando
