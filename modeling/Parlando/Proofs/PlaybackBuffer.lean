import Parlando.Data.Interpolation
import Parlando.PlaybackBuffer

namespace Parlando

open Concurrency

namespace PcmPlaybackBuffer

variable {buffer : PcmPlaybackBuffer} {step cursor : Rat} {length : Nat}

/-- The samples that the loop renders, and where it leaves the cursor. -/
theorem renderLoop_spec (buffer : PcmPlaybackBuffer) (step : Rat) (length : Nat) (cursor : Rat) :
    (buffer.renderLoop step length cursor).1.length ≤ length ∧
      (buffer.renderLoop step length cursor).2 =
        cursor + (buffer.renderLoop step length cursor).1.length * step ∧
      ∀ (i : Nat) value, (buffer.renderLoop step length cursor).1[i]? = some value →
        ⌊cursor + i * step⌋₊ < buffer.samples.length ∧
          value = interpolate buffer.samples (cursor + i * step) := by
  induction length generalizing cursor with
  | zero => exact ⟨Nat.le_refl _, by simp [renderLoop], nofun⟩
  | succ length ih =>
    unfold renderLoop
    dsimp only
    split
    · exact ⟨Nat.zero_le _, by simp, nofun⟩
    · rename_i inside
      obtain ⟨few, ends, values⟩ := ih (cursor + step)
      refine ⟨Nat.succ_le_succ few, ?_, ?_⟩
      · rw [ends, List.length_cons]
        push_cast
        ring
      · intro i value here
        cases i with
        | zero =>
          cases here
          rw [Nat.cast_zero, zero_mul, add_zero]
          exact ⟨Nat.lt_of_not_le inside, rfl⟩
        | succ i =>
          have later := values i value here
          have place : cursor + step + i * step = cursor + (i + 1 : Nat) * step := by
            push_cast
            ring
          rwa [place] at later

/-- The cursor lies on the first sample, or between it and the next. -/
def Settled (buffer : PcmPlaybackBuffer) : Prop := 0 ≤ buffer.cursor ∧ buffer.cursor < 1

theorem Settled.floor (settled : buffer.Settled) : ⌊buffer.cursor⌋₊ = 0 :=
  Nat.floor_eq_zero.mpr settled.2

theorem Settled.available (settled : buffer.Settled) :
    buffer.availableSamples = buffer.samples.length := by
  rw [availableSamples, settled.floor, Nat.sub_zero]

/-- What is dropped before the cursor. -/
theorem discardConsumed_eq (buffer : PcmPlaybackBuffer) : buffer.discardConsumed =
    ⟨buffer.samples.drop ⌊buffer.cursor⌋₊, buffer.cursor - (⌊buffer.cursor⌋₊ : Nat)⟩ := by
  unfold discardConsumed
  dsimp only
  split
  · rename_i none_
    rw [none_, List.drop_zero, Nat.cast_zero, sub_zero]
  · rfl

theorem discardConsumed_settled (positive : 0 ≤ buffer.cursor) :
    buffer.discardConsumed.Settled := by
  rw [discardConsumed_eq]
  refine ⟨sub_nonneg.mpr (Nat.floor_le positive), ?_⟩
  have := Nat.lt_floor_add_one buffer.cursor
  change buffer.cursor - _ < 1
  linarith

/-- A call of `render` with a positive step, in terms of its loop. -/
theorem render_eq (positive : 0 < step) : buffer.render length step =
    let rendered := buffer.renderLoop step length buffer.cursor
    .ok (rendered.1 ++ List.replicate (length - rendered.1.length) 0,
      ⟨rendered.1.length < length, rendered.1.length⟩,
      { buffer with cursor := rendered.2 }.discardConsumed) := by
  unfold render
  rw [if_neg (not_le.mpr positive)]

theorem render_error (bad : step ≤ 0) : buffer.render length step =
    .error "sourceSamplesPerOutput must be finite and positive." := by
  unfold render
  rw [if_pos bad]

/-- What trimming leaves of a queue. -/
theorem trimTo_spec (settled : buffer.Settled) (maxSamples : Rat) :
    (buffer.trimTo maxSamples).Settled ∧
      (buffer.trimTo maxSamples).samples =
        buffer.samples.drop (buffer.samples.length - ⌊maxSamples⌋₊) ∧
      (buffer.samples.length ≤ ⌊maxSamples⌋₊ → buffer.trimTo maxSamples = buffer) := by
  unfold trimTo
  rw [settled.available]
  dsimp only
  split
  · rename_i none_
    exact ⟨settled, by rw [none_, List.drop_zero], fun _ => rfl⟩
  · rename_i some_
    refine ⟨⟨le_max_left .., max_lt one_pos ?_⟩, rfl, fun few => absurd (by omega) some_⟩
    exact (sub_le_self _ (Nat.cast_nonneg _)).trans_lt settled.2

end PcmPlaybackBuffer

namespace Playback

open PcmPlaybackBuffer

variable {s : Playback}

structure Queued (s : Playback) : Prop where
  settled : s.buffer.Settled
  newest : s.buffer.samples <:+ s.appended

theorem Queued.call (queued : Queued s) (call : PlaybackCall) : Queued (s.call call) := by
  cases call with
  | append pcm =>
    obtain ⟨earlier, same⟩ := queued.newest
    refine ⟨queued.settled, earlier, ?_⟩
    change earlier ++ (s.buffer.samples ++ normalize pcm) = s.appended ++ normalize pcm
    rw [← List.append_assoc, same]
  | render length step =>
    obtain bad | positive := le_or_gt step 0
    · rw [Playback.call, render_error bad]
      exact queued
    · rw [Playback.call, render_eq positive]
      obtain ⟨-, ends, -⟩ := renderLoop_spec s.buffer step length s.buffer.cursor
      have forward : 0 ≤ (s.buffer.renderLoop step length s.buffer.cursor).2 := by
        rw [ends]
        exact add_nonneg queued.settled.1 (mul_nonneg (Nat.cast_nonneg _) positive.le)
      refine ⟨discardConsumed_settled forward, ?_⟩
      change (discardConsumed _).samples <:+ s.appended
      rw [discardConsumed_eq]
      exact (List.drop_suffix _ _).trans queued.newest
  | trimTo maxSamples =>
    obtain ⟨settled, dropped, -⟩ := trimTo_spec queued.settled maxSamples
    refine ⟨settled, ?_⟩
    change (s.buffer.trimTo maxSamples).samples <:+ s.appended
    rw [dropped]
    exact (List.drop_suffix _ _).trans queued.newest

theorem Queued.of_run {guard : Playback → PlaybackCall → Prop}
    (run : playbackMachine.Run guard {} s) : Queued s := by
  refine run.invariant ⟨⟨le_refl _, one_pos⟩, List.nil_suffix⟩ ?_
  intro t u call queued _ step
  cases Option.some.inj step
  exact queued.call call

/-- Where the i-th rendered sample lies: the steps of all samples before it. -/
def position (rendered : List RenderedSample) (i : Nat) : Rat :=
  ((rendered.take i).map RenderedSample.step).sum

/-- Every sample rendered is the interpolation at its position of what had arrived by then. -/
def Faithful (s : Playback) : Prop :=
  ∀ (i : Nat) entry, s.rendered[i]? = some entry → entry.arrived ≤ s.appended.length ∧
    ⌊position s.rendered i⌋₊ < entry.arrived ∧
    entry.value = interpolate (s.appended.take entry.arrived) (position s.rendered i)

/-- The call does not trim; no step goes further than to the sample that is appended next. -/
def Steady (s : Playback) : PlaybackCall → Prop
  | .append _ => True
  | .render length step => ∀ i < length, ⌊s.buffer.cursor + i * step⌋₊ < s.buffer.samples.length →
    ⌊s.buffer.cursor + (i + 1) * step⌋₊ ≤ s.buffer.samples.length
  | .trimTo _ => False

/-- The position of the next sample to be rendered. -/
def next (s : Playback) : Rat := position s.rendered s.rendered.length

structure Aligned (s : Playback) : Prop where
  forward : 0 ≤ s.next
  source : ∃ start ≤ s.appended.length, s.buffer.samples = s.appended.drop start ∧
    start ≤ ⌊s.next⌋₊ ∧ s.buffer.cursor = s.next - start
  faithful : s.Faithful

section Positions

variable {rendered more : List RenderedSample} {values : List Rat} {step : Rat} {i arrived : Nat}

theorem position_append (early : i ≤ rendered.length) :
    position (rendered ++ more) i = position rendered i := by
  rw [position, List.take_append_of_le_length early, position]

/-- Samples rendered with one step follow each other at its distance. -/
theorem position_append_map (early : i ≤ values.length) :
    position (rendered ++ values.map fun value => ⟨value, step, arrived⟩) (rendered.length + i) =
      position rendered rendered.length + i * step := by
  rw [position, List.take_length_add_append, List.map_append, List.sum_append, position,
    List.take_length, ← List.map_take, List.map_map]
  congr 1
  have steps : (RenderedSample.step ∘ fun value => (⟨value, step, arrived⟩ : RenderedSample)) =
      fun _ => step := rfl
  rw [steps, List.map_const', List.sum_replicate, List.length_take, min_eq_left early,
    nsmul_eq_mul]

end Positions

theorem Aligned.append (aligned : Aligned s) (pcm : List Int) :
    Aligned (s.call (.append pcm)) where
  forward := aligned.forward
  source := by
    obtain ⟨start, within, samples, before, cursor⟩ := aligned.source
    refine ⟨start, ?_, ?_, before, cursor⟩
    · change start ≤ (s.appended ++ normalize pcm).length
      rw [List.length_append]
      omega
    · change s.buffer.samples ++ normalize pcm = (s.appended ++ normalize pcm).drop start
      rw [List.drop_append_of_le_length within, samples]
  faithful i entry here := by
    obtain ⟨arrived, inside, value⟩ := aligned.faithful i entry here
    refine ⟨?_, inside, ?_⟩
    · change entry.arrived ≤ (s.appended ++ normalize pcm).length
      rw [List.length_append]
      omega
    · change entry.value = interpolate ((s.appended ++ normalize pcm).take entry.arrived) _
      rw [List.take_append_of_le_length arrived]
      exact value

/-- A step count that stays inside the queue leaves the next position within reach. -/
theorem Steady.stays {length : Nat} {step : Rat} {rendered : List Rat} (queued : Queued s)
    (steady : Steady s (.render length step)) (few : rendered.length ≤ length)
    (values : ∀ (i : Nat) value, rendered[i]? = some value →
      ⌊s.buffer.cursor + i * step⌋₊ < s.buffer.samples.length) :
    ⌊s.buffer.cursor + rendered.length * step⌋₊ ≤ s.buffer.samples.length := by
  cases count : rendered.length with
  | zero =>
    rw [Nat.cast_zero, zero_mul, add_zero, queued.settled.floor]
    exact Nat.zero_le _
  | succ last =>
    have inside := values last _ (List.getElem?_eq_getElem (count ▸ Nat.lt_succ_self last))
    have stays := steady last (by omega) inside
    push_cast
    exact stays

/-- A call of `render` that steps over no sample. -/
theorem Aligned.render {length : Nat} {step : Rat} (aligned : Aligned s) (queued : Queued s)
    (steady : Steady s (.render length step)) : Aligned (s.call (.render length step)) := by
  obtain bad | positive := le_or_gt step 0
  · rw [Playback.call, render_error bad]
    exact aligned
  rw [Playback.call, render_eq positive]
  obtain ⟨few, ends, values⟩ := renderLoop_spec s.buffer step length s.buffer.cursor
  obtain ⟨start, within, samples, before, cursor⟩ := aligned.source
  generalize s.buffer.renderLoop step length s.buffer.cursor = rendered at few ends values ⊢
  obtain ⟨rendered, after⟩ := rendered
  dsimp only at few ends values ⊢
  subst ends
  rw [List.take_left, discardConsumed_eq]
  have stays := steady.stays queued few fun i value here => (values i value here).1
  have count : s.buffer.samples.length = s.appended.length - start := by
    rw [samples, List.length_drop]
  have place (i : Nat) (early : i ≤ rendered.length) :
      position (s.rendered ++ rendered.map fun value => ⟨value, step, s.appended.length⟩)
        (s.rendered.length + i) = s.buffer.cursor + i * step + start := by
    rw [position_append_map early, cursor]
    unfold next
    ring
  have floor (i : Nat) : ⌊s.buffer.cursor + i * step + start⌋₊ =
      ⌊s.buffer.cursor + i * step⌋₊ + start :=
    Nat.floor_add_natCast (add_nonneg queued.settled.1
      (mul_nonneg (Nat.cast_nonneg _) positive.le)) start
  have ends : (s.rendered ++ rendered.map fun value =>
      (⟨value, step, s.appended.length⟩ : RenderedSample)).length =
        s.rendered.length + rendered.length := by simp
  refine ⟨?_, ⟨⌊s.buffer.cursor + rendered.length * step⌋₊ + start, ?_, ?_, ?_, ?_⟩, ?_⟩
  · rw [next, ends, place _ le_rfl]
    have := queued.settled.1
    positivity
  · change _ ≤ s.appended.length
    omega
  · change s.buffer.samples.drop _ = s.appended.drop _
    rw [samples, List.drop_drop, Nat.add_comm]
  · rw [next, ends, place _ le_rfl, floor]
  · rw [next, ends, place _ le_rfl]
    push_cast
    ring
  · intro i entry here
    change (s.rendered ++ rendered.map _)[i]? = some entry at here
    obtain early | late := Nat.lt_or_ge i s.rendered.length
    · rw [List.getElem?_append_left early] at here
      change entry.arrived ≤ s.appended.length ∧ ⌊position (s.rendered ++ _) i⌋₊ < _ ∧
        _ = interpolate _ (position (s.rendered ++ _) i)
      rw [position_append early.le]
      exact aligned.faithful i entry here
    · obtain ⟨j, rfl⟩ := Nat.exists_eq_add_of_le late
      rw [List.getElem?_append_right late, Nat.add_sub_cancel_left, List.getElem?_map] at here
      obtain ⟨value, there, rfl⟩ := Option.map_eq_some_iff.mp here
      obtain ⟨inside, same⟩ := values j value there
      change s.appended.length ≤ s.appended.length ∧
        ⌊position (s.rendered ++ _) (s.rendered.length + j)⌋₊ < s.appended.length ∧
        value = interpolate (s.appended.take s.appended.length)
          (position (s.rendered ++ _) (s.rendered.length + j))
      rw [place j (List.getElem?_eq_some_iff.mp there).1.le, floor, List.take_length]
      refine ⟨le_rfl, by omega, ?_⟩
      have shifted : interpolate (s.appended.drop start)
          (s.buffer.cursor + j * step + start - start) =
            interpolate s.appended (s.buffer.cursor + j * step + start) :=
        interpolate_drop (by rw [floor]; omega) (by rw [floor]; omega)
      rw [same, samples, ← shifted, add_sub_cancel_right]

/--
The cursor stays on the first sample, trimming keeps the newest samples, and as long as no call
steps over a sample that is still to come, what is rendered without trims is faithful.
-/
theorem playback_queue (s : Playback) :
    (playbackMachine.Run Machine.unguarded {} s → s.buffer.Settled ∧ ∀ m : Rat, 0 ≤ m →
      (s.buffer.trimTo m).availableSamples ≤ ⌊m⌋₊ ∧
      (s.buffer.trimTo m).samples <:+ s.appended ∧
      (s.buffer.availableSamples ≤ ⌊m⌋₊ → s.buffer.trimTo m = s.buffer)) ∧
    (playbackMachine.Run Steady {} s → s.Faithful) := by
  constructor
  · intro run
    have queued := Queued.of_run run
    refine ⟨queued.settled, fun m _ => ?_⟩
    obtain ⟨settled, dropped, kept⟩ := trimTo_spec queued.settled m
    refine ⟨?_, (queued.call (.trimTo m)).newest, ?_⟩
    · rw [settled.available, dropped, List.length_drop]
      omega
    · rw [queued.settled.available]
      exact kept
  · intro run
    have aligned : Aligned s := by
      have start : ({} : Playback).buffer.cursor = next {} - (0 : Nat) := by simp [next, position]
      refine run.invariant_of_reached ⟨le_rfl, ⟨0, le_rfl, rfl, Nat.zero_le _, start⟩, nofun⟩ ?_
      intro t u call reached aligned steady step
      cases Option.some.inj step
      cases call with
      | append pcm => exact aligned.append pcm
      | render length step => exact aligned.render (Queued.of_run reached) steady
      | trimTo m => exact steady.elim
    exact aligned.faithful

/-- Steps of up to one sample reach no further than to the next. -/
theorem steady_of_le {s : Playback} {step : Rat} (small : step ≤ 1) (length : Nat) :
    Steady s (.render length step) := by
  intro i _ inside
  have further : s.buffer.cursor + (i + 1) * step ≤ s.buffer.cursor + i * step + 1 := by linarith
  refine (Nat.floor_mono further).trans ?_
  rcases le_or_gt 0 (s.buffer.cursor + i * step) with positive | negative
  · rw [Nat.floor_add_one positive]
    exact inside
  · rw [Nat.floor_eq_zero.mpr (by linarith)]
    exact Nat.zero_le _

def slow : List PlaybackCall := [.append [0], .render 3 (1 / 2), .append [-32768], .render 1 (1 / 2)]

theorem slow_rendered : (slow.foldl Playback.call {}).appended = [0, -1] ∧
    (slow.foldl Playback.call {}).rendered =
      [⟨0, 1 / 2, 1⟩, ⟨0, 1 / 2, 1⟩, ⟨-1, 1 / 2, 2⟩] := by
  have half : ¬(1 / 2 : Rat) ≤ 0 := by norm_num
  norm_num [slow, Playback.call, append, PcmPlaybackBuffer.normalize, render, renderLoop,
    discardConsumed, half]

theorem playback_queue_slow : ∃ s, playbackMachine.Run Steady {} s ∧
    s.rendered = [⟨0, 1 / 2, 1⟩, ⟨0, 1 / 2, 1⟩, ⟨-1, 1 / 2, 2⟩] ∧ s.Faithful ∧ s.buffer.Settled ∧
    (s.buffer.trimTo 0).availableSamples ≤ ⌊(0 : Rat)⌋₊ := by
  have half : (1 / 2 : Rat) ≤ 1 := by norm_num
  have run : playbackMachine.Run Steady {} (slow.foldl Playback.call {}) := by
    refine .head (a := .append [0]) trivial rfl ?_
    refine .head (a := .render 3 (1 / 2)) (steady_of_le half 3) rfl ?_
    refine .head (a := .append [-32768]) trivial rfl ?_
    exact .head (a := .render 1 (1 / 2)) (steady_of_le half 1) rfl .refl
  obtain ⟨queued, faithful⟩ := playback_queue (slow.foldl Playback.call {})
  obtain ⟨settled, trims⟩ := queued (run.mono fun _ _ _ => trivial)
  exact ⟨_, run, slow_rendered.2, faithful run, settled, (trims 0 le_rfl).1⟩

/-- With every second sample due, a sample stepped over before it arrived is played after all. -/
def overstep : List PlaybackCall :=
  [.append [0], .render 1 2, .append [0, -32768], .render 1 2]

/-- What the queue has rendered afterwards: the sample due second is `-1`, and it is not there. -/
theorem overstep_rendered : (overstep.foldl Playback.call {}).appended = [0, 0, -1] ∧
    (overstep.foldl Playback.call {}).rendered = [⟨0, 2, 1⟩, ⟨0, 2, 3⟩] := by
  have two : ¬(2 : Rat) ≤ 0 := by norm_num
  simp [overstep, Playback.call, append, PcmPlaybackBuffer.normalize, render, renderLoop,
    discardConsumed, two]

theorem playback_queue_overstep : ∃ s,
    playbackMachine.Run (fun _ call => ∀ m, call ≠ .trimTo m) {} s ∧ ¬s.Faithful := by
  refine ⟨overstep.foldl Playback.call {}, ?_, fun faithful => ?_⟩
  · have ends : playbackMachine.exec {} overstep = some (overstep.foldl Playback.call {}) := rfl
    exact Machine.Run.exec .refl (by simp [overstep]) ends
  · obtain ⟨appended, rendered⟩ := overstep_rendered
    have due := (faithful 1 ⟨0, 2, 3⟩ (by rw [rendered]; rfl)).2.2
    rw [appended, rendered] at due
    simp [position, interpolate] at due

end Playback

end Parlando
