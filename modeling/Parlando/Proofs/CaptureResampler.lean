import Parlando.CaptureResampler
import Parlando.Data.Except
import Parlando.Data.Interpolation
import Mathlib.Data.Int.ConditionallyCompleteOrder

namespace Parlando

namespace PcmCaptureResampler

variable {ratio : Rat} {all rest : List Rat} {frames new : List (List Int)}
  {r r' : PcmCaptureResampler} {n : Nat}

def valueAt (ratio : Rat) (all : List Rat) (n : Nat) : Rat := interpolate all (n * ratio)

/-- Enough input is there for an output sample. -/
def Computable (ratio : Rat) (all : List Rat) (n : Nat) : Prop := Known all.length (n * ratio)

/-- A frame with 480 quantized output samples. -/
def frameAt (ratio : Rat) (all : List Rat) (k : Nat) : List Int :=
  (List.range' (k * captureFrameSamples) captureFrameSamples).map fun n =>
    quantize (valueAt ratio all n)

def produced (frames : List (List Int)) (r : PcmCaptureResampler) : Nat :=
  frames.length * captureFrameSamples + r.output.length

structure Converted (ratio : Rat) (all : List Rat) (frames : List (List Int))
    (r : PcmCaptureResampler) : Prop where
  source : ∃ start ≤ all.length, r.samples = all.drop start ∧
    start ≤ ⌊produced frames r * ratio⌋₊ ∧ r.cursor = produced frames r * ratio - start
  room : r.output.length < captureFrameSamples
  computable : ∀ n < produced frames r, Computable ratio all n
  output : r.output = (List.range' (frames.length * captureFrameSamples) r.output.length).map
    (valueAt ratio all)
  framed : frames = (List.range frames.length).map (frameAt ratio all)

def Clamped (all : List Rat) : Prop := ∀ x ∈ all, x ∈ Set.Icc (-1 : Rat) 1

theorem clamped_map (input : List Rat) : Clamped (input.map clampSample) := by
  intro x mem
  obtain ⟨sample, -, rfl⟩ := List.mem_map.mp mem
  exact ⟨le_max_left .., max_le (by norm_num) (min_le_left ..)⟩

theorem clampSample_of_mem {x : Rat} (h : x ∈ Set.Icc (-1 : Rat) 1) : clampSample x = x := by
  rw [clampSample, min_eq_right h.2, max_eq_right h.1]

theorem Computable.append (computable : Computable ratio all n) :
    Computable ratio (all ++ rest) n :=
  computable.mono (by simp)

theorem valueAt_append (computable : Computable ratio all n) :
    valueAt ratio (all ++ rest) n = valueAt ratio all n :=
  interpolate_append computable

/-- The value of an output sample is in range. -/
theorem clampSample_valueAt (positive : 0 < ratio) (clamped : Clamped all)
    (computable : Computable ratio all n) :
    clampSample (valueAt ratio all n) = valueAt ratio all n :=
  clampSample_of_mem (interpolate_mem_Icc (by positivity) computable.1 clamped)

/-- A turn of the loop that does not end it. -/
theorem produce_eq (inside : r.cursor < r.samples.length)
    (goes : ¬(r.cursor - (⌊r.cursor⌋₊ : Rat) > 0 ∧ ⌊r.cursor⌋₊ + 1 ≥ r.samples.length)) :
    r.produce ratio =
      let output := r.output ++ [clampSample (interpolate r.samples r.cursor)]
      if output.length = captureFrameSamples then
        some ([output.map quantize], ⟨r.samples, r.cursor + ratio, []⟩)
      else some ([], ⟨r.samples, r.cursor + ratio, output⟩) := by
  unfold produce
  rw [if_pos inside]
  dsimp only
  rw [if_neg goes]
  rfl

section Turn

variable (converted : Converted ratio all frames r) (positive : 0 < ratio)

include converted positive

/-- What the loop reads at its cursor, in terms of the whole input. -/
theorem Converted.reads : 0 ≤ r.cursor ∧
    (Known r.samples.length r.cursor ↔ Computable ratio all (produced frames r)) ∧
    (Computable ratio all (produced frames r) →
      interpolate r.samples r.cursor = valueAt ratio all (produced frames r)) := by
  obtain ⟨start, within, samples, before, cursor⟩ := converted.source
  have place : 0 ≤ (produced frames r : Rat) * ratio := by positivity
  have low : (start : Rat) ≤ produced frames r * ratio :=
    (Nat.cast_le.mpr before).trans (Nat.floor_le place)
  rw [samples, cursor, List.length_drop]
  exact ⟨sub_nonneg.mpr low, known_sub_iff before, fun known => interpolate_drop before known.1⟩

/-- The loop ends where the next value cannot be computed. -/
theorem Converted.produce_none (missing : ¬Computable ratio all (produced frames r)) :
    r.produce ratio = none := by
  obtain ⟨place, known, -⟩ := converted.reads positive
  have stops := mt known.mp missing
  rw [known_iff place, not_and, not_not] at stops
  unfold produce
  split
  · rename_i inside
    exact if_pos (stops inside)
  · rfl

/-- The position and the computed values after one more output sample. -/
theorem Converted.advance {frames' : List (List Int)}
    (computable : Computable ratio all (produced frames r))
    (samples' : r'.samples = r.samples) (cursor' : r'.cursor = r.cursor + ratio)
    (count : produced frames' r' = produced frames r + 1)
    (room : r'.output.length < captureFrameSamples)
    (output : r'.output = (List.range' (frames'.length * captureFrameSamples)
      r'.output.length).map (valueAt ratio all))
    (framed : frames' = (List.range frames'.length).map (frameAt ratio all)) :
    Converted ratio all frames' r' where
  source := by
    obtain ⟨start, within, samples, before, cursor⟩ := converted.source
    refine ⟨start, within, samples'.trans samples, ?_, ?_⟩
    · exact before.trans (Nat.floor_le_floor (by rw [count]; push_cast; nlinarith))
    · rw [cursor', cursor, count]
      push_cast
      ring
  room := room
  computable n below := by
    rw [count] at below
    rcases Nat.lt_succ_iff_lt_or_eq.mp below with earlier | rfl
    · exact converted.computable n earlier
    · exact computable
  output := output
  framed := framed

/-- One turn of the loop computes the next value. -/
theorem Converted.produce_some (clamped : Clamped all)
    (computable : Computable ratio all (produced frames r)) :
    ∃ new r', r.produce ratio = some (new, r') ∧ Converted ratio all (frames ++ new) r' := by
  obtain ⟨place, known, value⟩ := converted.reads positive
  obtain ⟨inside, goes⟩ := (known_iff place).mp (known.mpr computable)
  have output : r.output ++ [valueAt ratio all (produced frames r)] =
      (List.range' (frames.length * captureFrameSamples) (r.output.length + 1)).map
        (valueAt ratio all) := by
    rw [List.range'_concat, List.map_append, ← converted.output]
    simp [produced]
  rw [produce_eq inside goes, value computable, clampSample_valueAt positive clamped computable,
    output]
  dsimp only
  rw [List.length_map, List.length_range']
  split
  · rename_i full
    rw [full, List.map_map]
    change ∃ new r', some ([frameAt ratio all frames.length], _) = some (new, r') ∧ _
    have grown : (frames ++ [frameAt ratio all frames.length]).length = frames.length + 1 := by
      simp
    refine ⟨_, _, rfl, converted.advance positive computable rfl rfl ?_ (Nat.zero_lt_succ _) rfl ?_⟩
    · rw [produced, produced, grown, Nat.succ_mul, Nat.add_assoc, Nat.add_assoc, full,
        List.length_nil, Nat.add_zero]
    · rw [grown, List.range_succ, List.map_append, ← converted.framed, List.map_singleton]
  · rename_i partly
    have below := converted.room
    refine ⟨[], _, rfl, ?_⟩
    rw [List.append_nil]
    refine converted.advance positive computable rfl rfl ?_ ?_ ?_ converted.framed <;>
      simp only [produced, List.length_map, List.length_range']
    · exact (Nat.add_assoc ..).symm
    · omega

end Turn

structure Exhausted (ratio : Rat) (all : List Rat) (frames : List (List Int))
    (r : PcmCaptureResampler) : Prop extends Converted ratio all frames r where
  missing : ¬Computable ratio all (produced frames r)

theorem Converted.produceAll_exhausted (converted : Converted ratio all frames r)
    (positive : 0 < ratio) (clamped : Clamped all) :
    Exhausted ratio all (frames ++ (r.produceAll ratio positive).1)
      (r.produceAll ratio positive).2 := by
  induction r using produceAll.induct ratio positive generalizing frames with
  | case1 r ends =>
    rw [produceAll, ends]
    have missing : ¬Computable ratio all (produced frames r) := by
      intro computable
      obtain ⟨_, _, goes, -⟩ := converted.produce_some positive clamped computable
      cases goes.symm.trans ends
    exact ⟨(List.append_nil frames).symm ▸ converted, (List.append_nil frames).symm ▸ missing⟩
  | case2 r new r' goes _ _ _ ih =>
    rw [produceAll, goes]
    have computable : Computable ratio all (produced frames r) := by
      by_contra missing
      cases goes.symm.trans (converted.produce_none positive missing)
    obtain ⟨new', r'', goes', further⟩ := converted.produce_some positive clamped computable
    cases goes.symm.trans goes'
    have rest := ih further
    rw [List.append_assoc] at rest
    exact rest

/-- More input leaves what has been computed as it is. -/
theorem Converted.extend (converted : Converted ratio all frames r) (input : List Rat) :
    Converted ratio (all ++ input) frames { r with samples := r.samples ++ input } where
  source := by
    obtain ⟨start, within, samples, before, cursor⟩ := converted.source
    refine ⟨start, ?_, ?_, before, cursor⟩
    · rw [List.length_append]
      omega
    · rw [List.drop_append_of_le_length within, ← samples]
  room := converted.room
  computable n below := (converted.computable n below).append
  output := by
    refine converted.output.trans (List.map_congr_left fun n mem => ?_)
    refine (valueAt_append (converted.computable n ?_)).symm
    have upper := (List.mem_range'_1.mp mem).2
    exact upper
  framed := by
    refine converted.framed.trans (List.map_congr_left fun k mem => ?_)
    refine List.map_congr_left fun n mem' => congrArg quantize ?_
    refine (valueAt_append (converted.computable n ?_)).symm
    have upper := (List.mem_range'_1.mp mem').2
    have last := Nat.mul_le_mul_right captureFrameSamples (List.mem_range.mp mem)
    rw [Nat.succ_mul] at last
    unfold produced
    omega

/-- The samples before the cursor are dropped. -/
theorem Converted.consume (converted : Converted ratio all frames r) :
    Converted ratio all frames { r with
      samples := r.samples.drop (min ⌊r.cursor⌋₊ r.samples.length)
      cursor := r.cursor - (min ⌊r.cursor⌋₊ r.samples.length : Nat) } where
  source := by
    obtain ⟨start, within, samples, before, cursor⟩ := converted.source
    have floor : ⌊r.cursor⌋₊ = ⌊(produced frames r : Rat) * ratio⌋₊ - start := by
      rw [cursor, Nat.floor_sub_natCast]
    have length : r.samples.length = all.length - start := by
      rw [samples, List.length_drop]
    refine ⟨start + min ⌊r.cursor⌋₊ r.samples.length, ?_, ?_, ?_, ?_⟩
    · omega
    · rw [samples, List.drop_drop]
    · change _ ≤ ⌊(produced frames r : Rat) * ratio⌋₊
      omega
    · change r.cursor - _ = (produced frames r : Rat) * ratio - _
      rw [cursor]
      push_cast
      ring
  room := converted.room
  computable := converted.computable
  output := converted.output
  framed := converted.framed

/-- One call of `append`. -/
theorem Exhausted.append {rate : Rat} (positive : 0 < rate)
    (exhausted : Exhausted (rate / 24000) all frames r) (clamped : Clamped all)
    (input : List Rat) : ∃ new r', r.append input rate = .ok (new, r') ∧
      Exhausted (rate / 24000) (all ++ input.map clampSample) (frames ++ new) r' := by
  have ratio : 0 < rate / 24000 := by positivity
  have all_clamped : Clamped (all ++ input.map clampSample) := by
    intro x mem
    rcases List.mem_append.mp mem with old | fresh
    · exact clamped x old
    · exact clamped_map input x fresh
  obtain ⟨converted, missing⟩ := (exhausted.toConverted.extend
    (input.map clampSample)).produceAll_exhausted ratio all_clamped
  unfold PcmCaptureResampler.append
  rw [dif_pos positive]
  exact ⟨_, _, rfl, converted.consume, missing⟩

/-- A sequence of calls. -/
theorem Exhausted.appendAll {rate : Rat} (positive : 0 < rate) (inputs : List (List Rat))
    (exhausted : Exhausted (rate / 24000) all frames r) (clamped : Clamped all) :
    ∃ new r', r.appendAll rate inputs = .ok (new, r') ∧
      Exhausted (rate / 24000) (all ++ inputs.flatten.map clampSample) (frames ++ new) r' := by
  induction inputs generalizing all frames r with
  | nil => exact ⟨[], r, rfl, by simpa using exhausted⟩
  | cons input inputs ih =>
    obtain ⟨new, r', appended, next⟩ := exhausted.append positive clamped input
    have clamped' : Clamped (all ++ input.map clampSample) := by
      intro x mem
      rcases List.mem_append.mp mem with old | fresh
      · exact clamped x old
      · exact clamped_map input x fresh
    obtain ⟨more, r'', ran, last⟩ := ih next clamped'
    refine ⟨new ++ more, r'', ?_, ?_⟩
    · rw [PcmCaptureResampler.appendAll, appended]
      change (r'.appendAll rate inputs >>= _) = _
      rw [ran]
      rfl
    · simpa [List.append_assoc] using last

/-- There are as many frames as the input allows. -/
theorem Exhausted.greatest (exhausted : Exhausted ratio all frames r) :
    IsGreatest {k | ∀ n < k * captureFrameSamples, Computable ratio all n} frames.length := by
  constructor
  · intro n below
    exact exhausted.computable n (below.trans_le (Nat.le_add_right ..))
  · intro k computable
    by_contra beyond
    have last := Nat.mul_le_mul_right captureFrameSamples (Nat.lt_of_not_le beyond)
    have room := exhausted.room
    rw [Nat.succ_mul] at last
    exact exhausted.missing (computable _ (by unfold produced; omega))

theorem quantize_mem {value : Rat} (h : value ∈ Set.Icc (-1 : Rat) 1) :
    quantize value ∈ Set.Icc (-32768 : Int) 32767 := by
  obtain ⟨low, high⟩ := h
  unfold quantize mathRound
  split
  · refine ⟨Int.le_floor.mpr ?_, Int.le_of_lt_add_one (Int.floor_lt.mpr ?_)⟩ <;> push_cast <;>
      linarith
  · refine ⟨Int.le_floor.mpr ?_, Int.le_of_lt_add_one (Int.floor_lt.mpr ?_)⟩ <;> push_cast <;>
      linarith

/-- What every frame holds is a 16-bit sample. -/
theorem Exhausted.sixteenBit (exhausted : Exhausted ratio all frames r) (positive : 0 < ratio)
    (clamped : Clamped all) :
    ∀ frame ∈ frames, ∀ value ∈ frame, value ∈ Set.Icc (-32768 : Int) 32767 := by
  intro frame mem value mem'
  rw [exhausted.framed] at mem
  obtain ⟨k, early, rfl⟩ := List.mem_map.mp mem
  obtain ⟨n, inside, rfl⟩ := List.mem_map.mp mem'
  have computable : Computable ratio all n := by
    refine exhausted.greatest.1 n ?_
    have upper := (List.mem_range'_1.mp inside).2
    have last := Nat.mul_le_mul_right captureFrameSamples (List.mem_range.mp early)
    rw [Nat.succ_mul] at last
    omega
  exact quantize_mem (interpolate_mem_Icc (by positivity) computable.1 clamped)

theorem Exhausted.initial : Exhausted ratio [] [] {} where
  source := ⟨0, Nat.le_refl _, rfl, Nat.zero_le _, by simp [produced]⟩
  room := Nat.zero_lt_succ _
  computable n below := absurd below (Nat.not_lt_zero n)
  output := rfl
  framed := rfl
  missing computable := absurd computable.1 (Nat.not_lt_zero _)

/--
A sequence of calls returns the frames that can be computed from all input together, however the
input is divided into calls.
-/
theorem capture_resampling {rate : Rat} (positive : 0 < rate) (inputs : List (List Rat)) :
    ∃ frames r, ({} : PcmCaptureResampler).appendAll rate inputs = .ok (frames, r) ∧
      (∃ k, frames = (List.range k).map
          (frameAt (rate / 24000) (inputs.flatten.map clampSample)) ∧
        IsGreatest {k | ∀ n < k * captureFrameSamples,
          Computable (rate / 24000) (inputs.flatten.map clampSample) n} k) ∧
      (∀ frame ∈ frames, ∀ value ∈ frame, value ∈ Set.Icc (-32768 : Int) 32767) ∧
      ∀ others : List (List Rat), others.flatten = inputs.flatten →
        ∃ r', ({} : PcmCaptureResampler).appendAll rate others = .ok (frames, r') := by
  have ratio : 0 < rate / 24000 := by positivity
  have run (inputs : List (List Rat)) :
      ∃ frames r, ({} : PcmCaptureResampler).appendAll rate inputs = .ok (frames, r) ∧
        Exhausted (rate / 24000) (inputs.flatten.map clampSample) frames r :=
    Exhausted.initial.appendAll positive inputs nofun
  obtain ⟨frames, r, ran, exhausted⟩ := run inputs
  refine ⟨frames, r, ran, ⟨frames.length, exhausted.framed, exhausted.greatest⟩,
    exhausted.sixteenBit ratio (clamped_map _), fun others same => ?_⟩
  obtain ⟨frames', r', ran', exhausted'⟩ := run others
  rw [same] at exhausted'
  have count : frames'.length = frames.length :=
    exhausted'.greatest.unique exhausted.greatest
  have equal : frames' = frames := by
    have framed' := exhausted'.framed
    rw [count] at framed'
    exact framed'.trans exhausted.framed.symm
  exact ⟨r', equal ▸ ran'⟩

def loud (length : Nat) : List Rat := List.replicate length 1

theorem loud_clamped (length : Nat) : (loud length).map clampSample = loud length := by
  rw [loud, List.map_replicate, clampSample_of_mem ⟨by norm_num, le_rfl⟩]

/-- Every second of 960 samples is a sample of the first frame. -/
theorem computable_loud : Computable 2 (loud 960) n ↔ n < captureFrameSamples := by
  have whole : ⌊(n : Rat) * 2⌋₊ = n * 2 := by
    rw [← Nat.cast_ofNat, ← Nat.cast_mul, Nat.floor_natCast]
  have fits : n * 2 < 960 ↔ n < captureFrameSamples := by
    rw [captureFrameSamples]
    omega
  unfold Computable Known
  rw [loud, List.length_replicate, whole, fits]
  exact ⟨And.left, fun small => ⟨small, .inl (by push_cast; rfl)⟩⟩

theorem frameAt_loud : frameAt 2 (loud 960) 0 = List.replicate captureFrameSamples 32767 := by
  refine List.eq_replicate_iff.mpr ⟨by rw [frameAt, List.length_map, List.length_range'], ?_⟩
  intro value mem
  obtain ⟨n, small, rfl⟩ := List.mem_map.mp mem
  have computable : Computable 2 (loud 960) n := computable_loud.mpr (by simpa using small)
  have one : valueAt 2 (loud 960) n ∈ Set.Icc (1 : Rat) 1 :=
    interpolate_mem_Icc (by positivity) computable.1 fun x mem => by
      rw [List.eq_of_mem_replicate mem]
      exact Set.left_mem_Icc.mpr le_rfl
  rw [Set.Icc_self, Set.mem_singleton_iff] at one
  rw [one]
  norm_num [quantize, mathRound]

/-- 20 ms at 48 kHz, in one call and in three. -/
theorem capture_resampling_halved : ∃ r r',
    ({} : PcmCaptureResampler).appendAll 48000 [loud 960] =
        .ok ([List.replicate captureFrameSamples 32767], r) ∧
      ({} : PcmCaptureResampler).appendAll 48000 [loud 480, [], loud 480] =
        .ok ([List.replicate captureFrameSamples 32767], r') := by
  obtain ⟨frames, r, ran, ⟨k, framed, greatest⟩, -, same⟩ :=
    @capture_resampling 48000 (by norm_num) [loud 960]
  have ratio : (48000 : Rat) / 24000 = 2 := by norm_num
  have all : [loud 960].flatten.map clampSample = loud 960 := by
    rw [List.flatten_singleton, loud_clamped]
  rw [ratio, all] at framed greatest
  have once : k = 1 := by
    refine greatest.unique ⟨fun n small => computable_loud.mpr (by omega), fun k computable => ?_⟩
    by_contra more
    have beyond : captureFrameSamples < k * captureFrameSamples := by
      rw [captureFrameSamples]
      omega
    exact absurd (computable_loud.mp (computable _ beyond)) (Nat.lt_irrefl _)
  subst once
  have loudly : frames = [List.replicate captureFrameSamples 32767] := by
    rw [framed, ← frameAt_loud]
    rfl
  subst loudly
  obtain ⟨r', ran'⟩ := same [loud 480, [], loud 480] <| by
    simp only [loud, List.flatten_cons, List.flatten_nil, List.append_nil, List.nil_append,
      List.replicate_append_replicate]
  exact ⟨r, r', ran, ran'⟩

end PcmCaptureResampler

end Parlando
