import Parlando.Proofs.TranscriptionClock

namespace Parlando

namespace TranscriptionClock

/-- The clock holds `n` frames without a gap in the supplied audio, frame `i` captured at `c i`. -/
structure Laid (n : Nat) (c : Nat → Int) (clock : TranscriptionClock) : Prop where
  frames : clock.frames = (List.range n).map fun i => ⟨20 * i, c i⟩
  audioEnd : clock.audioEndMs = 20 * n
  range : ∀ i < n, 0 ≤ c i ∧ c i ≤ i64Max
  apart : ∀ i, i + 1 < n → c i + 20 ≤ i64Max → c i + 20 ≤ c (i + 1)

variable {n : Nat} {c : Nat → Int} {clock after : TranscriptionClock}

theorem wrappingAdd_le (a b : Int) : wrappingAdd a b ≤ i64Max := by
  have := Int.bmod_lt (x := a + b) (m := 18446744073709551616) (by omega)
  unfold wrappingAdd i64Max
  omega

/-- A frame is captured within range, and behind the one before it unless that ends out of range. -/
theorem Laid.captureStart {t : Int} (laid : Laid n c clock) (low : 0 ≤ t) (high : t ≤ i64Max) :
    (0 ≤ clock.captureStart t ∧ clock.captureStart t ≤ i64Max) ∧
      ∀ i, i + 1 = n → c i + 20 ≤ i64Max → c i + 20 ≤ clock.captureStart t := by
  unfold TranscriptionClock.captureStart
  rw [laid.frames, List.getLast?_map, List.getLast?_range]
  cases n with
  | zero => exact ⟨⟨low, high⟩, fun i last => absurd last (Nat.succ_ne_zero i)⟩
  | succ m =>
    have wrapped := wrappingAdd_le (c m) audioFrameDurationMs
    simp only [Nat.add_one_ne_zero, if_false, Option.map_some, Nat.add_one_sub_one]
    refine ⟨by omega, fun i last room => ?_⟩
    obtain rfl : i = m := by omega
    have inside := laid.range i (Nat.lt_add_one i)
    rw [audioFrameDurationMs, wrappingAdd_eq (by omega) (by omega)]
    omega

/-- What a call of `record` that succeeds has done. -/
theorem record_ok {t : Nat} (h : clock.record t = (after, .ok ())) :
    clock.firstCaptureMs.getD t ≤ t ∧ ((t - clock.firstCaptureMs.getD t : Nat) : Int) ≤ i64Max ∧
      after = {
        frames := clock.frames ++ [⟨clock.audioEndMs,
          clock.captureStart (t - clock.firstCaptureMs.getD t : Nat)⟩]
        firstCaptureMs := some (clock.firstCaptureMs.getD t)
        audioEndMs := clock.audioEndMs + audioFrameDurationMs } := by
  unfold TranscriptionClock.record at h
  simp only at h
  split at h
  · cases h
  · split at h
    · cases h
    · rename_i forward small
      split at h
      · cases h
      · rename_i audioEndMs ends
        cases h
        unfold checkedAdd at ends
        split at ends <;> cases ends
        refine ⟨Nat.le_of_not_lt forward, ?_, rfl⟩
        unfold i64Max
        omega

/-- Recording a frame lays it behind the others. -/
theorem Laid.record {t : Nat} (laid : Laid n c clock) (h : clock.record t = (after, .ok ())) :
    ∃ c', Laid (n + 1) c' after := by
  obtain ⟨forward, small, rfl⟩ := record_ok h
  obtain ⟨range, apart⟩ := laid.captureStart
    (t := (t - clock.firstCaptureMs.getD t : Nat)) (by omega) small
  generalize clock.captureStart (t - clock.firstCaptureMs.getD t : Nat) = captured at range apart
  refine ⟨fun i => if i = n then captured else c i, ?_, ?_, fun i inside => ?_, fun i inside => ?_⟩
  · rw [List.range_succ, List.map_append, List.map_singleton, if_pos rfl, laid.frames,
      laid.audioEnd]
    refine congrArg (· ++ _) (List.map_congr_left fun i mem => ?_)
    rw [if_neg (Nat.ne_of_lt (List.mem_range.mp mem))]
  · simp only [laid.audioEnd, audioFrameDurationMs]
    omega
  · split
    · exact range
    · exact laid.range i (by omega)
  · have := Nat.lt_of_succ_lt_succ inside
    rw [if_neg (by omega)]
    split
    · rename_i last
      exact apart i last
    · exact laid.apart i (by omega)

theorem laid_nil : Laid 0 (fun _ => 0) {} :=
  ⟨rfl, rfl, fun i inside => absurd inside (Nat.not_lt_zero i),
    fun i inside => absurd inside (Nat.not_lt_zero (i + 1))⟩

theorem Laid.recordAll {ts : List Nat} (laid : Laid n c clock)
    (h : clock.recordAll ts = .ok after) : ∃ n c, Laid n c after := by
  induction ts generalizing n c clock with
  | nil =>
    cases h
    exact ⟨n, c, laid⟩
  | cons t ts ih =>
    simp only [TranscriptionClock.recordAll] at h
    split at h
    · cases h
    · rename_i recorded
      obtain ⟨c', laid⟩ := laid.record recorded
      exact ih laid h

/-- The utterance lies in the supplied audio, and its tokens lie in it. -/
structure Within (clock : TranscriptionClock) (utterance : FinalTranscriptUtterance) : Prop where
  low : 0 ≤ utterance.startTimeMs
  forward : utterance.startTimeMs ≤ utterance.endTimeMs
  high : utterance.endTimeMs ≤ clock.audioEndMs
  tokens : ∀ token ∈ utterance.tokens, utterance.startTimeMs ≤ token.startTimeMs ∧
    token.startTimeMs ≤ token.endTimeMs ∧ token.endTimeMs ≤ utterance.endTimeMs

/-- The utterance is mapped, and its tokens lie in it afterwards. -/
def Intact (clock : TranscriptionClock) (utterance : FinalTranscriptUtterance) : Prop :=
  ∃ mapped, clock.map utterance = .ok mapped ∧ ∀ token ∈ mapped.tokens,
    mapped.startTimeMs ≤ token.startTimeMs ∧ token.startTimeMs ≤ token.endTimeMs ∧
      token.endTimeMs ≤ mapped.endTimeMs

/-- Capture time has passed without samples between two frames that meet in the audio. -/
def GapAt (clock : TranscriptionClock) (timeMs : Int) : Prop :=
  ∃ (i : Nat) (before next : ClockFrame), clock.frames[i]? = some before ∧
    clock.frames[i + 1]? = some next ∧ next.audioStartMs = timeMs ∧
      before.captureStartMs + audioFrameDurationMs < next.captureStartMs

/-- A frame other than the last ends behind the range of the capture clock. -/
def OutOfRange (clock : TranscriptionClock) : Prop :=
  ∃ (i : Nat) (frame : ClockFrame), clock.frames[i]? = some frame ∧ i + 1 < clock.frames.length ∧
    i64Max < frame.captureStartMs + audioFrameDurationMs

/--
The clock has a frame, the end of the utterance is in range, and no point of it, the utterance
itself or a token, stands at its start where that is behind a gap.
-/
structure Mappable (clock : TranscriptionClock) (utterance : FinalTranscriptUtterance) : Prop where
  some : clock.frames ≠ []
  range : ∀ frame ∈ clock.frames, frame.audioStartMs < utterance.endTimeMs →
    frame.captureStartMs + (utterance.endTimeMs - frame.audioStartMs) ≤ i64Max
  points : clock.GapAt utterance.startTimeMs → utterance.startTimeMs ≠ utterance.endTimeMs ∧
    ∀ token ∈ utterance.tokens, token.startTimeMs = utterance.startTimeMs →
      token.endTimeMs ≠ utterance.startTimeMs

section Boundaries

variable {x y : Int} {isEnd isEnd' : Bool} {i j : Nat}

/-- Frames in range follow one another in capture time. -/
theorem Laid.captured_mono (laid : Laid n c clock) (below : i ≤ j) (inside : j < n)
    (room : ∀ k, k < j → c k + 20 ≤ i64Max) : c i + 20 * ((j : Int) - i) ≤ c j := by
  induction j, below using Nat.le_induction with
  | base => omega
  | succ j below ih =>
    have := ih (Nat.lt_of_succ_lt inside) fun k before => room k (Nat.lt_succ_of_lt before)
    have := laid.apart j inside (room j (Nat.lt_add_one j))
    push_cast
    omega

/-- Where a boundary inside the supplied audio is mapped to. -/
theorem Laid.boundary (laid : Laid n c clock) (holds : Holds n i x isEnd) :
    clock.boundary x isEnd = if c i + x - 20 * i ≤ i64Max then .ok (c i + x - 20 * i)
      else .error "capture boundary overflow" :=
  boundary_of_frames laid.frames laid.audioEnd holds (laid.range i holds.inside).1

theorem Laid.holds (laid : Laid n c clock) (some : clock.frames ≠ []) (low : 0 ≤ x)
    (high : x ≤ clock.audioEndMs) : ∃ i, Holds n i x isEnd := by
  cases n with
  | zero => exact absurd laid.frames some
  | succ m =>
    rw [laid.audioEnd] at high
    exact holds_exists low (by push_cast at high; omega)

theorem Laid.getElem? (laid : Laid n c clock) (inside : i < n) :
    clock.frames[i]? = some ⟨20 * i, c i⟩ := by
  simp [laid.frames, inside]

/-- There is a gap at a boundary where its two sides differ. -/
theorem Laid.gapAt (laid : Laid n c clock) (start : Holds n j x false) (stop : Holds n i x true)
    (apart : c i + x - 20 * i < c j + x - 20 * j) : clock.GapAt x := by
  obtain ⟨inside, low, high, -, following⟩ := start
  obtain ⟨inside', low', high', preceding, -⟩ := stop
  have next : j = i + 1 := by
    rcases Nat.lt_trichotomy i j with below | same | above
    · omega
    · subst same
      omega
    · have := preceding (by omega) rfl
      omega
  subst next
  refine ⟨i, _, _, laid.getElem? inside', laid.getElem? inside, ?_, ?_⟩
  · push_cast
    push_cast at low
    omega
  · simp only [audioFrameDurationMs]
    push_cast at apart
    omega

/-- The two sides of a gap. -/
theorem Laid.of_gapAt (laid : Laid n c clock) (gap : clock.GapAt x) :
    ∃ i, Holds n (i + 1) x false ∧ Holds n i x true ∧ x = 20 * (i + 1) ∧ c i + 20 < c (i + 1) := by
  obtain ⟨i, before, next, here, there, edge, apart⟩ := gap
  have inside : i + 1 < n := by
    have := (List.getElem?_eq_some_iff.mp there).1
    simpa [laid.frames] using this
  cases here.symm.trans (laid.getElem? (Nat.lt_of_succ_lt inside))
  cases there.symm.trans (laid.getElem? inside)
  simp only [audioFrameDurationMs] at apart
  push_cast at edge
  refine ⟨i, ⟨inside, by push_cast; omega, by push_cast; omega, fun _ mistaken => ?_, ?_⟩,
    ⟨Nat.lt_of_succ_lt inside, by omega, by omega, by omega, fun _ mistaken => ?_⟩, edge.symm,
    apart⟩
  · cases mistaken
  · push_cast
    omega
  · cases mistaken

variable {stop : Int}

/-- A boundary before one that is in range is in range. -/
theorem Laid.boundary_ok (laid : Laid n c clock)
    (room : ∀ k < n, 20 * (k : Int) < stop → c k + (stop - 20 * k) ≤ i64Max)
    (holds : Holds n i x isEnd) (before : x ≤ stop) :
    clock.boundary x isEnd = .ok (c i + x - 20 * i) := by
  rw [laid.boundary holds, if_pos]
  have low := holds.low
  have range := laid.range i holds.inside
  rcases Int.lt_or_le (20 * i) stop with inside | edge
  · have := room i holds.inside inside
    omega
  · omega

/-- Boundaries keep their order, unless they are the two sides of a gap. -/
theorem Laid.boundary_le (laid : Laid n c clock)
    (room : ∀ k < n, 20 * (k : Int) < stop → c k + (stop - 20 * k) ≤ i64Max)
    (holds : Holds n i x isEnd) (holds' : Holds n j y isEnd') (below : x ≤ y) (before : y ≤ stop)
    (apart : ¬clock.GapAt x ∨ x < y ∨ isEnd = true ∨ isEnd' = false) :
    c i + x - 20 * i ≤ c j + y - 20 * j := by
  by_cases same : x < y ∨ isEnd = true ∨ isEnd' = false
  · have := holds'.low
    have := laid.captured_mono (holds.le holds' below same) holds'.inside fun k behind => by
      have := room k (Nat.lt_trans behind holds'.inside) (by omega)
      omega
    omega
  · have whole := apart.resolve_right same
    simp only [not_or, Int.not_lt, Bool.not_eq_true, Bool.not_eq_false] at same
    obtain ⟨above, rfl, rfl⟩ := same
    obtain rfl : x = y := Int.le_antisymm below above
    exact Int.not_lt.mp fun reversed => whole (laid.gapAt holds holds' reversed)

end Boundaries

variable {utterance mapped : FinalTranscriptUtterance}

theorem of_map (h : clock.map utterance = .ok mapped) :
    clock.boundary utterance.startTimeMs false = .ok mapped.startTimeMs ∧
      clock.boundary utterance.endTimeMs true = .ok mapped.endTimeMs ∧
      utterance.tokens.mapM clock.mapToken = .ok mapped.tokens ∧
      mapped.startTimeMs ≤ mapped.endTimeMs := by
  obtain ⟨start, started, h⟩ := Except.of_bind_ok h
  obtain ⟨stop, stopped, h⟩ := Except.of_bind_ok h
  obtain ⟨tokens, images, h⟩ := Except.of_bind_ok h
  split at h
  · cases h
  · rename_i forward
    cases h
    exact ⟨started, stopped, images, Int.not_lt.mp forward⟩

theorem map_ok {start stop : Int} {tokens : List TranscriptToken}
    (started : clock.boundary utterance.startTimeMs false = .ok start)
    (stopped : clock.boundary utterance.endTimeMs true = .ok stop)
    (images : utterance.tokens.mapM clock.mapToken = .ok tokens) (forward : start ≤ stop) :
    clock.map utterance =
      .ok { utterance with startTimeMs := start, endTimeMs := stop, tokens } := by
  simp only [TranscriptionClock.map, started, stopped, images, bind, Except.bind]
  rw [if_neg (Int.not_lt.mpr forward)]
  rfl

theorem mapToken_ok {token : TranscriptToken} {start stop : Int}
    (started : clock.boundary token.startTimeMs (token.startTimeMs == token.endTimeMs) = .ok start)
    (stopped : clock.boundary token.endTimeMs true = .ok stop) :
    ∃ image, clock.mapToken token = .ok image := by
  simp only [mapToken, started, stopped, bind, Except.bind]
  cases token.startTimeMs == token.endTimeMs <;> exact ⟨_, rfl⟩

/-- An utterance that is mappable keeps its tokens. -/
theorem Laid.intact (laid : Laid n c clock) (within : Within clock utterance)
    (mappable : Mappable clock utterance) : Intact clock utterance := by
  have room : ∀ k < n, 20 * (k : Int) < utterance.endTimeMs →
      c k + (utterance.endTimeMs - 20 * k) ≤ i64Max := by
    intro k inside before
    exact mappable.range _ (List.mem_of_getElem? (laid.getElem? inside)) before
  have holder {x : Int} (isEnd : Bool) (low : utterance.startTimeMs ≤ x)
      (high : x ≤ utterance.endTimeMs) : ∃ i, Holds n i x isEnd :=
    laid.holds mappable.some (Int.le_trans within.low low) (Int.le_trans high within.high)
  obtain ⟨i, start⟩ := holder false (Int.le_refl _) within.forward
  obtain ⟨j, stop⟩ := holder true within.forward (Int.le_refl _)
  have started := laid.boundary_ok room start within.forward
  have stopped := laid.boundary_ok room stop (Int.le_refl _)
  obtain ⟨tokens, images⟩ : ∃ tokens, utterance.tokens.mapM clock.mapToken = .ok tokens := by
    apply Except.mapM_total
    intro token mem
    obtain ⟨low, forward, high⟩ := within.tokens token mem
    obtain ⟨k, first⟩ := holder (token.startTimeMs == token.endTimeMs) low
      (Int.le_trans forward high)
    obtain ⟨l, last⟩ := holder true (Int.le_trans low forward) high
    exact mapToken_ok (laid.boundary_ok room first (Int.le_trans forward high))
      (laid.boundary_ok room last high)
  refine ⟨_, map_ok started stopped images ?_, fun image mem => ?_⟩
  · apply laid.boundary_le room start stop within.forward (Int.le_refl _)
    by_cases gap : clock.GapAt utterance.startTimeMs
    · have := (mappable.points gap).1
      have := within.forward
      exact .inr (.inl (by omega))
    · exact .inl gap
  · obtain ⟨token, original, made⟩ := Except.mapM_preimage images mem
    obtain ⟨low, forward, high⟩ := within.tokens token original
    obtain ⟨first, last⟩ := of_mapToken made
    obtain ⟨k, holdsFirst⟩ := holder (token.startTimeMs == token.endTimeMs) low
      (Int.le_trans forward high)
    obtain ⟨l, holdsLast⟩ := holder true (Int.le_trans low forward) high
    have first := Except.ok.inj
      (first.symm.trans (laid.boundary_ok room holdsFirst (Int.le_trans forward high)))
    have last := Except.ok.inj (last.symm.trans (laid.boundary_ok room holdsLast high))
    rw [first, last]
    refine ⟨?_, ?_, ?_⟩
    · apply laid.boundary_le room start holdsFirst low (Int.le_trans forward high)
      by_cases edge : token.startTimeMs = utterance.startTimeMs
      · cases point : token.startTimeMs == token.endTimeMs with
        | false => exact .inr (.inr (.inr rfl))
        | true =>
          refine .inl fun gap => (mappable.points gap).2 token original edge ?_
          exact (beq_iff_eq.mp point).symm.trans edge
      · exact .inr (.inl (by omega))
    · apply laid.boundary_le room holdsFirst holdsLast forward high
      rcases Int.lt_or_eq_of_le forward with longer | point
      · exact .inr (.inl longer)
      · exact .inr (.inr (.inl (beq_iff_eq.mpr point)))
    · exact laid.boundary_le room holdsLast stop high (Int.le_refl _) (.inr (.inr (.inl rfl)))

/-- Within range only a mappable utterance keeps its tokens. -/
theorem Laid.mappable (laid : Laid n c clock) (within : Within clock utterance)
    (inRange : ¬clock.OutOfRange) (intact : Intact clock utterance) :
    Mappable clock utterance := by
  obtain ⟨mapped, done, inside⟩ := intact
  obtain ⟨started, stopped, images, forward⟩ := of_map done
  have some : clock.frames ≠ [] := by
    intro none
    unfold TranscriptionClock.boundary at stopped
    split at stopped
    · cases stopped
    · simp [none] at stopped
  have room : ∀ k, k + 1 < n → c k + 20 ≤ i64Max := by
    intro k before
    refine Int.not_lt.mp fun high => inRange ⟨k, _, laid.getElem? (Nat.lt_of_succ_lt before), ?_, high⟩
    simpa [laid.frames] using before
  refine ⟨some, fun frame mem before => ?_, fun gap => ?_⟩
  · rw [laid.frames] at mem
    obtain ⟨k, here, rfl⟩ := List.mem_map.mp mem
    have here := List.mem_range.mp here
    have ⟨i, holds⟩ : ∃ i, Holds n i _ true :=
      laid.holds some (Int.le_trans within.low within.forward) within.high
    rw [laid.boundary holds] at stopped
    split at stopped
    · have high := holds.high
      simp only at before ⊢
      have := laid.captured_mono (by omega : k ≤ i) holds.inside fun l below =>
        room l (by have := holds.inside; omega)
      omega
    · cases stopped
  · obtain ⟨i, start, stop, edge, apart⟩ := laid.of_gapAt gap
    have inRange := (laid.range (i + 1) start.inside).2
    have after : mapped.startTimeMs = c (i + 1) := by
      rw [laid.boundary start] at started
      split at started
      · have := Except.ok.inj started
        push_cast at this
        omega
      · cases started
    have before : clock.boundary utterance.startTimeMs true = .ok (c i + 20) := by
      rw [laid.boundary stop, if_pos (by omega)]
      exact congrArg Except.ok (by omega)
    refine ⟨fun point => ?_, fun token mem first last => ?_⟩
    · rw [← point, before] at stopped
      have := Except.ok.inj stopped
      omega
    · obtain ⟨image, here, made⟩ := Except.mapM_image images mem
      have point : (token.startTimeMs == token.endTimeMs) = true := by
        rw [first, last, beq_iff_eq]
      have moved := (of_mapToken made).1
      rw [point, first, before] at moved
      have := Except.ok.inj moved
      have := (inside image here).1
      omega

end TranscriptionClock

open TranscriptionClock in
/--
An utterance in the supplied audio is mapped with all its tokens inside it where it is mappable,
and only there, unless the clock has left its range.
-/
theorem mapped_utterances_intact {ts : List Nat} {clock : TranscriptionClock}
    (recorded : recordAll {} ts = .ok clock) {utterance : FinalTranscriptUtterance}
    (within : Within clock utterance) :
    (Mappable clock utterance → Intact clock utterance) ∧
      (Intact clock utterance → Mappable clock utterance ∨ clock.OutOfRange) := by
  obtain ⟨n, c, laid⟩ := laid_nil.recordAll recorded
  refine ⟨laid.intact within, fun intact => ?_⟩
  by_cases inRange : clock.OutOfRange
  · exact .inr inRange
  · exact .inl (laid.mappable within inRange intact)

namespace TranscriptionClock

def gapped : TranscriptionClock := ⟨[⟨0, 0⟩, ⟨20, 2020⟩], some 900, 40⟩

def oneWord (start stop : Int) : FinalTranscriptUtterance :=
  ⟨start, stop, "b", [], [⟨"word", "b", start, stop, none⟩]⟩

theorem within_gapped {start stop : Int} (low : 0 ≤ start) (forward : start ≤ stop)
    (high : stop ≤ 40) : Within gapped (oneWord start stop) := by
  refine ⟨low, forward, high, fun token mem => ?_⟩
  cases List.mem_singleton.mp mem
  exact ⟨Int.le_refl _, forward, Int.le_refl _⟩

end TranscriptionClock

open TranscriptionClock in
/-- A word from one side of the gap to the other is mapped. -/
theorem mapped_utterances_intact_across : Intact gapped (oneWord 0 40) := by
  have recorded : recordAll {} [900, 2920] = .ok gapped := rfl
  refine (mapped_utterances_intact recorded (within_gapped ?_ ?_ ?_)).1 ⟨?_, ?_, ?_⟩
  · simp
  · simp
  · simp
  · exact List.cons_ne_nil _ _
  · simp [gapped, oneWord, i64Max]
  · simp [oneWord]

open TranscriptionClock in
/-- A point behind the gap is mapped to a start after its end, and refused. -/
theorem point_behind_gap_refused :
    ∃ clock utterance, recordAll {} [900, 2920] = .ok clock ∧ Within clock utterance ∧
      ¬Intact clock utterance := by
  have reversed : gapped.map (oneWord 20 20) =
      .error "reversed mapped utterance interval" := rfl
  refine ⟨gapped, oneWord 20 20, rfl, within_gapped ?_ ?_ ?_, fun ⟨mapped, done, _⟩ => ?_⟩
  · simp
  · simp
  · simp
  · cases reversed.symm.trans done

end Parlando
