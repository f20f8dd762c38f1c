import Parlando.TranscriptionClock
import Parlando.Data.Except
import Mathlib.Data.Finset.Lattice.Fold
import Mathlib.Algebra.Order.Ring.Int

namespace Parlando

/-- Where frame `i` starts in capture time: no earlier than any timestamp so far lets it. -/
def captureClock (ts : List Nat) (i : Nat) : Int :=
  (Finset.range (i + 1)).sup' Finset.nonempty_range_add_one fun j =>
    (ts.getD j 0 : Int) - ts.getD 0 0 + 20 * ((i : Int) - j)

variable {ts : List Nat} {i j : Nat}

theorem le_captureClock (ts : List Nat) (below : j ≤ i) :
    (ts.getD j 0 : Int) - ts.getD 0 0 + 20 * ((i : Int) - j) ≤ captureClock ts i :=
  Finset.le_sup' (fun j : Nat => (ts.getD j 0 : Int) - ts.getD 0 0 + 20 * ((i : Int) - j))
    (Finset.mem_range.mpr (Nat.lt_succ_of_le below))

theorem captureClock_le {c : Int}
    (bound : ∀ j ≤ i, (ts.getD j 0 : Int) - ts.getD 0 0 + 20 * ((i : Int) - j) ≤ c) :
    captureClock ts i ≤ c :=
  Finset.sup'_le _ _ fun j mem => bound j (Nat.le_of_lt_succ (Finset.mem_range.mp mem))

@[simp] theorem captureClock_zero (ts : List Nat) : captureClock ts 0 = 0 := by
  simp [captureClock]

/-- A frame starts at its timestamp, or where the frame before it ends. -/
theorem captureClock_succ (ts : List Nat) (i : Nat) : captureClock ts (i + 1) =
    max ((ts.getD (i + 1) 0 : Int) - ts.getD 0 0) (captureClock ts i + 20) := by
  apply le_antisymm
  · apply captureClock_le
    intro j below
    rcases Nat.lt_or_ge i j with above | below
    · have : j = i + 1 := by omega
      subst this
      omega
    · have := le_captureClock ts below
      push_cast
      omega
  · apply max_le
    · have := le_captureClock ts (Nat.le_refl (i + 1))
      omega
    · have : captureClock ts i ≤ captureClock ts (i + 1) - 20 := by
        apply captureClock_le
        intro j below
        have := le_captureClock ts (Nat.le_add_right_of_le below : j ≤ i + 1)
        push_cast at this
        omega
      omega

/-- Frames do not overlap in capture time. -/
theorem captureClock_mono (ts : List Nat) (below : i ≤ j) :
    captureClock ts i + 20 * ((j : Int) - i) ≤ captureClock ts j := by
  induction j, below using Nat.le_induction with
  | base => omega
  | succ j below ih =>
    rw [captureClock_succ]
    push_cast
    omega

theorem captureClock_nonneg (ts : List Nat) (i : Nat) : 0 ≤ captureClock ts i := by
  have := captureClock_mono ts (Nat.zero_le i)
  rw [captureClock_zero] at this
  omega

theorem captureClock_append {t : Nat} (inside : i < ts.length) :
    captureClock (ts ++ [t]) i = captureClock ts i := by
  apply Finset.sup'_congr _ rfl
  intro j mem
  have below := Finset.mem_range.mp mem
  rw [List.getD_append _ _ _ _ (by omega), List.getD_append _ _ _ _ (by omega)]

theorem getD_mono (sorted : ts.Pairwise (· ≤ ·)) (below : j ≤ i) (inside : i < ts.length) :
    ts.getD j 0 ≤ ts.getD i 0 := by
  rw [List.getD_eq_getElem _ _ inside, List.getD_eq_getElem _ _ (Nat.lt_of_le_of_lt below inside)]
  rcases Nat.lt_or_eq_of_le below with below | rfl
  · exact List.pairwise_iff_getElem.mp sorted j i _ inside below
  · exact Nat.le_refl _

/-- The last frame ends no later than the timestamps or the supplied audio let it. -/
theorem captureClock_end_le (sorted : ts.Pairwise (· ≤ ·)) (inside : i < ts.length) :
    captureClock ts i + 20 ≤
      max (20 * ((i : Int) + 1)) ((ts.getD i 0 : Int) - ts.getD 0 0 + 20 * i) := by
  have : captureClock ts i ≤
      max (20 * ((i : Int) + 1)) ((ts.getD i 0 : Int) - ts.getD 0 0 + 20 * i) - 20 := by
    apply captureClock_le
    intro j below
    have := getD_mono sorted below inside
    cases j with
    | zero => omega
    | succ j =>
      push_cast
      omega
  omega

/-- The largest signed 64-bit integer. -/
def i64Max : Int := 9223372036854775807

theorem wrappingAdd_eq {a b : Int} (low : 0 ≤ a + b) (high : a + b ≤ i64Max) :
    wrappingAdd a b = a + b := by
  unfold i64Max at high
  exact Int.bmod_eq_of_le (by omega) (by omega)

theorem checkedAdd_eq {a b : Int} (low : 0 ≤ a + b) :
    checkedAdd a b = if a + b ≤ i64Max then some (a + b) else none := by
  unfold checkedAdd i64Max
  split
  · rw [if_pos (by omega)]
  · rw [if_neg (by omega)]

namespace TranscriptionClock

structure Tracks (ts : List Nat) (clock : TranscriptionClock) : Prop where
  frames : clock.frames = (List.range ts.length).map fun i => ⟨20 * i, captureClock ts i⟩
  first : clock.firstCaptureMs = ts.head?
  audioEnd : clock.audioEndMs = 20 * ts.length

theorem tracks_nil : Tracks [] {} := ⟨rfl, rfl, rfl⟩

variable {t : Nat} {clock : TranscriptionClock}

theorem frames_append (ts : List Nat) (t : Nat) :
    ((List.range (ts ++ [t]).length).map fun i : Nat =>
      (⟨20 * i, captureClock (ts ++ [t]) i⟩ : ClockFrame)) =
    ((List.range ts.length).map fun i : Nat => ⟨20 * i, captureClock ts i⟩) ++
      [⟨20 * ts.length, captureClock (ts ++ [t]) ts.length⟩] := by
  rw [List.length_append, List.length_singleton, List.range_succ, List.map_append,
    List.map_singleton]
  congr 1
  apply List.map_congr_left
  intro i mem
  rw [captureClock_append (List.mem_range.mp mem)]

/-- The timestamps of a longer sequence may be read off its parts. -/
theorem getD_last (ts : List Nat) (t : Nat) : (ts ++ [t]).getD ts.length 0 = t := by
  simp [List.getD]

theorem getD_first (ts : List Nat) (t : Nat) : (ts ++ [t]).getD 0 0 = ts.head?.getD t := by
  cases ts <;> rfl

/-- The start that `record` computes for the next frame. -/
theorem Tracks.captureStart (tracks : Tracks ts clock) (sorted : (ts ++ [t]).Pairwise (· ≤ ·))
    (fits : (t : Int) - ts.head?.getD t + 20 * ts.length ≤ i64Max) :
    clock.captureStart (t - ts.head?.getD t : Nat) = captureClock (ts ++ [t]) ts.length := by
  have origin : ts.head?.getD t ≤ t := by
    have := getD_mono sorted (Nat.zero_le ts.length) (by simp)
    rwa [getD_first, getD_last] at this
  rw [TranscriptionClock.captureStart, tracks.frames, List.getLast?_map, List.getLast?_range]
  cases length : ts.length with
  | zero =>
    have none : ts = [] := List.length_eq_zero_iff.mp length
    subst none
    simp
  | succ n =>
    have inside : n < ts.length := by omega
    have last : (ts ++ [t]).getD (n + 1) 0 = t := by rw [← length, getD_last]
    have before : ts.getD n 0 ≤ t := by
      have := getD_mono sorted (Nat.le_add_right n 1) (by simp; omega)
      rwa [last, List.getD_append _ _ _ _ inside] at this
    have first : ts.getD 0 0 = ts.head?.getD t := by
      rw [← getD_first, List.getD_append _ _ _ _ (by omega)]
    have high := captureClock_end_le (List.pairwise_append.mp sorted).1 inside
    rw [first] at high
    have low := captureClock_nonneg ts n
    rw [length] at fits
    push_cast at fits
    simp only [Nat.add_one_ne_zero, if_false, Option.map_some, Nat.add_one_sub_one]
    rw [audioFrameDurationMs, wrappingAdd_eq (by omega) (by omega), captureClock_succ,
      captureClock_append inside, last, getD_first]
    omega

/-- A frame is recorded unless the clock of the supplied audio overflows. -/
theorem Tracks.record (tracks : Tracks ts clock) (sorted : (ts ++ [t]).Pairwise (· ≤ ·))
    (fits : (t : Int) - ts.head?.getD t + 20 * ts.length ≤ i64Max) :
    ∃ after, (20 * ((ts.length : Int) + 1) ≤ i64Max →
        clock.record t = (after, .ok ()) ∧ Tracks (ts ++ [t]) after) ∧
      (i64Max < 20 * ((ts.length : Int) + 1) →
        clock.record t = (after, .error "audio clock overflow")) := by
  have origin : ts.head?.getD t ≤ t := by
    have := getD_mono sorted (Nat.zero_le ts.length) (by simp)
    rwa [getD_first, getD_last] at this
  have start := tracks.captureStart sorted fits
  have add : checkedAdd clock.audioEndMs audioFrameDurationMs =
      if 20 * ((ts.length : Int) + 1) ≤ i64Max then some (20 * ((ts.length : Int) + 1)) else none := by
    rw [tracks.audioEnd, audioFrameDurationMs, checkedAdd_eq (by omega), Int.mul_add]
    rfl
  unfold TranscriptionClock.record
  rw [tracks.first, if_neg (by omega), if_neg (by unfold i64Max at fits; omega)]
  simp only
  rw [add]
  by_cases room : 20 * ((ts.length : Int) + 1) ≤ i64Max
  · rw [if_pos room]
    refine ⟨_, fun _ => ⟨rfl, ?_, ?_, ?_⟩, fun full => absurd room (Int.not_le.mpr full)⟩
    · rw [frames_append, ← tracks.frames, ← tracks.audioEnd, ← start]
      rfl
    · cases ts <;> rfl
    · simp
  · rw [if_neg room]
    exact ⟨_, fun fits => absurd fits room, fun _ => rfl⟩

/-- Timestamps that do not fall are recorded exactly when the supplied audio fits its clock. -/
theorem Tracks.recordAll {rest : List Nat} (tracks : Tracks ts clock)
    (sorted : (ts ++ rest).Pairwise (· ≤ ·)) (small : 20 * (ts.length : Int) ≤ i64Max)
    (fits : ∀ k < (ts ++ rest).length,
      ((ts ++ rest).getD k 0 : Int) - (ts ++ rest).getD 0 0 + 20 * k ≤ i64Max) :
    (20 * ((ts ++ rest).length : Int) ≤ i64Max →
      ∃ after, clock.recordAll rest = .ok after ∧ Tracks (ts ++ rest) after) ∧
    (i64Max < 20 * ((ts ++ rest).length : Int) →
      clock.recordAll rest = .error "audio clock overflow") := by
  induction rest generalizing ts clock with
  | nil =>
    rw [List.append_nil]
    exact ⟨fun _ => ⟨clock, rfl, tracks⟩, fun full => absurd small (Int.not_le.mpr full)⟩
  | cons t rest ih =>
    have joined : ts ++ t :: rest = (ts ++ [t]) ++ rest := by simp
    rw [joined] at sorted fits ⊢
    have first := (List.pairwise_append.mp sorted).1
    have here := fits ts.length (by simp)
    rw [List.getD_append (ts ++ [t]) rest 0 ts.length (by simp),
      List.getD_append (ts ++ [t]) rest 0 0 (by simp), getD_last, getD_first] at here
    obtain ⟨after, recorded, overflows⟩ := tracks.record first here
    rw [TranscriptionClock.recordAll]
    by_cases room : 20 * ((ts.length : Int) + 1) ≤ i64Max
    · obtain ⟨recorded, tracks⟩ := recorded room
      rw [recorded]
      exact ih tracks sorted (by simpa using room) fits
    · rw [overflows (Int.not_le.mp room)]
      refine ⟨fun long => ?_, fun _ => rfl⟩
      simp only [List.length_append, List.length_singleton] at long
      push_cast at long
      omega

/--
Frame `i` of `n` is the one a boundary belongs to: it reaches the boundary, and an edge between two
frames is the start of the following one or the end of the preceding one.
-/
structure Holds (n i : Nat) (timeMs : Int) (isEnd : Bool) : Prop where
  inside : i < n
  low : 20 * (i : Int) ≤ timeMs
  high : timeMs ≤ 20 * (i + 1)
  preceding : timeMs = 20 * i → isEnd = true → i = 0
  following : timeMs = 20 * (i + 1) → isEnd = false → i + 1 = n

variable {n : Nat} {x y : Int} {isEnd isEnd' : Bool}

theorem holds_start (low : 0 ≤ x) (high : x ≤ 20 * ((n : Int) + 1)) :
    Holds (n + 1) (min n (x / 20).toNat) x false where
  inside := by omega
  low := by omega
  high := by omega
  preceding _ mistaken := absurd mistaken Bool.false_ne_true
  following := by omega

theorem holds_end (low : 0 ≤ x) (high : x ≤ 20 * ((n : Int) + 1)) :
    Holds (n + 1) ((x - 1) / 20).toNat x true where
  inside := by omega
  low := by omega
  high := by omega
  preceding := by omega
  following _ mistaken := absurd mistaken.symm Bool.false_ne_true

theorem holds_exists (low : 0 ≤ x) (high : x ≤ 20 * ((n : Int) + 1)) :
    ∃ i, Holds (n + 1) i x isEnd := by
  cases isEnd with
  | false => exact ⟨_, holds_start low high⟩
  | true => exact ⟨_, holds_end low high⟩

/-- The last index at which a test succeeds. -/
theorem find?_reverse_range {p : Nat → Bool} (inside : i < n) (here : p i = true)
    (later : ∀ j, i < j → j < n → p j = false) : (List.range n).reverse.find? p = some i := by
  induction n with
  | zero => omega
  | succ n ih =>
    rw [List.range_succ, List.reverse_append, List.reverse_singleton, List.singleton_append]
    rcases Nat.lt_or_eq_of_le (Nat.le_of_lt_succ inside) with below | rfl
    · rw [List.find?_cons_of_neg (by rw [later n below (Nat.lt_add_one n)]; exact Bool.false_ne_true)]
      exact ih below fun j above inside => later j above (Nat.lt_add_right 1 inside)
    · exact List.find?_cons_of_pos here

/-- A boundary is moved as its frame is, if there is room for it. -/
theorem boundary_of_frames {clock : TranscriptionClock} {c : Nat → Int}
    (frames : clock.frames = (List.range n).map fun i => ⟨20 * i, c i⟩)
    (audioEnd : clock.audioEndMs = 20 * n) (holds : Holds n i x isEnd) (nonneg : 0 ≤ c i) :
    clock.boundary x isEnd = if c i + x - 20 * i ≤ i64Max then .ok (c i + x - 20 * i)
      else .error "capture boundary overflow" := by
  obtain ⟨inside, low, high, preceding, following⟩ := holds
  have frame : clock.frames.reverse.find? (fun frame => frame.audioStartMs < x ||
      (!isEnd && frame.audioStartMs == x) || (x == 0 && frame.audioStartMs == 0)) =
        some ⟨20 * i, c i⟩ := by
    rw [frames, ← List.map_reverse, List.find?_map, find?_reverse_range inside]
    · rfl
    · cases isEnd with
      | false => simp; omega
      | true =>
        have first := fun edge => preceding edge rfl
        simp
        omega
    · intro j above below
      cases isEnd with
      | false =>
        have last := fun edge => following edge rfl
        simp
        omega
      | true => simp; omega
  unfold TranscriptionClock.boundary
  rw [frame, if_neg (by omega)]
  simp only
  rw [checkedAdd_eq (by omega), ← Int.add_sub_assoc]
  by_cases room : c i + x - 20 * i ≤ i64Max
  · rw [if_pos room, if_pos room]
  · rw [if_neg room, if_neg room]

theorem Tracks.boundary (tracks : Tracks ts clock) (holds : Holds ts.length i x isEnd)
    (room : captureClock ts i + 20 ≤ i64Max) :
    clock.boundary x isEnd = .ok (captureClock ts i + x - 20 * i) := by
  have high := holds.high
  rw [boundary_of_frames tracks.frames tracks.audioEnd holds (captureClock_nonneg ts i),
    if_pos (by omega)]

/-- Boundaries in order lie in frames in order, except for a start and an end on one edge. -/
theorem Holds.le (holds : Holds n i x isEnd) (holds' : Holds n j y isEnd') (below : x ≤ y)
    (apart : x < y ∨ isEnd = true ∨ isEnd' = false) : i ≤ j := by
  obtain ⟨inside, low, high, preceding, following⟩ := holds
  obtain ⟨inside', low', high', preceding', following'⟩ := holds'
  by_contra above
  have edge : x = 20 * i ∧ y = 20 * (j + 1) := by omega
  rcases apart with apart | isEnd | isStart
  · omega
  · have := preceding edge.1 isEnd
    omega
  · have := following' edge.2 isStart
    omega

theorem boundary_inside (h : clock.boundary x isEnd = .ok y) : 0 ≤ x ∧ x ≤ clock.audioEndMs := by
  unfold TranscriptionClock.boundary at h
  split at h
  · cases h
  · omega

/-- No frame ends later than the last one can. -/
theorem captureClock_room (sorted : ts.Pairwise (· ≤ ·)) (length : ts.length = n + 1)
    (fits : (ts.getD n 0 : Int) - ts.getD 0 0 + 20 * n ≤ i64Max)
    (room : 20 * ((n : Int) + 1) ≤ i64Max) (inside : i < ts.length) :
    captureClock ts i + 20 ≤ i64Max := by
  have := captureClock_end_le sorted inside
  have := getD_mono sorted (by omega : i ≤ n) (by omega)
  omega

/-- A boundary of a clock in use, and the frame it belongs to. -/
theorem Tracks.of_boundary (tracks : Tracks ts clock) (length : ts.length = n + 1)
    (room : ∀ i < ts.length, captureClock ts i + 20 ≤ i64Max) (h : clock.boundary x isEnd = .ok y) :
    ∃ i, Holds ts.length i x isEnd ∧ y = captureClock ts i + x - 20 * i := by
  have inside := boundary_inside h
  rw [tracks.audioEnd, length] at inside
  push_cast at inside
  obtain ⟨i, holds⟩ := holds_exists inside.1 inside.2
  rw [← length] at holds
  refine ⟨i, holds, ?_⟩
  cases (tracks.boundary holds (room i holds.inside)).symm.trans h
  rfl

/-- Of two boundaries in order the later one is moved by at least as much. -/
theorem Tracks.boundary_gap {x' y' : Int} (tracks : Tracks ts clock) (length : ts.length = n + 1)
    (room : ∀ i < ts.length, captureClock ts i + 20 ≤ i64Max)
    (hx : clock.boundary x isEnd = .ok x') (hy : clock.boundary y isEnd' = .ok y') (below : x ≤ y)
    (apart : x < y ∨ isEnd = true ∨ isEnd' = false) : y - x ≤ y' - x' := by
  obtain ⟨i, holds, rfl⟩ := tracks.of_boundary length room hx
  obtain ⟨j, holds', rfl⟩ := tracks.of_boundary length room hy
  have := captureClock_mono ts (holds.le holds' below apart)
  omega

/-- The boundaries of a mapped token; a point's start is mapped as its end. -/
theorem of_mapToken {token token' : TranscriptToken} (h : clock.mapToken token = .ok token') :
    clock.boundary token.startTimeMs (token.startTimeMs == token.endTimeMs) =
      .ok token'.startTimeMs ∧ clock.boundary token.endTimeMs true = .ok token'.endTimeMs := by
  obtain ⟨start, started, h⟩ := Except.of_bind_ok h
  obtain ⟨stop, stopped, h⟩ := Except.of_bind_ok h
  cases h
  refine ⟨started, ?_⟩
  cases point : token.startTimeMs == token.endTimeMs with
  | true =>
    rw [point] at started stopped
    cases stopped
    rwa [← beq_iff_eq.mp point]
  | false =>
    rw [point] at stopped
    exact stopped

/-- What mapping keeps of the tokens of an utterance. -/
structure KeepsOrder (tokens tokens' : List TranscriptToken) : Prop where
  length : tokens'.length = tokens.length
  point : ∀ (p : Nat) (a a' : TranscriptToken), tokens[p]? = some a → tokens'[p]? = some a' →
    a.startTimeMs = a.endTimeMs → a'.startTimeMs = a'.endTimeMs
  duration : ∀ (p : Nat) (a a' : TranscriptToken), tokens[p]? = some a → tokens'[p]? = some a' →
    a.startTimeMs < a.endTimeMs → a.endTimeMs - a.startTimeMs ≤ a'.endTimeMs - a'.startTimeMs
  order : ∀ (p q : Nat) (a a' b b' : TranscriptToken), tokens[p]? = some a →
    tokens'[p]? = some a' → tokens[q]? = some b → tokens'[q]? = some b' →
    a.startTimeMs ≤ a.endTimeMs → a.endTimeMs ≤ b.startTimeMs → b.startTimeMs ≤ b.endTimeMs →
    a'.startTimeMs ≤ a'.endTimeMs ∧ a'.endTimeMs ≤ b'.startTimeMs ∧ b'.startTimeMs ≤ b'.endTimeMs

theorem Tracks.mapToken_gap {a a' : TranscriptToken} (tracks : Tracks ts clock)
    (length : ts.length = n + 1) (room : ∀ i < ts.length, captureClock ts i + 20 ≤ i64Max)
    (h : clock.mapToken a = .ok a') (forward : a.startTimeMs ≤ a.endTimeMs) :
    a.endTimeMs - a.startTimeMs ≤ a'.endTimeMs - a'.startTimeMs := by
  obtain ⟨start, stop⟩ := of_mapToken h
  apply tracks.boundary_gap length room start stop forward
  rcases Int.lt_or_eq_of_le forward with longer | point
  · exact .inl longer
  · exact .inr (.inl (beq_iff_eq.mpr point))

theorem Tracks.keepsOrder {utterance utterance' : FinalTranscriptUtterance}
    (tracks : Tracks ts clock) (length : ts.length = n + 1)
    (room : ∀ i < ts.length, captureClock ts i + 20 ≤ i64Max)
    (h : clock.map utterance = .ok utterance') : KeepsOrder utterance.tokens utterance'.tokens := by
  obtain ⟨start, -, h⟩ := Except.of_bind_ok h
  obtain ⟨stop, -, h⟩ := Except.of_bind_ok h
  obtain ⟨tokens, mapped, h⟩ := Except.of_bind_ok h
  have images := Except.forall₂_of_mapM_ok mapped
  have same : utterance'.tokens = tokens := by
    split at h <;> cases h
    rfl
  have image : ∀ {p : Nat} {a a' : TranscriptToken}, utterance.tokens[p]? = some a →
      utterance'.tokens[p]? = some a' → clock.mapToken a = .ok a' := by
    intro p a a' ha ha'
    rw [same] at ha'
    obtain ⟨inside, rfl⟩ := List.getElem?_eq_some_iff.mp ha
    obtain ⟨inside', rfl⟩ := List.getElem?_eq_some_iff.mp ha'
    exact images.get inside inside'
  constructor
  · rw [same]
    exact images.length_eq.symm
  · intro p a a' ha ha' point
    obtain ⟨start, stop⟩ := of_mapToken (image ha ha')
    rw [beq_iff_eq.mpr point, point] at start
    exact Except.ok.inj (start.symm.trans stop)
  · intro p a a' ha ha' longer
    exact tracks.mapToken_gap length room (image ha ha') (Int.le_of_lt longer)
  · intro p q a a' b b' ha ha' hb hb' first between second
    have gapA := tracks.mapToken_gap length room (image ha ha') first
    have gapB := tracks.mapToken_gap length room (image hb hb') second
    have gap := tracks.boundary_gap length room (of_mapToken (image ha ha')).2
      (of_mapToken (image hb hb')).1 between (.inr (.inl rfl))
    omega

end TranscriptionClock

open TranscriptionClock in
/--
The clock of frames whose timestamps do not fall: where each frame lies, which boundaries it maps
and where to, and that a mapped utterance keeps its tokens in order.
-/
theorem transcription_clock_reference {ts : List Nat} {n : Nat} (length : ts.length = n + 1)
    (sorted : ts.Pairwise (· ≤ ·))
    (fits : (ts.getD n 0 : Int) - ts.getD 0 0 + 20 * n ≤ i64Max) :
    ((∃ clock, recordAll {} ts = .ok clock) ↔ 20 * ((n : Int) + 1) ≤ i64Max) ∧
    ∀ clock, recordAll {} ts = .ok clock →
      clock.frames = (List.range (n + 1)).map (fun i => ⟨20 * i, captureClock ts i⟩) ∧
      (∀ x isEnd, (∃ y, clock.boundary x isEnd = .ok y) ↔ 0 ≤ x ∧ x ≤ 20 * ((n : Int) + 1)) ∧
      (∀ x isEnd y, clock.boundary x isEnd = .ok y ↔
        ∃ i, Holds (n + 1) i x isEnd ∧ y = captureClock ts i + x - 20 * i) ∧
      ∀ utterance utterance', clock.map utterance = .ok utterance' →
        KeepsOrder utterance.tokens utterance'.tokens := by
  have each : ∀ k < ts.length, (ts.getD k 0 : Int) - ts.getD 0 0 + 20 * k ≤ i64Max := by
    intro k inside
    have := getD_mono sorted (by omega : k ≤ n) (by omega)
    omega
  obtain ⟨records, overflows⟩ := tracks_nil.recordAll sorted (by decide) each
  simp only [List.nil_append, length] at records overflows
  push_cast at records overflows
  constructor
  · constructor
    · rintro ⟨clock, recorded⟩
      by_contra full
      cases (overflows (Int.not_le.mp full)).symm.trans recorded
    · intro room
      obtain ⟨clock, recorded, -⟩ := records room
      exact ⟨clock, recorded⟩
  · intro clock recorded
    have room : 20 * ((n : Int) + 1) ≤ i64Max := by
      by_contra full
      cases (overflows (Int.not_le.mp full)).symm.trans recorded
    obtain ⟨_, recorded', tracks⟩ := records room
    cases recorded.symm.trans recorded'
    have rooms : ∀ i < ts.length, captureClock ts i + 20 ≤ i64Max := fun i inside =>
      captureClock_room sorted length fits room inside
    have maps : ∀ x isEnd y, clock.boundary x isEnd = .ok y ↔
        ∃ i, Holds (n + 1) i x isEnd ∧ y = captureClock ts i + x - 20 * i := by
      intro x isEnd y
      rw [← length]
      constructor
      · exact tracks.of_boundary length rooms
      · rintro ⟨i, holds, rfl⟩
        exact tracks.boundary holds (rooms i holds.inside)
    refine ⟨length ▸ tracks.frames, ?_, maps, fun _ _ => tracks.keepsOrder length rooms⟩
    intro x isEnd
    constructor
    · rintro ⟨y, h⟩
      have inside := boundary_inside h
      rw [tracks.audioEnd, length] at inside
      push_cast at inside
      exact inside
    · rintro ⟨low, high⟩
      obtain ⟨i, holds⟩ := holds_exists low high
      exact ⟨_, (maps x isEnd _).mpr ⟨i, holds, rfl⟩⟩

/-- Two frames with a gap between them: their common edge ends before it and starts after it. -/
theorem transcription_clock_reference_gap :
    ∃ clock, TranscriptionClock.recordAll {} [900, 2920] = .ok clock ∧
      clock.boundary 20 true = .ok 20 ∧ clock.boundary 20 false = .ok 2020 := by
  obtain ⟨records, maps⟩ := @transcription_clock_reference [900, 2920] 1 rfl (by decide) (by decide)
  obtain ⟨clock, recorded⟩ := records.mpr (by decide)
  obtain ⟨-, -, maps, -⟩ := maps clock recorded
  refine ⟨clock, recorded, (maps 20 true 20).mpr ⟨0, ?_, rfl⟩, (maps 20 false 2020).mpr ⟨1, ?_, rfl⟩⟩
  · constructor <;> decide
  · constructor <;> decide

end Parlando
