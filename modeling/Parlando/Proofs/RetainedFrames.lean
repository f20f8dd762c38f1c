import Parlando.TranscriptionClock

namespace Parlando

namespace TranscriptionClock

/-- A part at the front has been released; then the first frame left starts before a discard. -/
structure Retains (discards : List Int) (full kept : TranscriptionClock) : Prop where
  first : kept.firstCaptureMs = full.firstCaptureMs
  audioEnd : kept.audioEndMs = full.audioEndMs
  frames : ∃ dropped, full.frames = dropped ++ kept.frames ∧
    (dropped ≠ [] → ∃ first rest p, kept.frames = first :: rest ∧ p ∈ discards ∧
      first.audioStartMs < p)

variable {discards : List Int} {full kept : TranscriptionClock}

theorem Retains.refl (clock : TranscriptionClock) : Retains [] clock clock :=
  ⟨rfl, rfl, [], rfl, fun some => absurd rfl some⟩

/-- A discard releases frames up to one that starts before it. -/
theorem discardFrames_append (p : Int) (frames : List ClockFrame) :
    ∃ dropped, frames = dropped ++ discardFrames p frames ∧
      (dropped ≠ [] → ∃ first rest, discardFrames p frames = first :: rest ∧
        first.audioStartMs < p) := by
  induction frames with
  | nil => exact ⟨[], rfl, fun some => absurd rfl some⟩
  | cons first frames ih =>
    cases frames with
    | nil => exact ⟨[], rfl, fun some => absurd rfl some⟩
    | cons next rest =>
      simp only [discardFrames]
      split
      · rename_i before
        obtain ⟨dropped, split, starts⟩ := ih
        refine ⟨first :: dropped, ?_, fun _ => ?_⟩
        · rw [List.cons_append, ← split]
        · cases dropped with
          | nil => exact ⟨next, rest, split.symm, before⟩
          | cons => exact starts (List.cons_ne_nil _ _)
      · exact ⟨[], rfl, fun some => absurd rfl some⟩

theorem Retains.discardBefore (retains : Retains discards full kept) (p : Int) :
    Retains (discards ++ [p]) full (kept.discardBefore p) := by
  obtain ⟨first, audioEnd, dropped, all, starts⟩ := retains
  obtain ⟨more, rest, starts'⟩ := discardFrames_append p kept.frames
  refine ⟨first, audioEnd, dropped ++ more, ?_, fun some => ?_⟩
  · rw [List.append_assoc]
    change full.frames = dropped ++ (more ++ discardFrames p kept.frames)
    rw [← rest, all]
  · cases more with
    | nil =>
      obtain ⟨frame, frames, q, here, mem, before⟩ := starts (by simpa using some)
      refine ⟨frame, frames, q, ?_, List.mem_append_left _ mem, before⟩
      exact rest.symm.trans here
    | cons =>
      obtain ⟨frame, frames, here, before⟩ := starts' (List.cons_ne_nil _ _)
      exact ⟨frame, frames, p, here, List.mem_append_right _ (List.mem_singleton_self p), before⟩

/-- The last frame is never released. -/
theorem Retains.getLast? (retains : Retains discards full kept) :
    kept.frames.getLast? = full.frames.getLast? := by
  obtain ⟨-, -, dropped, all, starts⟩ := retains
  rw [all, List.getLast?_append]
  cases here : kept.frames with
  | nil =>
    have none : dropped = [] := by
      by_contra some
      obtain ⟨_, _, _, same, _⟩ := starts some
      rw [here] at same
      cases same
    simp [none]
  | cons frame rest =>
    rw [List.getLast?_cons]
    rfl

/-- A call of `record` does the same to both clocks. -/
theorem Retains.record (retains : Retains discards full kept) (t : Nat) :
    (kept.record t).2 = (full.record t).2 ∧ Retains discards (full.record t).1 (kept.record t).1 ∧
      ∃ added, (kept.record t).1.frames = kept.frames ++ added ∧
        (full.record t).1.frames = full.frames ++ added := by
  have last := retains.getLast?
  obtain ⟨first, audioEnd, dropped, all, starts⟩ := retains
  have grown (added : List ClockFrame) : full.frames ++ added = dropped ++ (kept.frames ++ added) ∧
      (dropped ≠ [] → ∃ first rest p, kept.frames ++ added = first :: rest ∧ p ∈ discards ∧
        first.audioStartMs < p) := by
    refine ⟨by rw [all, List.append_assoc], fun some => ?_⟩
    obtain ⟨frame, rest, p, here, mem, before⟩ := starts some
    exact ⟨frame, rest ++ added, p, by rw [here, List.cons_append], mem, before⟩
  unfold TranscriptionClock.record
  simp only [first, audioEnd]
  split
  · exact ⟨rfl, ⟨rfl, rfl, dropped, all, starts⟩, [], by simp, by simp⟩
  · split
    · exact ⟨rfl, ⟨rfl, rfl, dropped, all, starts⟩, [], by simp, by simp⟩
    · simp only [captureStart, last]
      split
      · exact ⟨rfl, ⟨rfl, rfl, dropped, grown _⟩, _, rfl, rfl⟩
      · exact ⟨rfl, ⟨rfl, rfl, dropped, grown _⟩, _, rfl, rfl⟩

/-- What the kept frames do not decide, the released ones may. -/
theorem find?_released (dropped frames : List ClockFrame) (p : ClockFrame → Bool) :
    (dropped ++ frames).reverse.find? p =
      (frames.reverse.find? p).or (dropped.reverse.find? p) := by
  rw [List.reverse_append, List.find?_append]

/-- A boundary is refused or the one of the clock that kept everything. -/
theorem Retains.boundary (retains : Retains discards full kept) (x : Int) (isEnd : Bool) :
    (∃ error, kept.boundary x isEnd = .error error) ∨
      kept.boundary x isEnd = full.boundary x isEnd := by
  obtain ⟨-, audioEnd, dropped, all, -⟩ := retains
  unfold TranscriptionClock.boundary
  rw [audioEnd, all, find?_released]
  split
  · exact .inl ⟨_, rfl⟩
  · cases kept.frames.reverse.find? fun frame => frame.audioStartMs < x ||
        (!isEnd && frame.audioStartMs == x) || (x == 0 && frame.audioStartMs == 0) with
    | none => exact .inl ⟨_, rfl⟩
    | some frame => exact .inr rfl

/-- From the last discard on the first frame left decides. -/
theorem Retains.boundary_eq (retains : Retains discards full kept) {x : Int} (isEnd : Bool)
    (later : ∀ p ∈ discards, p ≤ x) : kept.boundary x isEnd = full.boundary x isEnd := by
  obtain ⟨-, audioEnd, dropped, all, starts⟩ := retains
  unfold TranscriptionClock.boundary
  rw [audioEnd, all, find?_released]
  by_cases none : dropped = []
  · simp [none]
  · obtain ⟨frame, rest, p, here, mem, before⟩ := starts none
    have reaches := later p mem
    obtain ⟨found, search⟩ : ∃ found, kept.frames.reverse.find? (fun frame =>
        frame.audioStartMs < x || (!isEnd && frame.audioStartMs == x) ||
          (x == 0 && frame.audioStartMs == 0)) = some found := by
      rw [← Option.isSome_iff_exists, List.find?_isSome]
      refine ⟨frame, by simp [here], ?_⟩
      have : frame.audioStartMs < x := by omega
      simp [this]
    rw [search]
    rfl

/-- What the discards in a sequence of calls release. -/
theorem Retains.after (retains : Retains discards full kept) (calls : List ClockCall) :
    ∃ more, (∀ p ∈ more, ClockCall.discardBefore p ∈ calls) ∧
      Retains (discards ++ more) (full.after (calls.filter ClockCall.isRecord))
        (kept.after calls) := by
  induction calls generalizing discards full kept with
  | nil =>
    refine ⟨[], by simp, ?_⟩
    rw [List.append_nil]
    exact retains
  | cons call calls ih =>
    cases call with
    | record t =>
      obtain ⟨more, made, retains⟩ := ih (retains.record t).2.1
      exact ⟨more, fun p mem => List.mem_cons_of_mem _ (made p mem), retains⟩
    | discardBefore p =>
      obtain ⟨more, made, retains⟩ := ih (retains.discardBefore p)
      refine ⟨p :: more, fun q mem => ?_, ?_⟩
      · rcases List.mem_cons.mp mem with rfl | mem
        · exact List.mem_cons_self
        · exact List.mem_cons_of_mem _ (made q mem)
      · rw [List.append_cons]
        exact retains

/-- The same frames are recorded from then on, and the same calls are refused. -/
theorem Retains.recordMore (retains : Retains discards full kept) (ts : List Nat) :
    ∃ added, (kept.after (ts.map .record)).frames = kept.frames ++ added ∧
      (full.after (ts.map .record)).frames = full.frames ++ added := by
  induction ts generalizing full kept with
  | nil => exact ⟨[], (List.append_nil _).symm, (List.append_nil _).symm⟩
  | cons t ts ih =>
    obtain ⟨-, retains, first, here, there⟩ := retains.record t
    obtain ⟨rest, here', there'⟩ := ih retains
    refine ⟨first ++ rest, ?_, ?_⟩
    · rw [← List.append_assoc, ← here]
      exact here'
    · rw [← List.append_assoc, ← there]
      exact there'

end TranscriptionClock

open TranscriptionClock in
/--
A clock that discards frames differs from one that does not only in refusing boundaries, and only
ones before a discard; from then on both record the same frames.
-/
theorem discarded_frames_invisible (calls : List ClockCall) :
    (∀ x isEnd, (∃ error, (after {} calls).boundary x isEnd = .error error) ∨
      (after {} calls).boundary x isEnd =
        (after {} (calls.filter ClockCall.isRecord)).boundary x isEnd) ∧
    (∀ x isEnd, (∀ p, ClockCall.discardBefore p ∈ calls → p ≤ x) →
      (after {} calls).boundary x isEnd =
        (after {} (calls.filter ClockCall.isRecord)).boundary x isEnd) ∧
    ∀ ts : List Nat, ∃ added,
      ((after {} calls).after (ts.map .record)).frames = (after {} calls).frames ++ added ∧
      ((after {} (calls.filter ClockCall.isRecord)).after (ts.map .record)).frames =
        (after {} (calls.filter ClockCall.isRecord)).frames ++ added := by
  obtain ⟨discards, made, retains⟩ := (Retains.refl {}).after calls
  refine ⟨retains.boundary, fun x isEnd later => ?_, retains.recordMore⟩
  exact retains.boundary_eq isEnd fun p mem => later p (made p mem)

end Parlando
