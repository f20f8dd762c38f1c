import Parlando.AudioIngress
import Parlando.Proofs.RetainedFrames
import Parlando.Proofs.TranscriptionClock
import Mathlib.Data.List.Nodup
import Mathlib.Data.List.Perm.Subperm
import Mathlib.Data.List.Range

namespace Parlando

open Concurrency

variable {transcribed : Bool} {s s' : AudioIngress} {passed processed : List IngressFrame}

namespace IngressPc

def unrelayed : IngressPc → List IngressFrame
  | checkCurrent message | checkAccepts message | relay message => [message]
  | _ => []

def unqueued : IngressPc → List IngressFrame
  | checkActive message | lockClock message | trySend message => [message]
  | _ => []

def unrecorded : IngressPc → List IngressFrame
  | record message => [message]
  | _ => []

def locked : IngressPc → Bool
  | trySend _ | record _ => true
  | _ => false

end IngressPc

/-- Sequence numbers rise and timestamps do not fall. -/
def InOrder (a b : IngressFrame) : Prop :=
  a.frame.sequence < b.frame.sequence ∧ a.frame.timestampMs ≤ b.frame.timestampMs

def firstFrame (received : List (List UInt8)) : Option AudioFrame :=
  received.findSome? fun bytes => (AudioFrame.decode bytes).toOption

/-- A queued frame is less than 2^63 ms of capture time behind the first one. -/
def inClockRange (queued : List IngressFrame) (message : IngressFrame) : Bool :=
  queued.head?.all fun first =>
    decide (message.frame.timestampMs.toNat - first.frame.timestampMs.toNat < 9223372036854775808)

/-- Where frames start in the audio supplied to the provider. -/
def sampleOffsets (n : Nat) : List Int := (List.range n).map fun i : Nat => 20 * (i : Int)

structure Gated (s : AudioIngress) (passed : List IngressFrame) : Prop where
  received : (passed.map (·.bytes)).Sublist s.received
  decoded : ∀ m ∈ passed, AudioFrame.decode m.bytes = .ok m.frame
  ordered : passed.Pairwise InOrder
  sequence : s.lastSequence = passed.getLast?.map (·.frame.sequence)
  timestamp : s.lastTimestampMs = passed.getLast?.map (·.frame.timestampMs)
  first : s.firstTimestampMs = passed.head?.map (·.frame.timestampMs)
  origin : s.firstTimestampMs = (firstFrame s.received).map (·.timestampMs)
  allowed : ∀ first, s.firstTimestampMs = some first → ∀ m ∈ passed,
    m.frame.timestampMs.toNat - first.toNat ≤ 2 * m.wallElapsedMs + 5000
  relayed : (s.relayed ++ s.pc.unrelayed).Sublist passed
  queued : (s.queued ++ s.pc.unqueued).Sublist s.relayed

structure Corresponds (s : AudioIngress) (processed : List IngressFrame) : Prop where
  lock : s.clockHolder = some .receiveLoop ↔ s.pc.locked = true
  queued : s.queued = processed ++ s.pc.unrecorded
  recorded : s.recorded = processed.filter (inClockRange processed)
  refused : s.refused = processed.filter fun m => !inClockRange processed m
  origin : s.transcriptionClock.firstCaptureMs =
    processed.head?.map (·.frame.timestampMs.toNat)
  audioEnd : s.transcriptionClock.audioEndMs = 20 * s.recorded.length
  starts : s.transcriptionClock.frames.map (·.audioStartMs) <:+ sampleOffsets s.recorded.length

theorem mediaAllowance_le (wall : Nat) : AudioIngress.mediaAllowance wall ≤ 2 * wall + 5000 := by
  unfold AudioIngress.mediaAllowance AudioIngress.saturating
  have := Nat.mod_le wall 18446744073709551616
  omega

theorem of_timingValid {frame : AudioFrame} (h : s.timingValid frame = true) :
    (∀ sequence, s.lastSequence = some sequence → sequence < frame.sequence) ∧
      (∀ timestamp, s.lastTimestampMs = some timestamp → timestamp ≤ frame.timestampMs) ∧
      frame.timestampMs.toNat - (s.streamOrigin frame).toNat ≤ 2 * s.wallElapsedMs + 5000 := by
  simp only [AudioIngress.timingValid, Bool.and_eq_true, Option.all_eq_true_iff_get,
    decide_eq_true_eq] at h
  obtain ⟨⟨sequence, timestamp⟩, media⟩ := h
  refine ⟨fun last here => ?_, fun last here => ?_, media.trans (mediaAllowance_le _)⟩
  · have := sequence (by simp [here])
    simpa [here] using this
  · have := timestamp (by simp [here])
    simpa [here] using this

/-- Nothing holds up the first frame of a stream. -/
theorem timingValid_first {frame : AudioFrame} (sequence : s.lastSequence = none)
    (timestamp : s.lastTimestampMs = none) (first : s.firstTimestampMs = none) :
    s.timingValid frame = true := by
  simp [AudioIngress.timingValid, AudioIngress.streamOrigin, sequence, timestamp, first]

theorem firstFrame_append (received : List (List UInt8)) (bytes : List UInt8) :
    firstFrame (received ++ [bytes]) =
      (firstFrame received).or (AudioFrame.decode bytes).toOption := by
  simp [firstFrame, List.findSome?_append]

/-- In order, nothing stands behind the last frame. -/
theorem inOrder_append {m : IngressFrame} (ordered : passed.Pairwise InOrder)
    (next : ∀ last, passed.getLast? = some last → InOrder last m) :
    (passed ++ [m]).Pairwise InOrder := by
  refine List.pairwise_append.mpr ⟨ordered, List.pairwise_singleton _ _, fun x mem y mem' => ?_⟩
  obtain rfl := List.mem_singleton.mp mem'
  cases passed using List.reverseRecOn with
  | nil => cases mem
  | append_singleton front last =>
    have after := next last (by simp)
    obtain before | here := List.mem_append.mp mem
    · have := (List.pairwise_append.mp ordered).2.2 x before last (List.mem_singleton_self _)
      exact ⟨UInt32.lt_trans this.1 after.1, UInt64.le_trans this.2 after.2⟩
    · obtain rfl := List.mem_singleton.mp here
      exact after

/-- Frames in order are no more than there are sequence numbers. -/
theorem length_le_of_ordered (ordered : passed.Pairwise InOrder) : passed.length ≤ 4294967296 := by
  have distinct : (passed.map (·.frame.sequence.toNat)).Nodup :=
    List.pairwise_map.mpr (ordered.imp fun after => Nat.ne_of_lt after.1)
  have inside : passed.map (·.frame.sequence.toNat) ⊆ List.range 4294967296 := by
    intro x mem
    obtain ⟨m, -, rfl⟩ := List.mem_map.mp mem
    exact List.mem_range.mpr m.frame.sequence.toNat_lt
  have := (List.subperm_of_subset distinct inside).length_le
  simpa using this

theorem head_le_of_ordered {m : IngressFrame} (ordered : passed.Pairwise InOrder)
    (mem : m ∈ passed) : ∀ first, passed.head? = some first →
      first.frame.timestampMs ≤ m.frame.timestampMs := by
  intro first here
  cases passed with
  | nil => cases here
  | cons head rest =>
    cases here
    cases mem with
    | head => exact UInt64.le_refl _
    | tail _ later => exact ((List.pairwise_cons.mp ordered).1 m later).2

theorem sublist_snoc {α : Type} {a b : List α} (h : a.Sublist b) (x : α) :
    (a ++ [x]).Sublist (b ++ [x]) :=
  h.append (List.Sublist.refl [x])

/-- The origin of a stream is the timestamp of its first frame. -/
theorem Gated.streamOrigin {bytes : List UInt8} {frame : AudioFrame} (gated : Gated s passed)
    (decoded : AudioFrame.decode bytes = .ok frame) :
    some (s.streamOrigin frame) =
      (firstFrame (s.received ++ [bytes])).map (·.timestampMs) := by
  rw [firstFrame_append, decoded, AudioIngress.streamOrigin, gated.origin]
  cases firstFrame s.received <;> rfl

/-- A frame with a valid timing is one more that has passed. -/
theorem Gated.pass {bytes : List UInt8} {frame : AudioFrame} (gated : Gated s passed)
    (receiving : s.pc = .receiving) (decoded : AudioFrame.decode bytes = .ok frame)
    (valid : s.timingValid frame = true) :
    Gated { s with
      received := s.received ++ [bytes]
      firstTimestampMs := some (s.streamOrigin frame)
      lastSequence := some frame.sequence
      lastTimestampMs := some frame.timestampMs
      pc := .checkCurrent ⟨bytes, frame, s.wallElapsedMs⟩ }
      (passed ++ [⟨bytes, frame, s.wallElapsedMs⟩]) := by
  obtain ⟨sequence, timestamp, media⟩ := of_timingValid valid
  have relayed : s.relayed.Sublist passed := by
    simpa [receiving, IngressPc.unrelayed] using gated.relayed
  have queued := gated.queued
  rw [receiving] at queued
  constructor
  · rw [List.map_append]
    exact sublist_snoc gated.received bytes
  · intro m mem
    obtain before | here := List.mem_append.mp mem
    · exact gated.decoded m before
    · obtain rfl := List.mem_singleton.mp here
      exact decoded
  · refine inOrder_append gated.ordered fun last here => ⟨sequence _ ?_, timestamp _ ?_⟩
    · rw [gated.sequence, here]
      rfl
    · rw [gated.timestamp, here]
      rfl
  · rw [List.getLast?_concat]
    rfl
  · rw [List.getLast?_concat]
    rfl
  · have first := gated.first
    cases passed with
    | nil => simp [AudioIngress.streamOrigin, first]
    | cons head rest => simp [AudioIngress.streamOrigin, first]
  · exact gated.streamOrigin decoded
  · intro first here m mem
    obtain rfl := Option.some.inj here
    obtain before | here := List.mem_append.mp mem
    · cases known : s.firstTimestampMs with
      | none =>
        rw [gated.first, Option.map_eq_none_iff, List.head?_eq_none_iff] at known
        rw [known] at before
        cases before
      | some first =>
        rw [AudioIngress.streamOrigin, known]
        exact gated.allowed first known m before
    · obtain rfl := List.mem_singleton.mp here
      exact media
  · exact sublist_snoc relayed _
  · exact queued

/-- A frame without changes at most the origin of the stream; the first frame never is such. -/
theorem Gated.miss {bytes : List UInt8} {frame : AudioFrame} (gated : Gated s passed)
    (decoded : AudioFrame.decode bytes = .ok frame) (invalid : ¬s.timingValid frame = true) :
    Gated { s with
      received := s.received ++ [bytes]
      firstTimestampMs := some (s.streamOrigin frame) } passed := by
  obtain ⟨first, known⟩ : ∃ first, s.firstTimestampMs = some first := by
    cases passed with
    | nil => exact absurd (timingValid_first gated.sequence gated.timestamp gated.first) invalid
    | cons head rest => exact ⟨_, gated.first⟩
  have same : some (s.streamOrigin frame) = s.firstTimestampMs := by
    rw [AudioIngress.streamOrigin, known]
    rfl
  exact { gated with
    received := gated.received.trans (List.sublist_append_left _ _)
    first := same.trans gated.first
    origin := gated.streamOrigin decoded
    allowed := fun first here => gated.allowed first (same.symm.trans here) }

theorem Gated.receive (gated : Gated s passed) (receiving : s.pc = .receiving)
    (bytes : List UInt8) : ∃ passed, Gated (s.receive bytes) passed := by
  unfold AudioIngress.receive
  cases decoded : AudioFrame.decode bytes with
  | error error =>
    refine ⟨passed, { gated with
      received := gated.received.trans (List.sublist_append_left _ _), origin := ?_ }⟩
    simp only [firstFrame_append, decoded, gated.origin]
    cases firstFrame s.received <;> rfl
  | ok frame =>
    simp only
    split
    · rename_i valid
      exact ⟨_, gated.pass receiving decoded valid⟩
    · rename_i invalid
      exact ⟨_, gated.miss decoded invalid⟩

/-- What a step can do; the answers the loop asks for move a frame on or give it up. -/
inductive IngressStep (transcribed : Bool) (s : AudioIngress) : AudioIngress → Prop where
  | elapse (ms : Nat) : IngressStep transcribed s { s with wallElapsedMs := s.wallElapsedMs + ms }
  | receive (bytes : List UInt8) (receiving : s.pc = .receiving) :
      IngressStep transcribed s (s.receive bytes)
  | answer (pc : IngressPc) (unrelayed : pc.unrelayed.Sublist s.pc.unrelayed)
      (unqueued : pc.unqueued.Sublist s.pc.unqueued) (before : s.pc.locked = false)
      (after : pc.locked = false) : IngressStep transcribed s { s with pc }
  | relay {message : IngressFrame} (here : s.pc = .relay message) :
      IngressStep transcribed s { s with
        relayed := s.relayed ++ [message]
        pc := if transcribed then .checkActive message else .receiving }
  | lockClock {message : IngressFrame} (here : s.pc = .lockClock message)
      (free : s.clockHolder = none) : IngressStep transcribed s { s with
        pc := .trySend message, clockHolder := some .receiveLoop }
  | accept {message : IngressFrame} (here : s.pc = .trySend message) :
      IngressStep transcribed s { s with queued := s.queued ++ [message], pc := .record message }
  | backpressure {message : IngressFrame} (here : s.pc = .trySend message) :
      IngressStep transcribed s { s with pc := .receiving, clockHolder := none }
  | record {message : IngressFrame} (here : s.pc = .record message) :
      IngressStep transcribed s (s.recordFrame message)
  | lockEvents (free : s.clockHolder = none) :
      IngressStep transcribed s { s with clockHolder := some .eventTask }
  | events (clock : TranscriptionClock) (held : s.clockHolder = some .eventTask)
      (released : clock = s.transcriptionClock ∨
        ∃ p, clock = s.transcriptionClock.discardBefore p) :
      IngressStep transcribed s { s with transcriptionClock := clock, clockHolder := none }

theorem ingress_step {a : IngressAction} (h : s.step transcribed a = some s') :
    IngressStep transcribed s s' := by
  unfold AudioIngress.step at h
  cases a with
  | elapse ms =>
    cases h
    exact .elapse ms
  | receive bytes =>
    simp only at h
    split at h <;> cases h
    rename_i here
    exact .receive bytes here
  | close =>
    simp only at h
    split at h <;> cases h
    rename_i here
    refine .answer _ ?_ ?_ ?_ rfl <;> simp [here, IngressPc.unrelayed, IngressPc.unqueued,
      IngressPc.locked]
  | isCurrent answer =>
    simp only at h
    split at h <;> cases h
    rename_i here
    refine .answer _ ?_ ?_ ?_ ?_ <;> cases answer <;> simp [here, IngressPc.unrelayed,
      IngressPc.unqueued, IngressPc.locked]
  | sessionAcceptsAudio answer =>
    simp only at h
    split at h <;> cases h
    rename_i here
    refine .answer _ ?_ ?_ ?_ ?_ <;> cases answer <;> simp [here, IngressPc.unrelayed,
      IngressPc.unqueued, IngressPc.locked]
  | relayPartner =>
    simp only at h
    split at h <;> cases h
    rename_i here
    exact .relay here
  | sessionIsActive answer =>
    simp only at h
    split at h <;> cases h
    rename_i here
    refine .answer _ ?_ ?_ ?_ ?_ <;> cases answer <;> simp [here, IngressPc.unrelayed,
      IngressPc.unqueued, IngressPc.locked]
  | lockClock =>
    simp only at h
    split at h <;> cases h
    rename_i here free
    exact .lockClock here free
  | trySend accepted =>
    simp only at h
    split at h <;> cases h
    rename_i here
    cases accepted with
    | true => exact .accept here
    | false => exact .backpressure here
  | recordFrame =>
    simp only at h
    split at h <;> cases h
    rename_i here
    exact .record here
  | lockEvents =>
    simp only at h
    split at h <;> cases h
    rename_i free
    exact .lockEvents free
  | discardBefore providerStartMs =>
    simp only at h
    split at h <;> cases h
    rename_i held
    exact .events _ held (.inr ⟨providerStartMs, rfl⟩)
  | unmapped =>
    simp only at h
    split at h <;> cases h
    rename_i held
    exact .events _ held (.inl rfl)

/-- What recording a frame changes. -/
theorem recordFrame_eq (s : AudioIngress) (m : IngressFrame) :
    ∃ recorded refused, s.recordFrame m = { s with
      transcriptionClock := (s.transcriptionClock.record m.frame.timestampMs.toNat).1
      clockHolder := none, pc := .receiving, recorded, refused } ∧
      ((s.transcriptionClock.record m.frame.timestampMs.toNat).2 = .ok () ∧
        recorded = s.recorded ++ [m] ∧ refused = s.refused ∨
      (∃ error, (s.transcriptionClock.record m.frame.timestampMs.toNat).2 = .error error) ∧
        recorded = s.recorded ∧ refused = s.refused ++ [m]) := by
  unfold AudioIngress.recordFrame
  obtain ⟨clock, result⟩ := s.transcriptionClock.record m.frame.timestampMs.toNat
  cases result with
  | ok => exact ⟨_, _, rfl, .inl ⟨rfl, rfl, rfl⟩⟩
  | error error => exact ⟨_, _, rfl, .inr ⟨⟨error, rfl⟩, rfl, rfl⟩⟩

/-- A frame moves on, or is given up, between the timing check and the clock. -/
theorem Gated.step (gated : Gated s passed) (step : IngressStep transcribed s s') :
    ∃ passed, Gated s' passed := by
  have relayed := gated.relayed
  have queued := gated.queued
  cases step with
  | elapse ms => exact ⟨passed, { gated with }⟩
  | receive bytes receiving => exact gated.receive receiving bytes
  | answer pc unrelayed unqueued before after =>
    exact ⟨passed, { gated with
      relayed := ((List.Sublist.refl _).append unrelayed).trans relayed
      queued := ((List.Sublist.refl _).append unqueued).trans queued }⟩
  | relay here =>
    rw [here] at relayed queued
    have handed : s.queued.Sublist s.relayed := by simpa [IngressPc.unqueued] using queued
    cases transcribed with
    | true =>
      exact ⟨passed, { gated with
        relayed := by simpa [IngressPc.unrelayed] using relayed
        queued := sublist_snoc handed _ }⟩
    | false =>
      exact ⟨passed, { gated with
        relayed := by simpa [IngressPc.unrelayed] using relayed
        queued := by
          simpa [IngressPc.unqueued] using handed.trans (List.sublist_append_left _ _) }⟩
  | lockClock here free =>
    rw [here] at relayed queued
    exact ⟨passed, { gated with relayed, queued }⟩
  | accept here =>
    rw [here] at relayed queued
    exact ⟨passed, { gated with
      relayed
      queued := by simpa [IngressPc.unqueued] using queued }⟩
  | backpressure here =>
    rw [here] at relayed queued
    have kept := (List.sublist_append_left _ _).trans queued
    exact ⟨passed, { gated with
      relayed
      queued := by simpa [IngressPc.unqueued] using kept }⟩
  | record here =>
    rw [here] at relayed queued
    obtain ⟨recorded, refused, same, -⟩ := recordFrame_eq s _
    rw [same]
    exact ⟨passed, { gated with relayed, queued }⟩
  | lockEvents free => exact ⟨passed, { gated with }⟩
  | events clock held released => exact ⟨passed, { gated with }⟩

theorem IngressPc.unrecorded_of_unlocked {pc : IngressPc} (unlocked : pc.locked = false) :
    pc.unrecorded = [] := by
  cases pc with
  | record => cases unlocked
  | _ => rfl

theorem inClockRange_append {m x : IngressFrame} {processed : List IngressFrame}
    (mem : x ∈ processed) : inClockRange (processed ++ [m]) x = inClockRange processed x := by
  cases processed with
  | nil => cases mem
  | cons => rfl

theorem filter_inClockRange (m : IngressFrame) (processed : List IngressFrame) :
    processed.filter (inClockRange (processed ++ [m])) = processed.filter (inClockRange processed) ∧
    processed.filter (fun x => !inClockRange (processed ++ [m]) x) =
      processed.filter fun x => !inClockRange processed x :=
  ⟨List.filter_congr fun _ mem => inClockRange_append mem,
    List.filter_congr fun _ mem => congrArg not (inClockRange_append mem)⟩

/-- A frame that is not before the first one is recorded exactly when it is in range. -/
theorem TranscriptionClock.record_cases {clock : TranscriptionClock} {t : Nat}
    (origin : ∀ first, clock.firstCaptureMs = some first → first ≤ t)
    (low : 0 ≤ clock.audioEndMs) (room : clock.audioEndMs + 20 ≤ 9223372036854775807) :
    (clock.record t).1.firstCaptureMs = some (clock.firstCaptureMs.getD t) ∧
    (t - clock.firstCaptureMs.getD t < 9223372036854775808 ∧ (clock.record t).2 = .ok () ∧
      (clock.record t).1.audioEndMs = clock.audioEndMs + 20 ∧
      (∃ c, (clock.record t).1.frames = clock.frames ++ [⟨clock.audioEndMs, c⟩]) ∨
    9223372036854775808 ≤ t - clock.firstCaptureMs.getD t ∧
      (∃ error, (clock.record t).2 = .error error) ∧
      (clock.record t).1.audioEndMs = clock.audioEndMs ∧
      (clock.record t).1.frames = clock.frames) := by
  have forward : clock.firstCaptureMs.getD t ≤ t := by
    cases known : clock.firstCaptureMs with
    | none => exact Nat.le_refl t
    | some first => exact origin first known
  have add : checkedAdd clock.audioEndMs audioFrameDurationMs = some (clock.audioEndMs + 20) := by
    rw [checkedAdd_eq (by unfold audioFrameDurationMs; omega), audioFrameDurationMs,
      if_pos (by unfold i64Max; omega)]
  unfold TranscriptionClock.record
  rw [if_neg (Nat.not_lt.mpr forward)]
  by_cases far : 9223372036854775808 ≤ t - clock.firstCaptureMs.getD t
  · rw [if_pos far]
    exact ⟨rfl, .inr ⟨far, ⟨_, rfl⟩, rfl, rfl⟩⟩
  · rw [if_neg far]
    simp only [add]
    exact ⟨trivial, .inl ⟨Nat.not_le.mp far, trivial, trivial, _, rfl⟩⟩

theorem Corresponds.queued_eq (corresponds : Corresponds s processed)
    (unlocked : s.pc.locked = false) : s.queued = processed := by
  rw [corresponds.queued, IngressPc.unrecorded_of_unlocked unlocked, List.append_nil]

/-- What the first of the queued frames is does not change. -/
theorem head?_map_append {α β : Type} (f : α → β) (processed : List α) (m : α) :
    (processed ++ [m]).head?.map f = some ((processed.head?.map f).getD (f m)) := by
  cases processed <;> rfl

theorem inClockRange_last (processed : List IngressFrame) (m : IngressFrame) :
    inClockRange (processed ++ [m]) m = decide (m.frame.timestampMs.toNat -
      (processed.head?.map (·.frame.timestampMs.toNat)).getD m.frame.timestampMs.toNat <
        9223372036854775808) := by
  cases processed <;> rfl

/-- The next frame the provider has accepted is recorded, or is out of the clock's range. -/
theorem Corresponds.record {m : IngressFrame} (corresponds : Corresponds s processed)
    (here : s.pc = .record m) (ordered : s.queued.Pairwise InOrder) :
    Corresponds (s.recordFrame m) (processed ++ [m]) := by
  have queued : s.queued = processed ++ [m] := by
    rw [corresponds.queued, here]
    rfl
  rw [queued] at ordered
  have short : s.recorded.length + 1 ≤ 4294967296 := by
    have := length_le_of_ordered ordered
    rw [List.length_append, List.length_singleton] at this
    have := List.length_filter_le (inClockRange processed) processed
    rw [corresponds.recorded]
    omega
  have audioEnd := corresponds.audioEnd
  have forward : ∀ first, s.transcriptionClock.firstCaptureMs = some first →
      first ≤ m.frame.timestampMs.toNat := by
    intro first known
    rw [corresponds.origin] at known
    obtain ⟨head, front, rfl⟩ := Option.map_eq_some_iff.mp known
    refine UInt64.le_iff_toNat_le.mp
      (head_le_of_ordered ordered (List.mem_append_right _ (.head _)) head ?_)
    rw [List.head?_append, front]
    rfl
  obtain ⟨recorded, refused, same, result⟩ := recordFrame_eq s m
  obtain ⟨first, outcome⟩ := TranscriptionClock.record_cases forward (by omega) (by omega)
  obtain ⟨taken, left⟩ := filter_inClockRange m processed
  rw [same]
  have origin : (s.transcriptionClock.record m.frame.timestampMs.toNat).1.firstCaptureMs =
      (processed ++ [m]).head?.map (·.frame.timestampMs.toNat) := by
    rw [first, corresponds.origin, head?_map_append]
  have judged := inClockRange_last processed m
  rw [← corresponds.origin] at judged
  obtain ⟨near, accepted, ends, c, frames⟩ | ⟨far, ⟨error, failed⟩, ends, frames⟩ := outcome
  · obtain ⟨-, rfl, rfl⟩ | ⟨⟨error, failed⟩, -⟩ := result
    · have inside : inClockRange (processed ++ [m]) m = true := by
        rw [judged, decide_eq_true near]
      refine ⟨by simp [IngressPc.locked], by simpa [IngressPc.unrecorded] using queued, ?_, ?_,
        origin, ?_, ?_⟩
      · simp [List.filter_append, taken, inside, corresponds.recorded]
      · simp [List.filter_append, left, inside, corresponds.refused]
      · rw [ends, audioEnd]
        simp
        omega
      · obtain ⟨released, starts⟩ := corresponds.starts
        refine ⟨released, ?_⟩
        rw [frames, List.map_append, ← List.append_assoc, starts, audioEnd, List.length_append,
          sampleOffsets, sampleOffsets, List.length_singleton, List.range_succ, List.map_append]
        rfl
    · rw [accepted] at failed
      cases failed
  · obtain ⟨accepted, -⟩ | ⟨-, rfl, rfl⟩ := result
    · rw [failed] at accepted
      cases accepted
    · have outside : inClockRange (processed ++ [m]) m = false := by
        rw [judged, decide_eq_false (Nat.not_lt.mpr far)]
      refine ⟨by simp [IngressPc.locked], by simpa [IngressPc.unrecorded] using queued, ?_, ?_,
        origin, ends.trans audioEnd, ?_⟩
      · simp [List.filter_append, taken, outside, corresponds.recorded]
      · simp [List.filter_append, left, outside, corresponds.refused]
      · rw [frames]
        exact corresponds.starts

/-- Discards release recorded frames from the front. -/
theorem discardBefore_suffix (clock : TranscriptionClock) (p : Int) :
    (clock.discardBefore p).frames <:+ clock.frames := by
  obtain ⟨dropped, same, -⟩ := TranscriptionClock.discardFrames_append p clock.frames
  exact ⟨dropped, same.symm⟩

theorem Corresponds.step (corresponds : Corresponds s processed)
    (ordered : s.queued.Pairwise InOrder) (step : IngressStep transcribed s s') :
    ∃ processed, Corresponds s' processed := by
  obtain ⟨lock, queued, recorded, refused, origin, audioEnd, starts⟩ := corresponds
  cases step with
  | elapse ms => exact ⟨processed, lock, queued, recorded, refused, origin, audioEnd, starts⟩
  | receive bytes receiving =>
    rw [receiving] at lock queued
    refine ⟨processed, ?_⟩
    unfold AudioIngress.receive
    cases AudioFrame.decode bytes with
    | error error =>
      rw [← receiving] at lock queued
      exact ⟨lock, queued, recorded, refused, origin, audioEnd, starts⟩
    | ok frame =>
      simp only
      split
      · exact ⟨lock, queued, recorded, refused, origin, audioEnd, starts⟩
      · rw [← receiving] at lock queued
        exact ⟨lock, queued, recorded, refused, origin, audioEnd, starts⟩
  | answer pc unrelayed unqueued before after =>
    refine ⟨processed, ?_, ?_, recorded, refused, origin, audioEnd, starts⟩
    · rw [lock, before, after]
    · rw [queued, IngressPc.unrecorded_of_unlocked before, IngressPc.unrecorded_of_unlocked after]
  | relay here =>
    rw [here] at lock queued
    cases transcribed with
    | true => exact ⟨processed, lock, queued, recorded, refused, origin, audioEnd, starts⟩
    | false => exact ⟨processed, lock, queued, recorded, refused, origin, audioEnd, starts⟩
  | lockClock here free =>
    rw [here] at queued
    exact ⟨processed, by simp [IngressPc.locked], queued, recorded, refused, origin, audioEnd,
      starts⟩
  | accept here =>
    rw [here] at lock queued
    refine ⟨processed, lock, ?_, recorded, refused, origin, audioEnd, starts⟩
    rw [queued]
    simp [IngressPc.unrecorded]
  | backpressure here =>
    rw [here] at queued
    exact ⟨processed, by simp [IngressPc.locked], queued, recorded, refused, origin, audioEnd,
      starts⟩
  | record here =>
    have corresponds : Corresponds s processed :=
      ⟨lock, queued, recorded, refused, origin, audioEnd, starts⟩
    exact ⟨_, corresponds.record here ordered⟩
  | lockEvents free =>
    refine ⟨processed, ?_, queued, recorded, refused, origin, audioEnd, starts⟩
    rw [free] at lock
    simpa using lock
  | events clock held released =>
    have unlocked : s.pc.locked = false := by simpa [held] using lock
    obtain rfl | ⟨p, rfl⟩ := released
    · exact ⟨processed, by simp [unlocked], queued, recorded, refused, origin, audioEnd,
        starts⟩
    · have shorter := (discardBefore_suffix s.transcriptionClock p).map (·.audioStartMs)
      exact ⟨processed, by simp [unlocked], queued, recorded, refused, origin, audioEnd,
        shorter.trans starts⟩

theorem ingress_invariant (run : (audioIngressMachine transcribed).Run Machine.unguarded {} s) :
    ∃ passed processed, Gated s passed ∧ Corresponds s processed := by
  refine run.invariant ⟨[], [], ?_, ?_⟩ ?_
  · constructor <;> simp [firstFrame, IngressPc.unrelayed, IngressPc.unqueued]
  · constructor <;> simp [IngressPc.locked, IngressPc.unrecorded, sampleOffsets]
  · rintro s s' a ⟨passed, processed, gated, corresponds⟩ - h
    have step := ingress_step h
    have relayed := (List.sublist_append_left _ _).trans gated.relayed
    have queued := (List.sublist_append_left _ _).trans gated.queued
    obtain ⟨passed', gated'⟩ := gated.step step
    obtain ⟨processed', corresponds'⟩ :=
      corresponds.step (gated.ordered.sublist (queued.trans relayed)) step
    exact ⟨passed', processed', gated', corresponds'⟩

/--
The ingress gate: what is relayed has been received, in order and no faster than the allowance;
the provider is given relayed frames, and each of them that is in the clock's range is recorded.
-/
theorem audio_ingress_gate (run : (audioIngressMachine transcribed).Run Machine.unguarded {} s) :
    (s.relayed.map (·.bytes)).Sublist s.received ∧
    (∀ m ∈ s.relayed, AudioFrame.decode m.bytes = .ok m.frame) ∧
    s.relayed.Pairwise InOrder ∧
    (∀ first, firstFrame s.received = some first → ∀ m ∈ s.relayed,
      m.frame.timestampMs.toNat - first.timestampMs.toNat ≤ 2 * m.wallElapsedMs + 5000) ∧
    s.queued.Sublist s.relayed ∧
    (s.clockHolder ≠ some .receiveLoop →
      s.recorded = s.queued.filter (inClockRange s.queued) ∧
      s.refused = s.queued.filter (fun m => !inClockRange s.queued m) ∧
      s.transcriptionClock.audioEndMs = 20 * s.recorded.length ∧
      s.transcriptionClock.frames.map (·.audioStartMs) <:+ sampleOffsets s.recorded.length) ∧
    (∀ m ∈ s.queued, 2 * m.wallElapsedMs + 5000 < 9223372036854775808 →
      inClockRange s.queued m = true) := by
  obtain ⟨passed, processed, gated, corresponds⟩ := ingress_invariant run
  have relayed := (List.sublist_append_left _ _).trans gated.relayed
  have queued := (List.sublist_append_left _ _).trans gated.queued
  refine ⟨(relayed.map _).trans gated.received,
    fun m mem => gated.decoded m (relayed.subset mem), gated.ordered.sublist relayed,
    fun first here m mem => gated.allowed _ ?_ m (relayed.subset mem), queued,
    fun unlocked => ?_, fun m mem soon => ?_⟩
  · rw [gated.origin, here]
    rfl
  · have same := corresponds.queued_eq
      (Bool.eq_false_iff.mpr fun locked => unlocked (corresponds.lock.mpr locked))
    rw [same]
    exact ⟨corresponds.recorded, corresponds.refused, corresponds.audioEnd, corresponds.starts⟩
  · have mem := relayed.subset (queued.subset mem)
    refine (Option.all_eq_true _ _).mpr fun first here => decide_eq_true ?_
    have later := relayed.subset (queued.subset (List.mem_of_head? here))
    obtain ⟨head, front⟩ : ∃ head, passed.head? = some head := by
      cases passed with
      | nil => cases mem
      | cons head rest => exact ⟨head, rfl⟩
    have allowed := gated.allowed _ (by rw [gated.first, front]; rfl) m mem
    have before := UInt64.le_iff_toNat_le.mp (head_le_of_ordered gated.ordered later head front)
    simp only at allowed
    omega

def ingressOf (bytes : List UInt8) : List IngressAction :=
  [.receive bytes, .isCurrent true, .sessionAcceptsAudio true, .relayPartner,
    .sessionIsActive true, .lockClock, .trySend true, .recordFrame]

def ingressMessage (sequence : UInt32) (timestampMs : UInt64) : List UInt8 :=
  AudioFrame.encode ⟨sequence, timestampMs, List.replicate audioFrameBytes 0⟩

theorem audio_ingress_gate_frame : ∃ s,
    (audioIngressMachine true).Run Machine.unguarded {} s ∧ s.recorded.length = 1 ∧
    s.recorded = s.queued.filter (inClockRange s.queued) := by
  have ran : ((audioIngressMachine true).exec {} (ingressOf (ingressMessage 0 40))).map
      (fun s => (s.recorded.length, s.clockHolder)) = some (1, none) := by decide +kernel
  obtain ⟨s, ran, outcome⟩ := Option.map_eq_some_iff.mp ran
  obtain ⟨recorded, free⟩ := Prod.mk.inj outcome
  have run := Machine.Run.of_exec_unguarded ran
  exact ⟨s, run, recorded,
    ((audio_ingress_gate run).2.2.2.2.2.1 (by simp [free])).1⟩

/-- After 2^62 milliseconds a frame may pass that the clock has no capture time for. -/
theorem late_frame_unrecorded : ¬∀ s, (audioIngressMachine true).Run Machine.unguarded {} s →
    s.clockHolder ≠ some .receiveLoop → s.recorded.length = s.queued.length ∧ s.refused = [] := by
  intro corresponds
  have ran : ((audioIngressMachine true).exec {} (ingressOf (ingressMessage 0 0) ++
      [.elapse 4611686018427387904] ++ ingressOf (ingressMessage 1 9223372036854775808))).map
      (fun s => (s.recorded.length, s.queued.length, s.clockHolder)) = some (1, 2, none) := by
    decide +kernel
  obtain ⟨s, ran, outcome⟩ := Option.map_eq_some_iff.mp ran
  simp only [Prod.mk.injEq] at outcome
  obtain ⟨recorded, queued, free⟩ := outcome
  have same := (corresponds s (Machine.Run.of_exec_unguarded ran) (by simp [free])).1
  omega

end Parlando
