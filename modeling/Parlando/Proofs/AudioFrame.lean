import Parlando.AudioFrame
import Mathlib.Data.Nat.Bitwise
import Mathlib.Algebra.Order.Ring.Rat
import Mathlib.Data.Nat.Cast.Order.Ring

namespace Parlando

namespace AudioFrame

variable {frame : AudioFrame} {bytes : List UInt8}

theorem length_encode (frame : AudioFrame) :
    frame.encode.length = audioHeaderBytes + frame.pcm.length := by
  simp [encode, audioHeaderBytes]
  omega

/-- The header of an encoded frame holds its fields. -/
theorem decode_encode (complete : frame.pcm.length = audioFrameBytes) :
    decode frame.encode = .ok frame := by
  have length := length_encode frame
  unfold decode
  rw [if_neg (by rw [length, complete]; simp)]
  have first : frame.encode.headD 0 = audioProtocolVersion := rfl
  have sequence : (frame.encode.drop 1).take 4 = beBytes 4 frame.sequence.toNat := by
    change List.take 4 (beBytes 4 frame.sequence.toNat ++ beBytes 8 frame.timestampMs.toNat ++
      frame.pcm) = _
    rw [List.append_assoc, List.take_left' (length_beBytes _ _)]
  have timestampMs : (frame.encode.drop 5).take 8 = beBytes 8 frame.timestampMs.toNat := by
    change List.take 8 (List.drop 4 (beBytes 4 frame.sequence.toNat ++
      beBytes 8 frame.timestampMs.toNat ++ frame.pcm)) = _
    rw [List.append_assoc, List.drop_left' (length_beBytes _ _),
      List.take_left' (length_beBytes _ _)]
  have pcm : frame.encode.drop audioHeaderBytes = frame.pcm := by
    change List.drop 12 (beBytes 4 frame.sequence.toNat ++ beBytes 8 frame.timestampMs.toNat ++
      frame.pcm) = _
    exact List.drop_left' (by simp)
  rw [if_neg (by rw [first]; simp), sequence, timestampMs, pcm]
  have whole : frame.sequence.toNat % 256 ^ 4 = frame.sequence.toNat := by
    have := frame.sequence.toNat_lt
    omega
  have whole' : frame.timestampMs.toNat % 256 ^ 8 = frame.timestampMs.toNat := by
    have := frame.timestampMs.toNat_lt
    omega
  rw [ofBeBytes_beBytes, ofBeBytes_beBytes, whole, whole']
  simp

/-- Bytes that are accepted have the length and the version of a frame. -/
theorem of_decode (h : decode bytes = .ok frame) :
    bytes.length = audioHeaderBytes + audioFrameBytes ∧ bytes.headD 0 = audioProtocolVersion ∧
      frame = {
        sequence := .ofNat (ofBeBytes ((bytes.drop 1).take 4))
        timestampMs := .ofNat (ofBeBytes ((bytes.drop 5).take 8))
        pcm := bytes.drop audioHeaderBytes } := by
  unfold decode at h
  split at h
  · cases h
  · rename_i length
    split at h
    · cases h
    · rename_i version
      cases h
      exact ⟨Classical.not_not.mp length, Classical.not_not.mp version, rfl⟩

theorem decode_ok (length : bytes.length = audioHeaderBytes + audioFrameBytes)
    (version : bytes.headD 0 = audioProtocolVersion) : ∃ frame, decode bytes = .ok frame := by
  unfold decode
  rw [if_neg (Classical.not_not.mpr length), if_neg (Classical.not_not.mpr version)]
  exact ⟨_, rfl⟩

/-- A field that has been read is written as it was. -/
theorem beBytes_read {width : Nat} (length : bytes.length = width) :
    beBytes width (ofBeBytes bytes) = bytes := by
  subst length
  exact beBytes_ofBeBytes bytes

/-- A decoded frame is encoded to the bytes it came from. -/
theorem encode_of_decode (h : decode bytes = .ok frame) : frame.encode = bytes := by
  obtain ⟨length, version, rfl⟩ := of_decode h
  cases bytes with
  | nil => cases length
  | cons first rest =>
    have short : rest.length = 972 := Nat.succ_inj.mp length
    obtain rfl : first = audioProtocolVersion := version
    simp only [encode, List.drop_succ_cons, List.drop_zero, audioHeaderBytes]
    have four : (rest.take 4).length = 4 := by simp [short]
    have eight : ((rest.drop 4).take 8).length = 8 := by simp [short]
    have small := ofBeBytes_lt (rest.take 4)
    have small' := ofBeBytes_lt ((rest.drop 4).take 8)
    rw [four] at small
    rw [eight] at small'
    have whole : ofBeBytes (rest.take 4) % 2 ^ 32 = ofBeBytes (rest.take 4) := by omega
    have whole' : ofBeBytes ((rest.drop 4).take 8) % 2 ^ 64 =
        ofBeBytes ((rest.drop 4).take 8) := by omega
    rw [UInt32.toNat_ofNat', UInt64.toNat_ofNat', whole, whole', beBytes_read four,
      beBytes_read eight]
    have split : rest.drop 12 = (rest.drop 4).drop 8 := by rw [List.drop_drop]
    rw [split, List.singleton_append, List.cons_append, List.cons_append, List.append_assoc,
      List.take_append_drop, List.take_append_drop]

end AudioFrame

namespace ParlandoAudioSink

/-- A byte of a number is what its shift leaves below 256. -/
theorem byte_shift (value : Nat) (k : Nat) :
    UInt8.ofNat ((value >>> (8 * (k + 1))) &&& 0xff) =
      UInt8.ofNat (((value / 256) >>> (8 * k)) &&& 0xff) := by
  rw [Nat.mul_add, Nat.add_comm, Nat.shiftRight_add, Nat.shiftRight_eq_div_pow value]

/-- A view writes the big-endian representation of the number. -/
theorem dataViewBytes_natCast (width value : Nat) (small : value < 2 ^ (8 * width)) :
    dataViewBytes width value = beBytes width value := by
  have written (width value : Nat) : ((List.range width).map fun i =>
      UInt8.ofNat ((value >>> (8 * (width - 1 - i))) &&& 0xff)) = beBytes width value := by
    induction width generalizing value with
    | zero => rfl
    | succ width ih =>
      rw [List.range_succ, List.map_append, beBytes, ← ih]
      refine congr (congrArg _ (List.map_congr_left fun i mem => ?_)) ?_
      · have inside := List.mem_range.mp mem
        have place : width + 1 - 1 - i = (width - 1 - i) + 1 := by omega
        rw [place, byte_shift]
      · simp only [List.map_cons, List.map_nil, Nat.add_sub_cancel, Nat.sub_self, Nat.mul_zero,
          Nat.shiftRight_zero]
        congr 1
        apply UInt8.toNat_inj.mp
        rw [UInt8.toNat_ofNat', UInt8.toNat_ofNat', Nat.and_two_pow_sub_one_eq_mod value 8]
        omega
  unfold dataViewBytes
  have whole : ((value : Int) % 2 ^ (8 * width)).toNat = value := by
    have cast : ((2 : Int) ^ (8 * width)) = ((2 ^ (8 * width) : Nat) : Int) := by push_cast; rfl
    rw [cast, ← Int.natCast_mod, Int.toNat_natCast, Nat.mod_eq_of_lt small]
  rw [whole]
  exact written width value

theorem isInteger_natCast (value : Nat) : isInteger (value : Rat) = true := by
  simp [isInteger]

/-- The fields that are set one after another fill the frame. -/
theorem setBytes_fields {version sequence timestamp pcm : List UInt8}
    (one : version.length = 1) (four : sequence.length = 4) (eight : timestamp.length = 8)
    (complete : pcm.length = pcmBytes) :
    setBytes headerBytes pcm (setBytes 5 timestamp (setBytes 1 sequence (setBytes 0 version
      (List.replicate (headerBytes + pcmBytes) 0)))) =
      version ++ sequence ++ timestamp ++ pcm := by
  have blank : List.replicate (headerBytes + pcmBytes) (0 : UInt8) =
      List.replicate 1 0 ++ (List.replicate 4 0 ++ (List.replicate 8 0 ++
        (List.replicate pcmBytes 0 ++ []))) := by
    rw [List.append_nil, List.replicate_append_replicate, List.replicate_append_replicate,
      List.replicate_append_replicate]
    rfl
  have first (rest : List UInt8) :
      setBytes 0 version (List.replicate 1 0 ++ rest) = version ++ rest :=
    @setBytes_append 0 version [] (List.replicate 1 0) rest rfl (by simp [one])
  rw [blank, first, setBytes_append one (by rw [List.length_replicate, four]),
    ← List.append_assoc,
    setBytes_append (by rw [List.length_append, one, four])
      (by rw [List.length_replicate, eight]),
    ← List.append_assoc,
    setBytes_append (by rw [List.length_append, List.length_append, one, four, eight]; rfl)
      (by rw [List.length_replicate, complete]), List.append_nil]

/-- For the numbers a browser counts with, its frame is the server's. -/
theorem encodeFrame_eq_encode (sequence : UInt32) {timestampMs : Nat}
    (safe : timestampMs ≤ 9007199254740991) {pcm : List UInt8} (complete : pcm.length = pcmBytes) :
    encodeFrame sequence.toNat timestampMs pcm =
      .ok (AudioFrame.encode ⟨sequence, .ofNat timestampMs, pcm⟩) := by
  have small := sequence.toNat_lt
  have small' : (UInt64.ofNat timestampMs).toNat = timestampMs := by
    rw [UInt64.toNat_ofNat']
    exact Nat.mod_eq_of_lt (by omega)
  unfold encodeFrame
  rw [if_neg (Classical.not_not.mpr complete), if_neg, if_neg]
  · have one : dataViewBytes 1 1 = [audioProtocolVersion] := rfl
    simp only [Rat.num_natCast, one, dataViewBytes_natCast 4 _ small,
      dataViewBytes_natCast 8 timestampMs (by omega)]
    rw [setBytes_fields rfl (length_beBytes _ _) (length_beBytes _ _) complete,
      AudioFrame.encode, small']
  · have range : ¬(timestampMs : Rat) < 0 := not_lt.mpr (Nat.cast_nonneg _)
    simp [isSafeInteger, isInteger_natCast, safe]
  · have range : (sequence.toNat : Rat) ≤ (4294967295 : Nat) :=
      Nat.cast_le.mpr (by omega)
    have positive : ¬(sequence.toNat : Rat) < 0 := not_lt.mpr (Nat.cast_nonneg _)
    simpa [isInteger_natCast, positive] using range

theorem receive_encode {frame : AudioFrame} (complete : frame.pcm.length = audioFrameBytes) :
    receive frame.encode = some frame.pcm := by
  have length := AudioFrame.length_encode frame
  unfold receive
  rw [if_neg (by rw [length, complete]; simp [headerBytes, pcmBytes, audioHeaderBytes, audioFrameBytes])]
  refine congrArg some ?_
  change List.drop 12 (beBytes 4 frame.sequence.toNat ++ beBytes 8 frame.timestampMs.toNat ++
    frame.pcm) = _
  exact List.drop_left' (by simp)

end ParlandoAudioSink

/--
The frame codec: frames and the bytes that are accepted for them correspond, and a browser writes
and reads the same bytes.
-/
theorem pcm_frame_codec :
    (∀ frame : AudioFrame, frame.pcm.length = audioFrameBytes →
      AudioFrame.decode frame.encode = .ok frame) ∧
    (∀ bytes frame, AudioFrame.decode bytes = .ok frame → frame.encode = bytes) ∧
    (∀ bytes, (∃ frame, AudioFrame.decode bytes = .ok frame) ↔
      bytes.length = 973 ∧ bytes.head? = some audioProtocolVersion) ∧
    (∀ (sequence : UInt32) (timestampMs : Nat) (pcm : List UInt8),
      timestampMs ≤ 9007199254740991 → pcm.length = audioFrameBytes →
      ParlandoAudioSink.encodeFrame sequence.toNat timestampMs pcm =
        .ok (AudioFrame.encode ⟨sequence, .ofNat timestampMs, pcm⟩)) ∧
    (∀ frame : AudioFrame, frame.pcm.length = audioFrameBytes →
      ParlandoAudioSink.receive frame.encode = some frame.pcm) := by
  refine ⟨fun frame => AudioFrame.decode_encode, fun bytes frame => AudioFrame.encode_of_decode,
    fun bytes => ⟨?_, ?_⟩,
    fun sequence _ _ safe => ParlandoAudioSink.encodeFrame_eq_encode sequence safe,
    fun frame => ParlandoAudioSink.receive_encode⟩
  · rintro ⟨frame, accepted⟩
    obtain ⟨length, version, -⟩ := AudioFrame.of_decode accepted
    refine ⟨length, ?_⟩
    cases bytes with
    | nil => cases length
    | cons first rest => exact congrArg some version
  · rintro ⟨length, version⟩
    cases bytes with
    | nil => cases length
    | cons first rest => exact AudioFrame.decode_ok length (Option.some.inj version)

end Parlando
