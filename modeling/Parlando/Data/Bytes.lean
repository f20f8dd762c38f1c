import Mathlib.Algebra.Ring.Nat
import Mathlib.Data.List.Induction

namespace Parlando

/-- The big-endian representation of a number in a given number of bytes. -/
def beBytes : Nat → Nat → List UInt8
  | 0, _ => []
  | width + 1, value => beBytes width (value / 256) ++ [UInt8.ofNat value]

/-- The number that bytes represent, the first of them the most significant. -/
def ofBeBytes (bytes : List UInt8) : Nat :=
  bytes.foldl (fun value byte => 256 * value + byte.toNat) 0

@[simp] theorem length_beBytes (width value : Nat) : (beBytes width value).length = width := by
  induction width generalizing value with
  | zero => rfl
  | succ width ih => simp [beBytes, ih]

theorem ofBeBytes_append (bytes : List UInt8) (byte : UInt8) :
    ofBeBytes (bytes ++ [byte]) = 256 * ofBeBytes bytes + byte.toNat := by
  simp [ofBeBytes]

/-- A number is read back as far as it fits. -/
theorem ofBeBytes_beBytes (width value : Nat) :
    ofBeBytes (beBytes width value) = value % 256 ^ width := by
  induction width generalizing value with
  | zero => simp [beBytes, ofBeBytes, Nat.mod_one]
  | succ width ih =>
    have wider : 256 ^ (width + 1) = 256 * 256 ^ width := Nat.pow_succ'
    rw [beBytes, ofBeBytes_append, ih, wider, Nat.mod_mul, UInt8.toNat_ofNat']
    omega

theorem ofBeBytes_lt (bytes : List UInt8) : ofBeBytes bytes < 256 ^ bytes.length := by
  induction bytes using List.reverseRecOn with
  | nil => simp [ofBeBytes]
  | append_singleton bytes byte ih =>
    have := byte.toNat_lt
    rw [ofBeBytes_append, List.length_append, List.length_singleton, Nat.pow_succ']
    omega

/-- Bytes are the representation of their number. -/
theorem beBytes_ofBeBytes (bytes : List UInt8) : beBytes bytes.length (ofBeBytes bytes) = bytes := by
  induction bytes using List.reverseRecOn with
  | nil => rfl
  | append_singleton bytes byte ih =>
    have small := byte.toNat_lt
    rw [List.length_append, List.length_singleton, beBytes, ofBeBytes_append]
    congr 1
    · have high : (256 * ofBeBytes bytes + byte.toNat) / 256 = ofBeBytes bytes := by omega
      rw [high, ih]
    · congr 1
      apply UInt8.toNat_inj.mp
      rw [UInt8.toNat_ofNat']
      omega

def setBytes (offset : Nat) (bytes frame : List UInt8) : List UInt8 :=
  frame.take offset ++ bytes ++ frame.drop (offset + bytes.length)

/-- Only the bytes at the offset are replaced. -/
theorem setBytes_append {offset : Nat} {bytes before old after : List UInt8}
    (here : before.length = offset) (same : old.length = bytes.length) :
    setBytes offset bytes (before ++ (old ++ after)) = before ++ (bytes ++ after) := by
  subst here
  rw [setBytes, List.take_left, ← same, List.drop_length_add_append, List.drop_left,
    List.append_assoc]

end Parlando
