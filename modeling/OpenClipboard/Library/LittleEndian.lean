import Mathlib.Algebra.Order.Ring.Nat
import Mathlib.Tactic.Ring

/-!
# Numbers as little-endian bytes

A number is written with a fixed number of bytes, the least significant first.
What the bytes have room for reads back.
-/

namespace OpenClipboard.LittleEndian

def encode : Nat → Nat → List UInt8
  | 0, _ => []
  | width + 1, value => UInt8.ofNat value :: encode width (value / 256)

def decode : List UInt8 → Nat
  | [] => 0
  | byte :: rest => byte.toNat + 256 * decode rest

@[simp]
theorem encode_length (width value : Nat) :
    (encode width value).length = width := by
  induction width generalizing value with
  | zero => rfl
  | succ width inductionHypothesis =>
      rw [encode, List.length_cons, inductionHypothesis]

theorem decode_encode {width value : Nat} (small : value < 256 ^ width) :
    decode (encode width value) = value := by
  induction width generalizing value with
  | zero =>
      have isZero : value = 0 := by simpa using small
      rw [isZero]
      rfl
  | succ width inductionHypothesis =>
      have restSmall : value / 256 < 256 ^ width := by
        rw [pow_succ] at small
        exact Nat.div_lt_of_lt_mul (by rw [Nat.mul_comm]; exact small)
      have lowest : (UInt8.ofNat value).toNat = value % 256 :=
        UInt8.toNat_ofNat'
      rw [encode, decode, inductionHypothesis restSmall, lowest]
      exact Nat.mod_add_div value 256

theorem decode_lt (bytes : List UInt8) : decode bytes < 256 ^ bytes.length := by
  induction bytes with
  | nil => exact Nat.one_pos
  | cons byte rest inductionHypothesis =>
      have small : byte.toNat < 256 := UInt8.toNat_lt byte
      rw [List.length_cons, pow_succ, decode]
      omega

/-- As many bytes as were read write the same bytes. -/
theorem encode_decode (bytes : List UInt8) :
    encode bytes.length (decode bytes) = bytes := by
  induction bytes with
  | nil => rfl
  | cons byte rest inductionHypothesis =>
      have small : byte.toNat < 256 := UInt8.toNat_lt byte
      have lowest : UInt8.ofNat (byte.toNat + 256 * decode rest) = byte := by
        apply UInt8.toNat_inj.mp
        rw [UInt8.toNat_ofNat']
        omega
      have others : (byte.toNat + 256 * decode rest) / 256 = decode rest := by
        omega
      rw [List.length_cons, decode, encode, lowest, others,
        inductionHypothesis]

end OpenClipboard.LittleEndian
