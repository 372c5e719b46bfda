import Mathlib.Data.List.Basic
import Mathlib.Data.Nat.Bitwise
import Mathlib.Tactic.Common

/-!
# Bytes, nibbles and big-endian numbers

Wire formats are written with masks and shifts, and reasoned about with
division and remainder. This file translates the first into the second for the
two halves of a byte, and gives fixed-width big-endian numbers.
-/

namespace Bytes

/-! ## Nibbles -/

theorem toNat_and_lowMask (byte : UInt8) : (byte &&& 0x0F).toNat = byte.toNat % 16 := by
  simp only [UInt8.toNat_and, UInt8.reduceToNat]
  exact Nat.and_two_pow_sub_one_eq_mod byte.toNat 4

theorem toNat_highNibble (byte : UInt8) : ((byte &&& 0xF0) >>> 4).toNat = byte.toNat / 16 := by
  have lt := byte.toNat_lt
  simp only [UInt8.toNat_shiftRight, UInt8.toNat_and, UInt8.reduceToNat, Nat.reduceMod]
  rw [Nat.shiftRight_and_distrib, show (240 >>> 4 : ℕ) = 2 ^ 4 - 1 by rfl,
    Nat.and_two_pow_sub_one_eq_mod _ 4, Nat.shiftRight_eq_div_pow]
  omega

theorem toNat_and_highMask (byte : UInt8) :
    (byte &&& 0xF0).toNat = byte.toNat / 16 * 16 := by
  have high := toNat_highNibble byte
  have lowZero : (byte &&& 0xF0).toNat % 16 = 0 := by
    rw [← toNat_and_lowMask, UInt8.and_assoc]
    simp
  simp only [UInt8.toNat_shiftRight, UInt8.reduceToNat, Nat.reduceMod,
    Nat.shiftRight_eq_div_pow] at high
  omega

/-- A number below sixteen may be or-ed into the low nibble by adding it. -/
theorem or_eq_add_of_lt {high low : ℕ} (aligned : high % 16 = 0) (small : low < 16) :
    high ||| low = high + low := by
  have shifted : high = (high / 16) <<< 4 := by
    rw [Nat.shiftLeft_eq]
    omega
  rw [shifted, ← Nat.shiftLeft_add_eq_or_of_lt small]

theorem and_bitSix_eq_zero_iff (byte : UInt8) : byte &&& 0x40 = 0 ↔ byte.toNat / 64 % 2 = 0 := by
  rw [← UInt8.toNat_inj, UInt8.toNat_and]
  simp only [UInt8.reduceToNat]
  rw [show (64 : ℕ) = 2 ^ 6 by rfl, Nat.and_two_pow, Nat.testBit_eq_decide_div_mod_eq]
  simp

theorem toNat_twelveBits (high low : UInt8) :
    (((high &&& 0x0F).toUInt16 <<< 8) ||| low.toUInt16).toNat =
      high.toNat % 16 * 256 + low.toNat := by
  have small : low.toNat < 2 ^ 8 := low.toNat_lt
  have highSmall : (high.toNat % 16) <<< 8 < 65536 := by
    rw [Nat.shiftLeft_eq]
    omega
  simp only [UInt16.toNat_or, UInt16.toNat_shiftLeft, UInt8.toNat_toUInt16, toNat_and_lowMask,
    UInt16.reduceToNat, Nat.reduceMod, Nat.reducePow]
  rw [Nat.mod_eq_of_lt highSmall, ← Nat.shiftLeft_add_eq_or_of_lt small, Nat.shiftLeft_eq]

theorem toNat_threeBytes (high middle low : UInt8) :
    ((high.toUInt32 <<< 16) ||| (middle.toUInt32 <<< 8) ||| low.toUInt32).toNat =
      (high.toNat * 256 + middle.toNat) * 256 + low.toNat := by
  have highLt := high.toNat_lt
  have middleLt := middle.toNat_lt
  have lowLt : low.toNat < 2 ^ 8 := low.toNat_lt
  have upper : high.toNat <<< 16 ||| middle.toNat <<< 8 =
      (high.toNat * 256 + middle.toNat) <<< 8 := by
    have small : middle.toNat <<< 8 < 2 ^ 16 := by
      rw [Nat.shiftLeft_eq]
      omega
    rw [← Nat.shiftLeft_add_eq_or_of_lt small, Nat.shiftLeft_eq, Nat.shiftLeft_eq,
      Nat.shiftLeft_eq]
    omega
  have highSmall : high.toNat <<< 16 < 4294967296 := by
    rw [Nat.shiftLeft_eq]
    omega
  have middleSmall : middle.toNat <<< 8 < 4294967296 := by
    rw [Nat.shiftLeft_eq]
    omega
  simp only [UInt32.toNat_or, UInt32.toNat_shiftLeft, UInt8.toNat_toUInt32, UInt32.reduceToNat,
    Nat.reduceMod, Nat.reducePow]
  rw [Nat.mod_eq_of_lt highSmall, Nat.mod_eq_of_lt middleSmall, upper,
    ← Nat.shiftLeft_add_eq_or_of_lt lowLt, Nat.shiftLeft_eq]

/-! ## Big-endian numbers -/

/-- The `width` low bytes of a number, most significant first. -/
def bigEndian : ℕ → ℕ → List UInt8
  | 0, _ => []
  | width + 1, value => bigEndian width (value / 256) ++ [UInt8.ofNat value]

/-- The number which a list of bytes denotes, most significant first. -/
def ofBigEndian (bytes : List UInt8) : ℕ :=
  bytes.foldl (fun value byte => value * 256 + byte.toNat) 0

@[simp]
theorem length_bigEndian (width value : ℕ) : (bigEndian width value).length = width := by
  induction width generalizing value with
  | zero => rfl
  | succ width ih => simp [bigEndian, ih]

theorem ofBigEndian_concat (bytes : List UInt8) (byte : UInt8) :
    ofBigEndian (bytes ++ [byte]) = ofBigEndian bytes * 256 + byte.toNat := by
  simp [ofBigEndian]

/-- Reading back a number gives its value modulo the range of the field. -/
theorem ofBigEndian_bigEndian (width value : ℕ) :
    ofBigEndian (bigEndian width value) = value % 256 ^ width := by
  induction width generalizing value with
  | zero => simp [bigEndian, ofBigEndian, Nat.mod_one]
  | succ width ih =>
      have split : value % 256 ^ (width + 1) =
          value % 256 + 256 * (value / 256 % 256 ^ width) := by
        rw [Nat.pow_succ', Nat.mod_mul]
      rw [bigEndian, ofBigEndian_concat, ih, UInt8.toNat_ofNat', split]
      omega

end Bytes
