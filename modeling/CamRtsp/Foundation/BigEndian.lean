import Mathlib.Tactic.Ring
import CamRtsp.Foundation.RustText

/-!
# Big-endian integers

`to_be_bytes` and `from_be_bytes` for integers of any byte width.
-/

namespace BigEndian

open RustText

/-- The `width` low-order bytes of a number, most significant first. -/
def toBytes : Nat → Nat → Bytes
  | 0, _ => []
  | width + 1, number =>
      UInt8.ofNat (number / 256 ^ width) :: toBytes width number

/-- The number whose bytes are given, most significant first. -/
def ofBytes (bytes : Bytes) : Nat :=
  bytes.foldl (fun value byte => value * 256 + byte.toNat) 0

@[simp] theorem length_toBytes (width number : Nat) :
    (toBytes width number).length = width := by
  induction width with
  | zero =>
      rfl
  | succ width inductionHypothesis =>
      simp [toBytes, inductionHypothesis]

/-- A leading value is shifted past the remaining bytes. -/
theorem foldl_eq_shift
    (bytes : Bytes)
    (value : Nat) :
    bytes.foldl (fun value byte => value * 256 + byte.toNat) value =
      value * 256 ^ bytes.length + ofBytes bytes := by
  induction bytes generalizing value with
  | nil =>
      simp [ofBytes]
  | cons byte bytes inductionHypothesis =>
      simp only [ofBytes, List.foldl_cons, List.length_cons]
      rw [inductionHypothesis, inductionHypothesis (0 * 256 + _)]
      ring

@[simp] theorem ofBytes_nil : ofBytes [] = 0 :=
  rfl

/-- The first byte is the most significant one. -/
theorem ofBytes_cons (byte : UInt8) (bytes : Bytes) :
    ofBytes (byte :: bytes) =
      byte.toNat * 256 ^ bytes.length + ofBytes bytes := by
  simp [ofBytes, foldl_eq_shift bytes byte.toNat]

/-- Reading back the bytes of a number gives it modulo the width. -/
theorem ofBytes_toBytes (width number : Nat) :
    ofBytes (toBytes width number) = number % 256 ^ width := by
  induction width with
  | zero =>
      simp [toBytes, Nat.mod_one]
  | succ width inductionHypothesis =>
      rw [toBytes, ofBytes_cons, length_toBytes, inductionHypothesis]
      have split :
          number % (256 ^ width * 256) =
            number % 256 ^ width +
              256 ^ width * (number / 256 ^ width % 256) :=
        Nat.mod_mul
      have oneByte : (2 : Nat) ^ 8 = 256 := by decide
      rw [UInt8.toNat_ofNat', oneByte, Nat.pow_succ 256 width, split]
      ring

/-- A number of the given width survives the round trip. -/
theorem ofBytes_toBytes_of_lt
    {width number : Nat}
    (bound : number < 256 ^ width) :
    ofBytes (toBytes width number) = number := by
  rw [ofBytes_toBytes, Nat.mod_eq_of_lt bound]

/-- A number fits the width it was read from. -/
theorem ofBytes_lt (bytes : Bytes) :
    ofBytes bytes < 256 ^ bytes.length := by
  induction bytes with
  | nil =>
      simp
  | cons byte bytes inductionHypothesis =>
      have high : byte.toNat < 256 := byte.toNat_lt
      rw [ofBytes_cons, List.length_cons, Nat.pow_succ']
      calc
        byte.toNat * 256 ^ bytes.length + ofBytes bytes
            < (byte.toNat + 1) * 256 ^ bytes.length := by
              rw [Nat.add_mul, Nat.one_mul]
              exact Nat.add_lt_add_left inductionHypothesis _
        _ ≤ 256 * 256 ^ bytes.length :=
              Nat.mul_le_mul_right _ high

/-- Digits above the width are not written. -/
theorem toBytes_add_mul (width high number : Nat) :
    toBytes width (high * 256 ^ width + number) =
      toBytes width number := by
  induction width generalizing high with
  | zero =>
      rfl
  | succ width inductionHypothesis =>
      have shifted :
          high * 256 ^ (width + 1) + number =
            high * 256 * 256 ^ width + number := by
        ring
      have positive : 0 < 256 ^ width := Nat.pow_pos (by decide)
      have digit :
          UInt8.ofNat ((high * 256 * 256 ^ width + number) / 256 ^ width) =
            UInt8.ofNat (number / 256 ^ width) := by
        rw [Nat.add_comm, Nat.add_mul_div_right _ _ positive,
          ← UInt8.toNat_inj, UInt8.toNat_ofNat', UInt8.toNat_ofNat']
        exact Nat.add_mul_mod_self_right _ _ _
      rw [shifted, toBytes, toBytes, digit, inductionHypothesis]

/-- Writing a number that was read gives back its bytes. -/
theorem toBytes_ofBytes (bytes : Bytes) :
    toBytes bytes.length (ofBytes bytes) = bytes := by
  induction bytes with
  | nil =>
      rfl
  | cons byte bytes inductionHypothesis =>
      have positive : 0 < 256 ^ bytes.length := Nat.pow_pos (by decide)
      have digit :
          UInt8.ofNat
              ((byte.toNat * 256 ^ bytes.length + ofBytes bytes) /
                256 ^ bytes.length) =
            byte := by
        rw [Nat.add_comm, Nat.add_mul_div_right _ _ positive,
          Nat.div_eq_of_lt (ofBytes_lt bytes), Nat.zero_add]
        exact UInt8.ofNat_toNat
      rw [ofBytes_cons, List.length_cons, toBytes, digit, toBytes_add_mul,
        inductionHypothesis]

end BigEndian
