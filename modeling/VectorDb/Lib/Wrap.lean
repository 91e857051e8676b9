/-
Conversions between integers of fixed width.

A conversion to a type of `w` bits keeps a number modulo `2 ^ w`, between `0` and `2 ^ w` for
an unsigned type and around zero for a signed one.  So the number survives exactly when it is
in the range of the target type; the lemmas say so for the conversions from 64 bits to 32
bits and for the change of sign at one width.
-/
import Mathlib.Algebra.Ring.Int.Defs
import Mathlib.Algebra.Ring.Nat

namespace Wrap

/-! ### To a signed type -/

/-- From unsigned to signed, at 32 bits: the upper half of the range is negative. -/
lemma toInt_toInt32 (n : UInt32) :
    n.toInt32.toInt = if 2 * n.toNat < 2 ^ 32 then (n.toNat : ℤ) else n.toNat - 2 ^ 32 :=
  BitVec.toInt_eq_toNat_cond n.toBitVec

/-- From unsigned to signed, at 64 bits. -/
lemma toInt_toInt64 (n : UInt64) :
    n.toInt64.toInt = if 2 * n.toNat < 2 ^ 64 then (n.toNat : ℤ) else n.toNat - 2 ^ 64 :=
  BitVec.toInt_eq_toNat_cond n.toBitVec

lemma toInt32_eq_iff (n : UInt64) :
    n.toUInt32.toInt32.toInt = (n.toNat : ℤ) ↔ n.toNat < 2 ^ 31 := by
  rw [toInt_toInt32, UInt64.toNat_toUInt32]
  split <;> omega

lemma toInt64_eq_iff (n : UInt64) :
    n.toInt64.toInt = (n.toNat : ℤ) ↔ n.toNat < 2 ^ 63 := by
  rw [toInt_toInt64]
  split <;> omega

/-! ### To an unsigned type -/

/-- From signed to unsigned, at 32 bits: the negative numbers are the upper half. -/
lemma toNat_toUInt32 (n : Int32) :
    (n.toUInt32.toNat : ℤ) = if n.toInt < 0 then n.toInt + 2 ^ 32 else n.toInt := by
  have hlt : n.toUInt32.toNat < 2 ^ 32 := n.toUInt32.toNat_lt
  have hback := toInt_toInt32 n.toUInt32
  rw [Int32.toInt32_toUInt32] at hback
  rw [hback]
  split <;> split <;> omega

/-- From signed to unsigned, at 64 bits. -/
lemma toNat_toUInt64 (n : Int64) :
    (n.toUInt64.toNat : ℤ) = if n.toInt < 0 then n.toInt + 2 ^ 64 else n.toInt := by
  have hlt : n.toUInt64.toNat < 2 ^ 64 := n.toUInt64.toNat_lt
  have hback := toInt_toInt64 n.toUInt64
  rw [Int64.toInt64_toUInt64] at hback
  rw [hback]
  split <;> split <;> omega

lemma toUInt32_eq_iff (n : Int32) : (n.toUInt32.toNat : ℤ) = n.toInt ↔ 0 ≤ n.toInt := by
  rw [toNat_toUInt32]
  split <;> omega

lemma toUInt64_toUInt32_eq_iff (n : Int64) :
    (n.toUInt64.toUInt32.toNat : ℤ) = n.toInt ↔ 0 ≤ n.toInt ∧ n.toInt < 2 ^ 32 := by
  have hwrap := toNat_toUInt64 n
  rw [UInt64.toNat_toUInt32]
  split at hwrap <;> omega

/-- Two numbers that are sent with 32 bits look the same when they agree modulo `2 ^ 32`. -/
lemma toUInt64_toUInt32_inj_iff (n n' : Int64) :
    n.toUInt64.toUInt32 = n'.toUInt64.toUInt32 ↔ n.toInt % 2 ^ 32 = n'.toInt % 2 ^ 32 := by
  have hmod : ∀ n : Int64, (n.toUInt64.toUInt32.toNat : ℤ) = n.toInt % 2 ^ 32 := by
    intro n
    have hwrap := toNat_toUInt64 n
    rw [UInt64.toNat_toUInt32]
    split at hwrap <;> omega
  rw [← UInt32.toNat_inj, ← hmod, ← hmod, Nat.cast_inj]

/-- Two counts that are received with 32 bits look the same when they agree modulo `2 ^ 32`. -/
lemma toUInt32_toInt32_inj_iff (n n' : UInt64) :
    n.toUInt32.toInt32 = n'.toUInt32.toInt32 ↔ n.toNat % 2 ^ 32 = n'.toNat % 2 ^ 32 := by
  have hinj : Function.Injective UInt32.toInt32 := fun a b h => congrArg Int32.toUInt32 h
  rw [hinj.eq_iff, ← UInt32.toNat_inj, UInt64.toNat_toUInt32, UInt64.toNat_toUInt32]

end Wrap
