import Mathlib.Algebra.Ring.Int.Defs
import Mathlib.Algebra.Ring.Nat

/-!
# Saturating machine arithmetic

Saturating addition and subtraction on fixed-width words: a result outside
the range is the end of the range. The lemmas read the operations back as
arithmetic on `ℕ`.
-/

namespace FlanForge

/-- Addition that stops at `2 ^ 32 - 1`. -/
def saturatingAdd32 (a b : UInt32) : UInt32 := UInt32.ofNat (min (a.toNat + b.toNat) (2 ^ 32 - 1))

/-- Addition that stops at `2 ^ 64 - 1`. -/
def saturatingAdd64 (a b : UInt64) : UInt64 := UInt64.ofNat (min (a.toNat + b.toNat) (2 ^ 64 - 1))

/-- Subtraction that stops at zero. -/
def saturatingSub64 (a b : UInt64) : UInt64 := UInt64.ofNat (a.toNat - b.toNat)

@[simp] theorem toNat_saturatingAdd32 (a b : UInt32) :
    (saturatingAdd32 a b).toNat = min (a.toNat + b.toNat) (2 ^ 32 - 1) := by
  rw [saturatingAdd32, UInt32.toNat_ofNat', Nat.mod_eq_of_lt]
  omega

@[simp] theorem toNat_saturatingAdd64 (a b : UInt64) :
    (saturatingAdd64 a b).toNat = min (a.toNat + b.toNat) (2 ^ 64 - 1) := by
  rw [saturatingAdd64, UInt64.toNat_ofNat', Nat.mod_eq_of_lt]
  omega

/-! ## Order -/

theorem saturatingAdd32_mono {a a' b b' : UInt32} (ha : a ≤ a') (hb : b ≤ b') :
    saturatingAdd32 a b ≤ saturatingAdd32 a' b' := by
  rw [UInt32.le_iff_toNat_le] at *
  simp only [toNat_saturatingAdd32]
  omega

theorem saturatingAdd64_mono {a a' b b' : UInt64} (ha : a ≤ a') (hb : b ≤ b') :
    saturatingAdd64 a b ≤ saturatingAdd64 a' b' := by
  rw [UInt64.le_iff_toNat_le] at *
  simp only [toNat_saturatingAdd64]
  omega

theorem le_saturatingAdd32 (a b : UInt32) : a ≤ saturatingAdd32 a b := by
  have := a.toNat_lt
  rw [UInt32.le_iff_toNat_le, toNat_saturatingAdd32]
  omega

theorem le_saturatingAdd64 (a b : UInt64) : a ≤ saturatingAdd64 a b := by
  have := a.toNat_lt
  rw [UInt64.le_iff_toNat_le, toNat_saturatingAdd64]
  omega

end FlanForge
