import Mathlib.Algebra.Group.Nat.Defs
import Mathlib.Data.Int.Basic
import Mathlib.Data.Int.Order.Basic
import Mathlib.Algebra.Order.Group.Unbundled.Int

/-! Machine integers as integers that are reduced to their width where they are
stored, with the truncating division and remainder of C. -/
namespace FixedWidth

def minInt32 : Int := -2 ^ 31
def maxInt32 : Int := 2 ^ 31 - 1
def minInt64 : Int := -2 ^ 63
def maxInt64 : Int := 2 ^ 63 - 1

/-- Store into a signed 32-bit integer. -/
def toInt32 (x : Int) : Int := Int.bmod x (2 ^ 32)

/-- Store into a signed 64-bit integer. -/
def toInt64 (x : Int) : Int := Int.bmod x (2 ^ 64)

/-- Store into an unsigned 32-bit integer. -/
def toUInt32 (x : Int) : Nat := (x % 2 ^ 32).toNat

/-- Store into an unsigned 64-bit integer. -/
def toUInt64 (x : Int) : Nat := (x % 2 ^ 64).toNat

/-- `a / b` on signed 64-bit integers; no result where the processor faults. -/
def int64Div (a b : Int) : Option Int :=
  if b = 0 ∨ (a = minInt64 ∧ b = -1) then none else some (a.tdiv b)

/-- `a % b` on signed 64-bit integers, faulting with the division. -/
def int64Rem (a b : Int) : Option Int :=
  if b = 0 ∨ (a = minInt64 ∧ b = -1) then none else some (a.tmod b)

/-- The values a signed 32-bit integer can have. -/
def IsInt32 (x : Int) : Prop := minInt32 ≤ x ∧ x ≤ maxInt32

theorem isInt32_toInt32 (x : Int) : IsInt32 (toInt32 x) := by
  have hLow := @Int.le_bmod x (2 ^ 32) (by decide)
  have hHigh := @Int.bmod_le x (2 ^ 32) (by decide)
  unfold IsInt32 minInt32 maxInt32 toInt32
  omega

theorem toInt32_of_range {x : Int} (hLow : minInt32 ≤ x) (hHigh : x ≤ maxInt32) :
    toInt32 x = x := by
  unfold minInt32 at hLow
  unfold maxInt32 at hHigh
  exact Int.bmod_eq_of_le (by omega) (by omega)

theorem toInt64_of_range {x : Int} (hLow : minInt64 ≤ x) (hHigh : x ≤ maxInt64) :
    toInt64 x = x := by
  unfold minInt64 at hLow
  unfold maxInt64 at hHigh
  exact Int.bmod_eq_of_le (by omega) (by omega)

theorem toUInt32_of_range {x : Int} (hLow : 0 ≤ x) (hHigh : x < 2 ^ 32) :
    (toUInt32 x : Int) = x := by
  unfold toUInt32
  omega

theorem toUInt64_of_range {x : Int} (hLow : 0 ≤ x) (hHigh : x < 2 ^ 64) :
    (toUInt64 x : Int) = x := by
  unfold toUInt64
  omega

theorem toUInt32_natCast {n : Nat} (h : n < 2 ^ 32) : toUInt32 n = n := by
  have := toUInt32_of_range (x := n) (by omega) (by exact_mod_cast h)
  exact_mod_cast this

/-- A truncated remainder is negative only below a negative non-multiple. -/
theorem tmod_nonneg_iff {q n : Int} (hn : 0 < n) : 0 ≤ q.tmod n ↔ 0 ≤ q ∨ n ∣ q := by
  constructor
  · intro h
    by_cases hq : 0 ≤ q
    · exact .inl hq
    · have hNeg : q.tmod n = -((-q) % n) := by
        rw [← Int.neg_neg q, Int.neg_tmod, Int.tmod_eq_emod_of_nonneg (by omega), Int.neg_neg]
      have hPos := Int.emod_nonneg (-q) (by omega : n ≠ 0)
      exact .inr (Int.dvd_neg.mp (Int.dvd_of_emod_eq_zero (by omega)))
  · rintro (hq | hq)
    · exact Int.tmod_nonneg n hq
    · rw [Int.tmod_eq_zero_of_dvd hq]

/-- A truncated quotient is nonnegative or a multiple of `n` exactly when the
signs agree or the quotient of the magnitudes is a multiple of `n`. -/
theorem tdiv_nonneg_or_dvd_iff {a b n : Int} (hb : b ≠ 0) :
    (0 ≤ a.tdiv b ∨ n ∣ a.tdiv b) ↔
      (0 ≤ a ∧ 0 < b) ∨ (a ≤ 0 ∧ b < 0) ∨ n ∣ ((a.natAbs / b.natAbs : Nat) : Int) := by
  have hAbs : n ∣ a.tdiv b ↔ n ∣ ((a.natAbs / b.natAbs : Nat) : Int) := by
    have hNatAbs : (a.tdiv b).natAbs = a.natAbs / b.natAbs := Int.natAbs_tdiv a b
    rw [← hNatAbs, Int.dvd_natAbs]
  rw [hAbs]
  constructor
  · rintro (h | h)
    · rcases lt_or_gt_of_ne hb with hNeg | hPos
      · by_cases ha : a ≤ 0
        · exact .inr (.inl ⟨ha, hNeg⟩)
        · have hOpposite : a.tdiv b ≤ 0 :=
            Int.tdiv_nonpos_of_nonneg_of_nonpos (by omega) (by omega)
          right
          right
          rw [← hAbs, le_antisymm hOpposite h]
          exact Int.dvd_zero n
      · by_cases ha : 0 ≤ a
        · exact .inl ⟨ha, hPos⟩
        · have hNegated := Int.tdiv_nonneg (a := -a) (b := b) (by omega) hPos.le
          rw [Int.neg_tdiv] at hNegated
          have hOpposite : a.tdiv b ≤ 0 := by omega
          right
          right
          rw [← hAbs, le_antisymm hOpposite h]
          exact Int.dvd_zero n
    · exact .inr (.inr h)
  · rintro (⟨ha, hPos⟩ | ⟨ha, hNeg⟩ | h)
    · exact .inl (Int.tdiv_nonneg ha hPos.le)
    · exact .inl (Int.tdiv_nonneg_of_nonpos_of_nonpos ha hNeg.le)
    · exact .inr h

end FixedWidth
