import EntityWire.Number.Binary
import Mathlib

namespace EntityWire.Binary64

def units (m : ℕ) : ℕ :=
  if m / 2 ^ 52 = 0 then m % 2 ^ 52 else (2 ^ 52 + m % 2 ^ 52) * 2 ^ (m / 2 ^ 52 - 1)

def unitsOfOne : ℕ := 2 ^ 1074

def value (x : Binary64) : ℚ :=
  (if x.negative then -1 else 1) * units x.magnitude / unitsOfOne

theorem units_succ (m : ℕ) : units m < units (m + 1) := by
  have hm := Nat.div_add_mod m (2 ^ 52)
  have hr : m % 2 ^ 52 < 2 ^ 52 := Nat.mod_lt m (by decide)
  unfold units
  generalize m / 2 ^ 52 = q at hm ⊢
  generalize m % 2 ^ 52 = r at hm hr ⊢
  subst hm
  by_cases hc : r + 1 < 2 ^ 52
  · -- within one exponent the mantissa grows
    have hq : (2 ^ 52 * q + r + 1) / 2 ^ 52 = q := by omega
    have hs : (2 ^ 52 * q + r + 1) % 2 ^ 52 = r + 1 := by omega
    rw [hq, hs]
    split
    · omega
    · exact Nat.mul_lt_mul_of_pos_right (by omega) (Nat.two_pow_pos _)
  · -- the greatest mantissa is below the least one of the next exponent
    have hq : (2 ^ 52 * q + r + 1) / 2 ^ 52 = q + 1 := by omega
    have hs : (2 ^ 52 * q + r + 1) % 2 ^ 52 = 0 := by omega
    rw [hq, hs, if_neg (Nat.succ_ne_zero q), Nat.add_sub_cancel]
    split
    · next h0 =>
      subst h0
      omega
    · next h0 =>
      obtain ⟨k, rfl⟩ := Nat.exists_eq_succ_of_ne_zero h0
      have hp : 2 ^ (k + 1) = 2 * 2 ^ k := Nat.pow_succ'
      rw [Nat.succ_sub_one, Nat.succ_eq_add_one, hp, ← Nat.mul_assoc]
      exact Nat.mul_lt_mul_of_pos_right (by omega) (Nat.two_pow_pos k)

theorem units_strictMono : StrictMono units := strictMono_nat_of_lt_succ units_succ

theorem units_pos (m : ℕ) : 0 < units (m + 1) := units_strictMono (Nat.succ_pos m)

def signedUnits : ℤ → ℤ
  | .ofNat m => units m
  | .negSucc m => -units (m + 1)

theorem signedUnits_neg (m : ℕ) : signedUnits (-m) = -units m := by
  cases m <;> rfl

theorem signedUnits_strictMono : StrictMono signedUnits := by
  intro i j h
  cases i with
  | ofNat m =>
    cases j with
    | ofNat n => exact Int.ofNat_lt.2 (units_strictMono (Int.ofNat_lt.1 h))
    | negSucc n =>
      exact absurd (h.trans (Int.negSucc_lt_zero n)) (Int.not_lt.2 (Int.natCast_nonneg m))
  | negSucc m =>
    have hm := units_pos m
    cases j with
    | ofNat n =>
      simp only [signedUnits]
      omega
    | negSucc n =>
      have hn : units (n + 1) < units (m + 1) := units_strictMono (by omega)
      simp only [signedUnits]
      omega

theorem value_eq (x : Binary64) : x.value = signedUnits x.rank / unitsOfOne := by
  unfold value rank
  split
  · rw [signedUnits_neg]
    push_cast
    rw [neg_one_mul]
  · simp only [signedUnits, one_mul]
    rfl

theorem unitsOfOne_pos : (0 : ℚ) < unitsOfOne := Nat.cast_pos.2 (by decide +kernel)

theorem value_le_iff (x y : Binary64) : x.value ≤ y.value ↔ x.rank ≤ y.rank := by
  rw [value_eq, value_eq, div_le_div_iff_of_pos_right unitsOfOne_pos, Int.cast_le,
    signedUnits_strictMono.le_iff_le]

theorem le_iff_value_le {x y : Binary64} (hx : x.isNaN = false) (hy : y.isNaN = false) :
    x.le y = true ↔ x.value ≤ y.value := by
  rw [value_le_iff, le, hx, hy, Bool.not_false, Bool.and_self, Bool.true_and, decide_eq_true_iff]

theorem value_eq_of_units {x : Binary64} {n : ℤ} (h : signedUnits x.rank = n * unitsOfOne) :
    x.value = n := by
  rw [value_eq, h]
  push_cast
  exact mul_div_cancel_right₀ _ unitsOfOne_pos.ne'

end EntityWire.Binary64
