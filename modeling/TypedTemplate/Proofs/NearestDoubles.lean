import Mathlib.Algebra.Order.Field.Power
import Mathlib.Algebra.Order.Ring.Abs
import Mathlib.Data.Int.Log
import Mathlib.Data.Rat.Floor
import Mathlib.Tactic.FieldSimp
import Mathlib.Tactic.Linarith
import Mathlib.Tactic.Positivity
import Mathlib.Tactic.Ring
import TypedTemplate.Proofs.DecimalNumerals
import TypedTemplate.Proofs.UsableOperands

/-!
# Nearest doubles

The doubles near to a rational number lie on a grid, whose spacing is a power of two that leaves 53
binary digits for the number, and is not finer than the finest of all doubles. Below the limit of
doubles a quotient is taken as the multiple of the spacing that is nearest to it, the even one of
two; from the limit on it is infinite.
-/
namespace TypedTemplate

theorem twoTo_div_twoTo_neg (e : ℤ) : (twoTo e : ℚ) / twoTo (-e) = 2 ^ e := by
  rcases le_total 0 e with h | h
  · lift e to ℕ using h
    simp [twoTo]
  · obtain ⟨k, rfl⟩ : ∃ k : ℕ, e = -k := ⟨(-e).toNat, by omega⟩
    simp [twoTo]

theorem tenTo_div_tenTo_neg (e : ℤ) : (tenTo e : ℚ) / tenTo (-e) = 10 ^ e := by
  rcases le_total 0 e with h | h
  · lift e to ℕ using h
    simp [tenTo]
  · obtain ⟨k, rfl⟩ : ∃ k : ℕ, e = -k := ⟨(-e).toNat, by omega⟩
    simp [tenTo]

/-- Whether a natural number is the nearest one to a quotient, the even one of two. -/
structure IsNearestEven (q : ℚ) (k : ℕ) : Prop where
  near : |q - k| ≤ 1 / 2
  even_of_tie : |q - k| = 1 / 2 → Even k

theorem abs_quotient_sub (num k : ℕ) {den : ℕ} (h : 0 < den) :
    |(num / den : ℚ) - k| = ((num : ℤ) - k * den).natAbs / den := by
  have hden : (0 : ℚ) < den := by exact_mod_cast h
  rw [Nat.cast_natAbs, Int.cast_abs, eq_div_iff hden.ne', ← abs_of_pos hden, ← abs_mul,
    abs_of_pos hden, sub_mul, div_mul_cancel₀ _ hden.ne']
  push_cast
  rfl

theorem abs_quotient_sub_le_half_iff {num k den : ℕ} (h : 0 < den) :
    |(num / den : ℚ) - k| ≤ 1 / 2 ↔ 2 * ((num : ℤ) - k * den).natAbs ≤ den := by
  have hden : (0 : ℚ) < den := by exact_mod_cast h
  rw [abs_quotient_sub num k h, div_le_div_iff₀ hden two_pos, one_mul, mul_comm]
  exact_mod_cast Iff.rfl

theorem abs_quotient_sub_eq_half_iff {num k den : ℕ} (h : 0 < den) :
    |(num / den : ℚ) - k| = 1 / 2 ↔ 2 * ((num : ℤ) - k * den).natAbs = den := by
  have hden : (0 : ℚ) < den := by exact_mod_cast h
  rw [abs_quotient_sub num k h, div_eq_div_iff hden.ne' two_ne_zero, one_mul, mul_comm]
  exact_mod_cast Iff.rfl

theorem isNearestEven_roundHalfEven (num : ℕ) {den : ℕ} (h : 0 < den) :
    IsNearestEven (num / den) (roundHalfEven num den) := by
  have hmod := Nat.mod_lt num h
  have hdiv : (num : ℤ) = (num / den : ℕ) * den + (num % den : ℕ) := by
    exact_mod_cast (Nat.div_add_mod' num den).symm
  have hbelow : (num : ℤ) - (num / den : ℕ) * den = (num % den : ℕ) := by linarith
  have habove : (num : ℤ) - (num / den + 1 : ℕ) * den = (num % den : ℕ) - den := by
    push_cast at hdiv ⊢
    linarith
  constructor
  · rw [abs_quotient_sub_le_half_iff h, roundHalfEven]
    split_ifs <;> simp only [hbelow, habove] <;> omega
  · rw [abs_quotient_sub_eq_half_iff h, roundHalfEven, Nat.even_iff]
    split_ifs <;> simp only [hbelow, habove] <;> omega

namespace IsNearestEven

variable {q : ℚ} {k n : ℕ}

theorem eq_of_natCast (h : IsNearestEven n k) : k = n := by
  have hnear := abs_le.1 h.near
  have hlow : (k : ℚ) < n + 1 := by linarith
  have hhigh : (n : ℚ) < k + 1 := by linarith
  norm_cast at hlow hhigh
  omega

theorem lt_of_lt (h : IsNearestEven q k) (hq : q < n - 1 / 2) : k < n := by
  have hnear := abs_le.1 h.near
  have hlow : (k : ℚ) < n := by linarith
  exact_mod_cast hlow

/-- Halfway between an odd number and an even one the even one is taken. -/
theorem le_of_le (h : IsNearestEven q k) (hn : Even n) (hq : n - 1 / 2 ≤ q) : n ≤ k := by
  have hnear := abs_le.1 h.near
  have hlow : (n : ℚ) ≤ k + 1 := by linarith
  have hle : n ≤ k + 1 := by exact_mod_cast hlow
  rcases hle.lt_or_eq with hlt | rfl
  · omega
  · have htie : |q - k| = 1 / 2 := by
      rw [abs_eq (by norm_num)]
      left
      push_cast at hq
      linarith
    have hk := h.even_of_tie htie
    rw [Nat.even_iff] at hk hn
    omega

end IsNearestEven

theorem two_zpow_le_iff {v : ℚ} (hv : 0 < v) (g : ℤ) : 2 ^ g ≤ v ↔ g ≤ Int.log 2 v := by
  exact_mod_cast Int.zpow_le_iff_le_log one_lt_two hv (x := g)

theorem lt_two_zpow_iff {v : ℚ} (hv : 0 < v) (g : ℤ) : v < 2 ^ g ↔ Int.log 2 v < g := by
  exact_mod_cast Int.lt_zpow_iff_log_lt one_lt_two hv (x := g)

theorem log_two_eq_iff {v : ℚ} (hv : 0 < v) {g : ℤ} :
    Int.log 2 v = g ↔ 2 ^ g ≤ v ∧ v < 2 ^ (g + 1) := by
  rw [two_zpow_le_iff hv, lt_two_zpow_iff hv]
  omega

namespace Double

theorem floorLog2_eq_log {num den : ℕ} (hnum : num ≠ 0) (hden : den ≠ 0) :
    floorLog2 num den = Int.log 2 (num / den : ℚ) := by
  have hnum' : (0 : ℚ) < num := by exact_mod_cast Nat.pos_of_ne_zero hnum
  have hden' : (0 : ℚ) < den := by exact_mod_cast Nat.pos_of_ne_zero hden
  have hpow : ∀ n : ℕ, n ≠ 0 → (2 : ℚ) ^ (n.log2 : ℤ) ≤ n ∧ (n : ℚ) < 2 ^ ((n.log2 : ℤ) + 1) := by
    intro n hn
    constructor
    · exact_mod_cast Nat.log2_self_le hn
    · exact_mod_cast Nat.lt_log2_self
  set g : ℤ := num.log2 - den.log2 with hg
  have htest : den * twoTo g ≤ num * twoTo (-g) ↔ (2 : ℚ) ^ g ≤ num / den := by
    have hpos : (0 : ℚ) < twoTo (-g) := by exact_mod_cast twoTo_pos (-g)
    rw [← twoTo_div_twoTo_neg, div_le_div_iff₀ hpos hden', mul_comm (twoTo g : ℚ)]
    exact_mod_cast Iff.rfl
  have habove : (num / den : ℚ) < 2 ^ (g + 1) := by
    rw [div_lt_iff₀ hden']
    calc (num : ℚ) < 2 ^ ((num.log2 : ℤ) + 1) := (hpow num hnum).2
      _ = 2 ^ (g + 1) * 2 ^ (den.log2 : ℤ) := by
        rw [← zpow_add₀ two_ne_zero]
        congr 1
        omega
      _ ≤ 2 ^ (g + 1) * den := by gcongr; exact (hpow den hden).1
  have hbelow : (2 : ℚ) ^ (g - 1) ≤ num / den := by
    rw [le_div_iff₀ hden']
    calc (2 : ℚ) ^ (g - 1) * den ≤ 2 ^ (g - 1) * 2 ^ ((den.log2 : ℤ) + 1) := by
          gcongr; exact (hpow den hden).2.le
      _ = 2 ^ (num.log2 : ℤ) := by
        rw [← zpow_add₀ two_ne_zero]
        congr 1
        omega
      _ ≤ num := (hpow num hnum).1
  rw [eq_comm, log_two_eq_iff (div_pos hnum' hden'), floorLog2, ← hg]
  split_ifs with h
  · exact ⟨htest.1 h, habove⟩
  · rw [htest, not_le] at h
    exact ⟨hbelow, by simpa using h⟩

end Double

theorem cast_twoTo {e : ℤ} (h : 0 ≤ e) : (twoTo e : ℚ) = 2 ^ e := by
  lift e to ℕ using h
  simp [twoTo]

theorem twoTo_mono {a b : ℤ} (h : a ≤ b) : twoTo a ≤ twoTo b :=
  Nat.pow_le_pow_right two_pos (Int.toNat_le_toNat h)

theorem cast_wholeLimit_eq_sub :
    (wholeLimit : ℚ) = 2 ^ (1024 : ℤ) - 2 ^ (970 : ℤ) := by
  rw [wholeLimit, Nat.cast_sub (twoTo_mono (by decide)), cast_twoTo (by decide),
    cast_twoTo (by decide)]

theorem wholeLimit_lt : (wholeLimit : ℚ) < 2 ^ (1024 : ℤ) := by
  rw [cast_wholeLimit_eq_sub]
  exact sub_lt_self _ (zpow_pos two_pos _)

theorem two_zpow_le_wholeLimit : 2 ^ (1023 : ℤ) ≤ (wholeLimit : ℚ) := by
  have hdouble : twoTo 1024 = 2 * twoTo 1023 := twoTo_one_add (e := 1023) (by decide)
  have hhalf : twoTo 970 ≤ twoTo 1023 := twoTo_mono (by decide)
  rw [← cast_twoTo (by decide), Nat.cast_le, wholeLimit]
  omega

/-- The limit of doubles lies half a step of the last grid below the next power of two. -/
theorem wholeLimit_div : (wholeLimit : ℚ) / 2 ^ Double.maxExponent = 2 ^ 53 - 1 / 2 := by
  rw [cast_wholeLimit_eq_sub, Double.maxExponent, sub_div, ← zpow_sub₀ two_ne_zero,
    ← zpow_sub₀ two_ne_zero]
  norm_num

namespace Double

/-- Mantissas of at most 53 binary digits, and the exponents of finite doubles. -/
structure InRange (m : ℕ) (e : ℤ) : Prop where
  mantissa_lt : m < 2 ^ 53
  le_exponent : minExponent ≤ e
  exponent_le : e ≤ maxExponent

/-- The exponent of the grid around a number. -/
def gridExponent (v : ℚ) : ℤ := max (Int.log 2 v - 52) minExponent

/-- The distance between the doubles around a number. -/
def spacing (v : ℚ) : ℚ := 2 ^ gridExponent |v|

theorem spacing_pos (v : ℚ) : 0 < spacing v := zpow_pos two_pos _

theorem two_zpow_le_spacing (v : ℚ) : 2 ^ minExponent ≤ spacing v :=
  zpow_le_zpow_right₀ one_le_two (le_max_right _ _)

variable {v : ℚ} {num den : ℕ}

theorem lt_two_zpow_gridExponent (hv : 0 < v) : v < 2 ^ 53 * 2 ^ gridExponent v := by
  have hlog := (lt_two_zpow_iff hv _).2 (lt_add_one (Int.log 2 v))
  have hle : Int.log 2 v + 1 ≤ 53 + gridExponent v := by
    rw [gridExponent]
    omega
  calc v < 2 ^ (Int.log 2 v + 1) := hlog
    _ ≤ 2 ^ (53 + gridExponent v) := zpow_le_zpow_right₀ one_le_two hle
    _ = 2 ^ 53 * 2 ^ gridExponent v := by
      rw [zpow_add₀ two_ne_zero]
      rfl

/-- Below the limit the grid is one of finite doubles. -/
theorem gridExponent_le (hv : 0 < v) (h : v < wholeLimit) : gridExponent v ≤ maxExponent := by
  have hlog := (lt_two_zpow_iff hv 1024).1 (h.trans wholeLimit_lt)
  have hmin : minExponent = -1074 := rfl
  have hmax : maxExponent = 971 := rfl
  rw [gridExponent]
  omega

theorem le_gridExponent (h : wholeLimit ≤ v) : maxExponent ≤ gridExponent v := by
  have hlow := two_zpow_le_wholeLimit.trans h
  have hv : 0 < v := lt_of_lt_of_le (zpow_pos two_pos _) hlow
  have hlog := (two_zpow_le_iff hv 1023).1 hlow
  have hmax : maxExponent = 971 := rfl
  rw [gridExponent]
  omega

/-- The mantissa of a quotient before it is brought below the greatest one. -/
def gridMantissa (num den : ℕ) : ℕ :=
  let e := gridExponent (num / den)
  roundHalfEven (num * twoTo (-e)) (den * twoTo e)

theorem isNearestEven_gridMantissa (hden : den ≠ 0) :
    IsNearestEven (num / den / 2 ^ gridExponent (num / den)) (gridMantissa num den) := by
  have hpos : 0 < den * twoTo (gridExponent (num / den)) :=
    Nat.mul_pos (Nat.pos_of_ne_zero hden) (twoTo_pos _)
  have hnearest := isNearestEven_roundHalfEven
    (num * twoTo (-gridExponent (num / den))) hpos
  rw [← twoTo_div_twoTo_neg, div_div_div_eq]
  exact_mod_cast hnearest

theorem gridMantissa_le (hnum : num ≠ 0) (hden : den ≠ 0) : gridMantissa num den ≤ 2 ^ 53 := by
  have hv : (0 : ℚ) < num / den :=
    div_pos (by exact_mod_cast Nat.pos_of_ne_zero hnum) (by exact_mod_cast Nat.pos_of_ne_zero hden)
  have hstep : (0 : ℚ) < 2 ^ gridExponent (num / den) := zpow_pos two_pos _
  have hlt := (div_lt_iff₀ hstep).2 (lt_two_zpow_gridExponent hv)
  apply Nat.le_of_lt_succ
  apply (isNearestEven_gridMantissa hden).lt_of_lt
  push_cast
  linarith

/-- Whether a double is the one nearest to a magnitude: infinite from the limit on, and otherwise
the nearest point of the grid, the even one of two. -/
structure IsNearest (negative : Bool) (v : ℚ) (x : Double) : Prop where
  infinite : wholeLimit ≤ v → x = .infinity negative
  finite : v < wholeLimit → ∃ m e k, x = .finite negative m e ∧ InRange m e ∧
    IsNearestEven (v / spacing v) k ∧ m * (2 : ℚ) ^ e = k * spacing v

theorem wholeLimit_pos : (0 : ℚ) < wholeLimit :=
  lt_of_lt_of_le (zpow_pos two_pos _) two_zpow_le_wholeLimit

theorem isNearest_zero (negative : Bool) {v : ℚ} (hv : 0 ≤ v) (hsmall : v ≤ spacing v / 2)
    (hlimit : v < wholeLimit) : IsNearest negative v (zero negative) where
  infinite h := absurd hlimit (not_lt.2 h)
  finite _ := by
    refine ⟨0, minExponent, 0, rfl, ⟨by decide, by decide, by decide⟩, ⟨?_, by simp⟩, by simp⟩
    rw [Nat.cast_zero, sub_zero, abs_of_nonneg (div_nonneg hv (spacing_pos v).le),
      div_le_iff₀ (spacing_pos v)]
    linarith

section

variable (negative : Bool) (hnum : num ≠ 0) (hden : den ≠ 0)
include hnum hden

theorem ofRatio_of_carry (h : gridMantissa num den = twoTo 53) :
    ofRatio negative num den =
      if maxExponent < gridExponent (num / den) + 1 then .infinity negative
      else .finite negative (twoTo 52) (gridExponent (num / den) + 1) := by
  rw [gridMantissa, gridExponent, ← floorLog2_eq_log hnum hden] at h
  rw [ofRatio, if_neg hnum, gridExponent, ← floorLog2_eq_log hnum hden]
  simp only [if_pos h]

theorem ofRatio_of_not_carry (h : gridMantissa num den ≠ twoTo 53) :
    ofRatio negative num den =
      if maxExponent < gridExponent (num / den) then .infinity negative
      else .finite negative (gridMantissa num den) (gridExponent (num / den)) := by
  rw [gridMantissa, gridExponent, ← floorLog2_eq_log hnum hden] at h
  rw [ofRatio, if_neg hnum, gridMantissa, gridExponent, ← floorLog2_eq_log hnum hden]
  simp only [if_neg h]

theorem ofRatio_eq_infinity (h : (wholeLimit : ℚ) ≤ num / den) :
    ofRatio negative num den = .infinity negative := by
  have hexponent := le_gridExponent h
  by_cases hcarry : gridMantissa num den = twoTo 53
  · rw [ofRatio_of_carry negative hnum hden hcarry, if_pos (by omega)]
  · have hlt : maxExponent < gridExponent (num / den) := by
      apply hexponent.lt_of_ne
      intro heq
      have hlimit := div_le_div_of_nonneg_right h (zpow_pos two_pos maxExponent).le
      rw [wholeLimit_div, heq] at hlimit
      have hle := (isNearestEven_gridMantissa hden).le_of_le (n := 2 ^ 53) (by decide)
        (by exact_mod_cast hlimit)
      exact hcarry (le_antisymm (gridMantissa_le hnum hden) hle)
    rw [ofRatio_of_not_carry negative hnum hden hcarry, if_pos hlt]

theorem exists_ofRatio_eq_finite (h : (num / den : ℚ) < wholeLimit) :
    ∃ m e, ofRatio negative num den = .finite negative m e ∧ InRange m e ∧
      m * (2 : ℚ) ^ e = gridMantissa num den * 2 ^ gridExponent (num / den) := by
  have hv : (0 : ℚ) < num / den :=
    div_pos (by exact_mod_cast Nat.pos_of_ne_zero hnum) (by exact_mod_cast Nat.pos_of_ne_zero hden)
  have hexponent := gridExponent_le hv h
  have hmin : minExponent ≤ gridExponent (num / den) := le_max_right _ _
  by_cases hcarry : gridMantissa num den = twoTo 53
  -- A carry is half as many steps of the next grid. There is one: on the last grid no number
  -- below the limit is rounded to a carry.
  · have hlt : gridExponent (num / den) < maxExponent := by
      apply hexponent.lt_of_ne
      intro heq
      have hlimit := div_lt_div_of_pos_right h (zpow_pos two_pos maxExponent)
      rw [wholeLimit_div, ← heq] at hlimit
      have hnear := (isNearestEven_gridMantissa hden).lt_of_lt (n := 2 ^ 53)
        (by exact_mod_cast hlimit)
      exact hnear.ne hcarry
    rw [ofRatio_of_carry negative hnum hden hcarry, if_neg (by omega)]
    refine ⟨_, _, rfl, ⟨by decide, by omega, by omega⟩, ?_⟩
    rw [hcarry, zpow_add_one₀ two_ne_zero, cast_twoTo (by decide), cast_twoTo (by decide)]
    norm_num
    ring
  · rw [ofRatio_of_not_carry negative hnum hden hcarry, if_neg (by omega)]
    exact ⟨_, _, rfl, ⟨(gridMantissa_le hnum hden).lt_of_ne hcarry, hmin, hexponent⟩, rfl⟩

end

theorem isNearest_ofRatio (negative : Bool) (num : ℕ) {den : ℕ} (hden : den ≠ 0) :
    IsNearest negative (num / den) (ofRatio negative num den) := by
  rcases eq_or_ne num 0 with rfl | hnum
  · rw [ofRatio, if_pos rfl, Nat.cast_zero, zero_div]
    exact isNearest_zero negative le_rfl (half_pos (spacing_pos 0)).le wholeLimit_pos
  have hv : (0 : ℚ) ≤ num / den := by positivity
  have hspacing : spacing (num / den) = 2 ^ gridExponent (num / den) := by
    rw [spacing, abs_of_nonneg hv]
  constructor
  · exact ofRatio_eq_infinity negative hnum hden
  · intro h
    obtain ⟨m, e, heq, hrange, hvalue⟩ := exists_ofRatio_eq_finite negative hnum hden h
    rw [hspacing]
    exact ⟨m, e, _, heq, hrange, isNearestEven_gridMantissa hden, hvalue⟩

end Double

namespace Decimal

open Double

theorem digitCount_le_iff {n k : ℕ} : Shortest.digitCount n ≤ k ↔ n < 10 ^ k := by
  rcases eq_or_ne n 0 with rfl | hn
  · simp [Shortest.digitCount]
  rcases eq_or_ne k 0 with rfl | hk
  · simp [Shortest.digitCount, hn, Nat.toDigits_ne_nil]
  · rw [Shortest.digitCount, if_neg hn]
    exact Nat.length_toDigits_le_iff (by decide) (Nat.pos_of_ne_zero hk)

theorem magnitude_eq_div (d : Decimal) :
    d.magnitude = (d.digits * tenTo d.exponent : ℕ) / (tenTo (-d.exponent) : ℕ) := by
  rw [Nat.cast_mul, mul_div_assoc, tenTo_div_tenTo_neg, magnitude]

theorem magnitude_lt (d : Decimal) :
    d.magnitude < 10 ^ (d.exponent + Shortest.digitCount d.digits) := by
  have hlt : (d.digits : ℚ) < 10 ^ Shortest.digitCount d.digits := by
    exact_mod_cast digitCount_le_iff.1 le_rfl
  rw [magnitude, zpow_add₀ (by norm_num), mul_comm, zpow_natCast]
  gcongr

theorem le_magnitude (d : Decimal) (h : d.digits ≠ 0) :
    10 ^ (d.exponent + Shortest.digitCount d.digits - 1) ≤ d.magnitude := by
  obtain ⟨k, hk⟩ : ∃ k, Shortest.digitCount d.digits = k + 1 := by
    apply Nat.exists_eq_succ_of_ne_zero
    simp [Shortest.digitCount, h, Nat.toDigits_ne_nil]
  have hle : (10 : ℚ) ^ k ≤ d.digits := by
    have hno := mt digitCount_le_iff.2 (by omega : ¬Shortest.digitCount d.digits ≤ k)
    exact_mod_cast not_lt.1 hno
  rw [magnitude, hk, Nat.cast_succ, ← add_assoc, add_sub_cancel_right, zpow_add₀ (by norm_num),
    mul_comm, zpow_natCast]
  gcongr

theorem two_zpow_le_ten_zpow {a b : ℤ} (hb : 0 ≤ b) (h : a ≤ 3 * b) :
    (2 : ℚ) ^ a ≤ 10 ^ b := by
  lift b to ℕ using hb
  calc (2 : ℚ) ^ a ≤ 2 ^ (3 * (b : ℤ)) := zpow_le_zpow_right₀ one_le_two h
    _ = 8 ^ b := by
      rw [zpow_mul, zpow_natCast]
      norm_num
    _ ≤ 10 ^ b := by gcongr; norm_num
    _ = 10 ^ (b : ℤ) := (zpow_natCast _ _).symm

theorem wholeLimit_le_magnitude (d : Decimal) (h : d.digits ≠ 0)
    (htop : 400 < d.exponent + Shortest.digitCount d.digits) : wholeLimit ≤ d.magnitude :=
  calc (wholeLimit : ℚ) ≤ 2 ^ (1024 : ℤ) := wholeLimit_lt.le
    _ ≤ 10 ^ (d.exponent + Shortest.digitCount d.digits - 1) :=
      two_zpow_le_ten_zpow (by omega) (by omega)
    _ ≤ d.magnitude := d.le_magnitude h

theorem magnitude_le_spacing (d : Decimal)
    (htop : d.exponent + Shortest.digitCount d.digits < -400) :
    d.magnitude ≤ spacing d.magnitude / 2 := by
  set top := d.exponent + Shortest.digitCount d.digits
  have hpower : (10 : ℚ) ^ top ≤ 2 ^ (minExponent - 1) := by
    have hmin : minExponent = -1074 := rfl
    have hflip := two_zpow_le_ten_zpow (a := 1 - minExponent) (b := -top) (by omega) (by omega)
    rw [← neg_sub, zpow_neg, zpow_neg] at hflip
    exact (inv_le_inv₀ (zpow_pos two_pos _) (zpow_pos (by norm_num) _)).1 hflip
  calc d.magnitude ≤ 10 ^ top := d.magnitude_lt.le
    _ ≤ 2 ^ (minExponent - 1) := hpower
    _ = 2 ^ minExponent / 2 := by rw [zpow_sub_one₀ two_ne_zero, div_eq_mul_inv]
    _ ≤ spacing d.magnitude / 2 := by
      have hspacing := two_zpow_le_spacing d.magnitude
      linarith

/-- A literal is read as the nearest double. Those far outside the range are settled by their size
alone. -/
theorem isNearest_toDouble (d : Decimal) : IsNearest d.negative d.magnitude d.toDouble := by
  have hden : tenTo (-d.exponent) ≠ 0 := (tenTo_pos _).ne'
  have hsmall : ∀ {v : ℚ}, v ≤ 1 → v < wholeLimit := fun hv =>
    lt_of_le_of_lt hv (lt_of_lt_of_le (one_lt_zpow₀ one_lt_two (by decide)) two_zpow_le_wholeLimit)
  rw [toDouble]
  split_ifs with hzero hhigh hlow
  · have hmagnitude : d.magnitude = 0 := by simp [magnitude, hzero]
    rw [hmagnitude]
    exact isNearest_zero _ le_rfl (half_pos (spacing_pos 0)).le wholeLimit_pos
  · have hlimit := d.wholeLimit_le_magnitude hzero hhigh
    exact ⟨fun _ => rfl, fun h => absurd h (not_lt.2 hlimit)⟩
  · apply isNearest_zero _ d.magnitude_nonneg (d.magnitude_le_spacing hlow)
    apply hsmall
    have hpower : (10 : ℚ) ^ (d.exponent + Shortest.digitCount d.digits) ≤ 1 :=
      zpow_le_one_of_nonpos₀ (by norm_num) (by omega)
    exact d.magnitude_lt.le.trans hpower
  · rw [magnitude_eq_div]
    exact isNearest_ofRatio _ _ hden

end Decimal

end TypedTemplate
