import TypedTemplate.Proofs.NearestDoubles

/-!
# Whole doubles

When the double nearest to a number is the number itself, and when it is whole. It is the number
itself if the number is that of a double, and it is whole if the number is below the limit of
doubles and at most half a step of the grid away from a whole number.
-/
namespace TypedTemplate.Double

def value? (x : Double) : Option ℚ := x.toRatio?.map fun r => r.1 / r.2

theorem value?_finite (negative : Bool) (m : ℕ) (e : ℤ) :
    value? (.finite negative m e) = some (signed negative (m * 2 ^ e)) := by
  have hpos : ((twoTo (-e) : ℕ) : ℚ) ≠ 0 := by exact_mod_cast (twoTo_pos _).ne'
  rw [← twoTo_div_twoTo_neg]
  cases negative <;> simp [value?, toRatio?, magnitude, signed] <;> ring

variable {x : Double} {v : ℚ} {n : ℤ}

theorem exists_toRatio?_of_value? (h : x.value? = some v) :
    ∃ num den, x.toRatio? = some (num, den) ∧ 0 < den ∧ v = num / den := by
  obtain ⟨⟨num, den⟩, hratio, rfl⟩ := Option.map_eq_some_iff.1 h
  refine ⟨num, den, hratio, ?_, rfl⟩
  cases x with
  | nan | infinity _ => cases hratio
  | finite negative m e =>
    cases hratio
    exact twoTo_pos _

theorem whole_of_value? (h : x.value? = some (n : ℚ)) :
    x.isWhole = true ∧ x.truncate? = some n := by
  obtain ⟨num, den, hratio, hden, hvalue⟩ := exists_toRatio?_of_value? h
  have hnum : num = n * den := by
    have hne : (den : ℚ) ≠ 0 := by exact_mod_cast hden.ne'
    rw [eq_div_iff hne] at hvalue
    exact_mod_cast hvalue.symm
  have hne : (den : ℤ) ≠ 0 := by exact_mod_cast hden.ne'
  subst hnum
  constructor
  · simp [isWhole, hratio]
  · simp [truncate?, hratio, Int.mul_tdiv_cancel _ hne]

theorem isWhole_iff : x.isWhole = true ↔ ∃ n : ℤ, x.value? = some (n : ℚ) := by
  constructor
  · intro h
    unfold isWhole at h
    split at h
    · rename_i num den hratio
      have hvalue : x.value? = some (num / den : ℚ) := by rw [value?, hratio]; rfl
      obtain ⟨_, den', hratio', hden, -⟩ := exists_toRatio?_of_value? hvalue
      rw [hratio'] at hratio
      cases hratio
      obtain ⟨k, rfl⟩ := Int.dvd_of_emod_eq_zero (by simpa using h)
      have hne : (den : ℚ) ≠ 0 := by exact_mod_cast hden.ne'
      refine ⟨k, ?_⟩
      rw [hvalue]
      push_cast
      rw [mul_div_cancel_left₀ _ hne]
    · cases h
  · rintro ⟨n, h⟩
    exact (whole_of_value? h).1

def IsValue (v : ℚ) : Prop := ∃ negative m e, InRange m e ∧ v = signed negative (m * 2 ^ e)

theorem wholeLimit_eq_mul : (wholeLimit : ℚ) = (2 ^ 53 - 1 / 2) * 2 ^ maxExponent := by
  have hlast : (2 : ℚ) ^ maxExponent ≠ 0 := (zpow_pos two_pos _).ne'
  rw [← wholeLimit_div, div_mul_cancel₀ _ hlast]

theorem InRange.lt_wholeLimit {m : ℕ} {e : ℤ} (h : InRange m e) : m * 2 ^ e < (wholeLimit : ℚ) := by
  have hlast : (0 : ℚ) < 2 ^ maxExponent := zpow_pos two_pos _
  have hmantissa : (m : ℚ) + 1 ≤ 2 ^ 53 := by exact_mod_cast h.mantissa_lt
  have hexponent : (2 : ℚ) ^ e ≤ 2 ^ maxExponent := zpow_le_zpow_right₀ one_le_two h.exponent_le
  calc (m : ℚ) * 2 ^ e ≤ m * 2 ^ maxExponent :=
        mul_le_mul_of_nonneg_left hexponent (Nat.cast_nonneg m)
    _ < (2 ^ 53 - 1 / 2) * 2 ^ maxExponent := by
      apply mul_lt_mul_of_pos_right _ hlast
      linarith
    _ = wholeLimit := wholeLimit_eq_mul.symm

theorem InRange.exists_div_spacing {m : ℕ} {e : ℤ} (h : InRange m e) :
    ∃ k : ℕ, (m * 2 ^ e : ℚ) / spacing (m * 2 ^ e) = k := by
  rcases eq_or_ne m 0 with rfl | hm
  · exact ⟨0, by simp⟩
  have hm' : (0 : ℚ) < m := by exact_mod_cast Nat.pos_of_ne_zero hm
  have hv : (0 : ℚ) < m * 2 ^ e := mul_pos hm' (zpow_pos two_pos _)
  have hlog : Int.log 2 (m * 2 ^ e : ℚ) < 53 + e := by
    rw [← lt_two_zpow_iff hv, zpow_add₀ two_ne_zero]
    apply mul_lt_mul_of_pos_right _ (zpow_pos two_pos _)
    exact_mod_cast h.mantissa_lt
  have hle : gridExponent (m * 2 ^ e) ≤ e := max_le (by omega) h.le_exponent
  refine ⟨m * 2 ^ (e - gridExponent (m * 2 ^ e)).toNat, ?_⟩
  rw [spacing, abs_of_pos hv, mul_div_assoc, ← zpow_sub₀ two_ne_zero, Nat.cast_mul, Nat.cast_pow,
    ← zpow_natCast, Int.toNat_of_nonneg (by omega)]
  rfl

namespace IsNearest

variable {negative : Bool} {a : ℚ}

theorem lt_wholeLimit (h : IsNearest negative a x) (hx : x.value? = some v) : a < wholeLimit := by
  by_contra hlimit
  rw [h.infinite (not_lt.1 hlimit)] at hx
  cases hx

/-- The double nearest to the number of a double is that one. -/
theorem value?_eq_iff (h : IsNearest negative a x) (ha : 0 ≤ a) :
    x.value? = some (signed negative a) ↔ IsValue a := by
  constructor
  · intro hx
    obtain ⟨m, e, k, rfl, hrange, -, -⟩ := h.finite (h.lt_wholeLimit hx)
    rw [value?_finite, Option.some.injEq] at hx
    have hvalue := congrArg (signed negative) hx
    rw [signed_signed, signed_signed] at hvalue
    exact ⟨false, m, e, hrange, hvalue.symm⟩
  · rintro ⟨s, m, e, hrange, hvalue⟩
    have hmagnitude : a = m * 2 ^ e := by
      have habs := congrArg abs hvalue
      rwa [abs_signed, abs_of_nonneg ha, abs_of_nonneg (by positivity)] at habs
    obtain ⟨N, hN⟩ := hrange.exists_div_spacing
    have hlimit := hrange.lt_wholeLimit
    rw [← hmagnitude] at hN hlimit
    obtain ⟨m', e', k, rfl, -, hnear, hk⟩ := h.finite hlimit
    rw [hN] at hnear
    rw [value?_finite, hk, hnear.eq_of_natCast, ← hN, div_mul_cancel₀ _ (spacing_pos a).ne']

/-- On a grid finer than the whole numbers these are even points: one that is at most half a step
away is nearest. -/
theorem cast_eq_of_near {q : ℚ} {k : ℕ} {N : ℤ} (h : IsNearestEven q k) (hN : Even N)
    (hq : |q - N| ≤ 1 / 2) : (k : ℤ) = N := by
  by_contra hne
  have hnear := abs_le.1 h.near
  have hq' := abs_le.1 hq
  have hfar : (1 : ℚ) ≤ |(k : ℚ) - N| := by
    exact_mod_cast Int.one_le_abs (sub_ne_zero.2 hne)
  have htie : |q - k| = 1 / 2 := by
    apply le_antisymm h.near
    have htriangle := abs_sub_le (k : ℚ) q N
    rw [abs_sub_comm (k : ℚ) q] at htriangle
    linarith
  have hclose : |(k : ℤ) - N| ≤ 1 := by
    have hle : |(k : ℚ) - N| ≤ 1 := by
      rw [abs_le]
      constructor <;> linarith
    exact_mod_cast hle
  have hk := h.even_of_tie htie
  rw [Nat.even_iff] at hk
  rw [Int.even_iff] at hN
  rw [abs_le] at hclose
  omega

/-- Around a whole number that is at most half a step away the nearest point of the grid is whole:
on a coarse grid all points are. -/
theorem exists_mul_spacing_eq {k : ℕ} (h : IsNearestEven (a / spacing a) k)
    (hn : |a - n| ≤ spacing a / 2) : ∃ n' : ℤ, k * spacing a = n' := by
  have hpos := spacing_pos a
  rcases le_or_gt 0 (gridExponent |a|) with hcoarse | hfine
  · refine ⟨k * 2 ^ (gridExponent |a|).toNat, ?_⟩
    rw [spacing]
    push_cast
    rw [← zpow_natCast, Int.toNat_of_nonneg hcoarse]
  · have hstep : spacing a * 2 ^ (-gridExponent |a|).toNat = 1 := by
      rw [spacing, ← zpow_natCast, Int.toNat_of_nonneg (by omega), ← zpow_add₀ two_ne_zero,
        add_neg_cancel, zpow_zero]
    set N : ℤ := n * 2 ^ (-gridExponent |a|).toNat with hN
    have hpoint : (N : ℚ) * spacing a = n := by
      rw [hN]
      push_cast
      rw [mul_assoc, mul_comm (2 ^ _ : ℚ), hstep, mul_one]
    have heven : Even N := (even_two.pow_of_ne_zero (by omega)).mul_left n
    have hclose : |a / spacing a - N| ≤ 1 / 2 := by
      have hscaled : a - n = (a / spacing a - N) * spacing a := by
        rw [sub_mul, div_mul_cancel₀ _ hpos.ne', hpoint]
      rw [hscaled, abs_mul, abs_of_pos hpos] at hn
      apply le_of_mul_le_mul_right _ hpos
      linarith
    refine ⟨n, ?_⟩
    rw [← hpoint, ← cast_eq_of_near h heven hclose]
    rfl

/-- The nearest double is whole exactly if a whole number is at most half a step away. -/
theorem exists_value?_eq_intCast_iff (h : IsNearest negative a x) :
    (∃ n : ℤ, x.value? = some (n : ℚ)) ↔
      a < wholeLimit ∧ ∃ n : ℤ, |a - n| ≤ spacing a / 2 := by
  have hpos := spacing_pos a
  constructor
  · rintro ⟨n, hx⟩
    have hlimit := h.lt_wholeLimit hx
    obtain ⟨m, e, k, rfl, -, hnear, hk⟩ := h.finite hlimit
    rw [value?_finite, hk, Option.some.injEq] at hx
    obtain ⟨n', hn'⟩ := signed_intCast negative n
    rw [← hx, signed_signed] at hn'
    refine ⟨hlimit, n', ?_⟩
    have hscaled : a - n' = (a / spacing a - k) * spacing a := by
      rw [sub_mul, div_mul_cancel₀ _ hpos.ne', hn']
    rw [hscaled, abs_mul, abs_of_pos hpos]
    have hle := mul_le_mul_of_nonneg_right hnear.near hpos.le
    linarith
  · rintro ⟨hlimit, n, hn⟩
    obtain ⟨m, e, k, rfl, -, hnear, hk⟩ := h.finite hlimit
    obtain ⟨n', hn'⟩ := exists_mul_spacing_eq hnear hn
    obtain ⟨n'', hn''⟩ := signed_intCast negative n'
    exact ⟨n'', by rw [value?_finite, hk, hn', hn'']⟩

end IsNearest

theorem spacing_signed (negative : Bool) (v : ℚ) : spacing (signed negative v) = spacing v := by
  rw [spacing, abs_signed, spacing]

theorem isValue_signed_iff {negative : Bool} : IsValue (signed negative v) ↔ IsValue v := by
  have hflip : ∀ {v : ℚ}, IsValue v → IsValue (signed negative v) := by
    rintro _ ⟨s, m, e, hrange, rfl⟩
    refine ⟨negative ^^ s, m, e, hrange, ?_⟩
    cases negative <;> cases s <;> simp [signed]
  constructor
  · intro h
    simpa using hflip h
  · exact hflip

theorem exists_near_signed_iff (negative : Bool) {distance : ℚ} :
    (∃ n : ℤ, |signed negative v - n| ≤ distance) ↔ ∃ n : ℤ, |v - n| ≤ distance := by
  have hflip : ∀ {v : ℚ}, (∃ n : ℤ, |v - n| ≤ distance) →
      ∃ n : ℤ, |signed negative v - n| ≤ distance := by
    rintro v ⟨n, hn⟩
    obtain ⟨k, hk⟩ := signed_intCast negative n
    refine ⟨k, ?_⟩
    rwa [← hk, ← signed_sub, abs_signed]
  constructor
  · intro h
    simpa using hflip h
  · exact hflip

/-- Whether the nearest double tells what whole number a number is, or that it is none: a whole
number has to be that of a double, and another one has to be too large for the doubles or more than
half a step of their grid away from all whole numbers. -/
def Tells (v : ℚ) : Prop :=
  (∃ n : ℤ, v = n) ∧ IsValue v ∨
    (∀ n : ℤ, v ≠ n) ∧ (wholeLimit ≤ |v| ∨ ∀ n : ℤ, spacing v / 2 < |v - n|)

theorem IsNearest.tells_iff {negative : Bool} {a : ℚ} (h : IsNearest negative a x) (ha : 0 ≤ a) :
    Tells (signed negative a) ↔
      (∀ n : ℤ, signed negative a = n → x.value? = some (n : ℚ)) ∧
        ((∀ n : ℤ, signed negative a ≠ n) → ∀ n : ℤ, x.value? ≠ some (n : ℚ)) := by
  have hvalue := h.value?_eq_iff ha
  have hwhole := h.exists_value?_eq_intCast_iff
  rw [Tells, isValue_signed_iff, abs_signed, abs_of_nonneg ha, spacing_signed]
  rw [← exists_near_signed_iff negative] at hwhole
  by_cases hn : ∃ n : ℤ, signed negative a = n
  · obtain ⟨n, hn⟩ := hn
    constructor
    · rintro (⟨-, hx⟩ | ⟨hnone, -⟩)
      · refine ⟨fun k hk => ?_, fun hnone => absurd hn (hnone n)⟩
        rw [hvalue.2 hx, hk]
      · exact absurd hn (hnone n)
    · intro hx
      left
      refine ⟨⟨n, hn⟩, hvalue.1 ?_⟩
      rw [hx.1 n hn, hn]
  · have hnone : ∀ n : ℤ, signed negative a ≠ n := not_exists.1 hn
    constructor
    · rintro (⟨hsome, -⟩ | ⟨-, hfar⟩)
      · exact absurd hsome hn
      · refine ⟨fun n heq => absurd heq (hnone n), fun _ n hx => ?_⟩
        obtain ⟨hlimit, k, hk⟩ := hwhole.1 ⟨n, hx⟩
        rcases hfar with hlarge | hfar
        · exact absurd hlimit (not_lt.2 hlarge)
        · exact absurd hk (not_le.2 (hfar k))
    · intro hx
      right
      refine ⟨hnone, ?_⟩
      by_contra hnear
      simp only [not_or, not_le, not_forall, not_lt] at hnear
      obtain ⟨k, hk⟩ := hwhole.2 hnear
      exact hx.2 hnone k hk

end TypedTemplate.Double
