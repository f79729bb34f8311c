import Mathlib.Algebra.Order.Floor.Semifield
import TypedTemplate.Filter.Apply
import TypedTemplate.Proofs.DecimalNumerals
import TypedTemplate.Proofs.WholeDoubles
import TypedTemplate.Proofs.WrittenLiterals

/-!
# Fixed places

A number with a fixed number of decimal places is rounded once, from its exact value, to the nearest
decimal with so many places, and of two to the one farther from zero. It is written with all of
these places. The digits that are needed for it stay within a limit, as doubles do not reach beyond
a power of ten and no more than a hundred places are shown.
-/
namespace TypedTemplate

theorem roundHalfUp_eq_floor (num : ℕ) {den : ℕ} (h : 0 < den) :
    roundHalfUp num den = ⌊(num / den : ℚ) + 1 / 2⌋₊ := by
  have hden : (den : ℚ) ≠ 0 := by exact_mod_cast h.ne'
  have hsum : (num / den : ℚ) + 1 / 2 = ((2 * num + den : ℕ) : ℚ) / ((2 * den : ℕ) : ℚ) := by
    push_cast
    field_simp
  rw [hsum, Nat.floor_div_eq_div, roundHalfUp]

theorem isDecimal_of_isAsciiDigit {c : Char} (h : isAsciiDigit c = true) : isDecimal c = true := by
  rw [isDecimal, digitValue?_of_isAsciiDigit h]
  rfl

namespace Decimal

theorem digitValues_ofNat (n : ℕ) :
    digitValues (Text.ofNat n) = (Text.ofNat n).map (·.toNat - 48) := by
  have htake := takeDigits_eq fun c hc => Text.isAsciiDigit_of_mem_ofNat (n := n) (c := c) hc
  obtain ⟨digits, ht, -, -, hvalues⟩ := takeDigits_eq_iff.1 htake
  rw [← hvalues, ht, List.append_nil]

theorem numeral_ofNat (n : ℕ) : numeral (Text.ofNat n) = n := by
  rw [numeral, digitValues_ofNat, value_ofNat]

theorem numeral_replicate_append (k : ℕ) (t : Text) :
    numeral (List.replicate k '0' ++ t) = numeral t := by
  induction k with
  | zero => rfl
  | succ k ih =>
    rw [← ih, List.replicate_succ]
    rfl

end Decimal

namespace Numeral

/-- The digits of a number are parted so many places before their end, with zeros in front where
there are too few of them. -/
theorem exists_parts (c places : ℕ) : ∃ whole fraction k,
    parts c (-(places : ℤ)) = (whole, fraction) ∧
      whole ++ fraction = List.replicate k '0' ++ Text.ofNat c ∧ whole ≠ [] ∧
        fraction.length = places := by
  have hpos : 0 < (Text.ofNat c).length := List.length_pos_of_ne_nil (Text.ofNat_ne_nil c)
  rw [parts]
  split
  · have hplaces : places = 0 := by omega
    exact ⟨_, _, 0, rfl, by simp [hplaces], by simp [Text.ofNat_ne_nil], hplaces.symm⟩
  · have htoNat : (-(-(places : ℤ))).toNat = places := by omega
    rw [htoNat]
    dsimp only
    refine ⟨_, _, _, rfl, List.take_append_drop _ _, ?_, ?_⟩
    · simp only [ne_eq, List.take_eq_nil_iff, List.append_eq_nil_iff, Text.ofNat_ne_nil, and_false,
        or_false, List.length_append, List.length_replicate]
      omega
    · simp only [List.length_drop, List.length_append, List.length_replicate]
      omega

end Numeral

/-- Whether a decimal is written with so many places: a minus sign or none, digits of ASCII before
the point, as many behind it as there are places, and no point where there are none. -/
structure Decimal.Spelling.HasPlaces (s : Spelling) (places : ℕ) : Prop where
  sign : s.sign = [] ∨ s.sign = ['-']
  whole : s.whole ≠ []
  fraction_length : (s.fraction.getD []).length = places
  point : s.fraction = none ↔ places = 0
  exponent : s.exponent = none
  ascii : ∀ c ∈ s.whole ++ s.fraction.getD [], isAsciiDigit c = true

theorem Numeral.exists_spelling (negative : Bool) (c places : ℕ) :
    ∃ s : Decimal.Spelling, s.HasPlaces places ∧
      assemble negative (parts c (-(places : ℤ))).1 (parts c (-(places : ℤ))).2 = s.text ∧
      Decimal.numeral (s.whole ++ s.fraction.getD []) = c ∧
      s.value = signed negative (c / 10 ^ places) := by
  obtain ⟨whole, fraction, k, hparts, hdigits, hwhole, hlength⟩ := exists_parts c places
  have hascii : ∀ c ∈ whole ++ fraction, isAsciiDigit c = true := by
    rw [hdigits]
    intro d hd
    rcases List.mem_append.1 hd with hd | hd
    · rw [List.eq_of_mem_replicate hd]
      rfl
    · exact Text.isAsciiDigit_of_mem_ofNat hd
  have hnumeral : Decimal.numeral (whole ++ fraction) = c := by
    rw [hdigits, Decimal.numeral_replicate_append, Decimal.numeral_ofNat]
  have hfraction : (if fraction = [] then none else some fraction).getD [] = fraction := by
    split <;> simp [*]
  let s : Decimal.Spelling :=
    { sign := if negative then ['-'] else []
      whole
      fraction := if fraction = [] then none else some fraction
      exponent := none
      isSign := by cases negative <;> decide
      areDigits := by
        rw [hfraction]
        exact fun d hd => isDecimal_of_isAsciiDigit (hascii d hd)
      digits_ne_nil := by simp [hwhole] }
  refine ⟨s, ?_, ?_, ?_, ?_⟩
  · exact
      { sign := by cases negative <;> simp [s]
        whole := hwhole
        fraction_length := by simp only [s, hfraction, hlength]
        point := by simp [s, ← hlength]
        exponent := rfl
        ascii := by simpa only [s, hfraction] using hascii }
  · rw [hparts]
    by_cases hempty : fraction = []
    · simp [s, Decimal.Spelling.text, Decimal.Spelling.mantissa, assemble, hempty]
    · simp [s, Decimal.Spelling.text, Decimal.Spelling.mantissa, assemble, hempty]
  · simp only [s, hfraction, hnumeral]
  · have hdecimal : s.toDecimal = ⟨negative, c, -places, s.toDecimal.plain⟩ := by
      simp only [s, Decimal.Spelling.toDecimal, hfraction, hnumeral, hlength, Option.elim, zero_sub]
      cases negative <;> rfl
    rw [Decimal.Spelling.value, hdecimal, Decimal.toRat, Decimal.magnitude, zpow_neg, zpow_natCast,
      div_eq_mul_inv]

/-- Whether a number is another one rounded to so many decimal places, a half away from zero. -/
structure IsRounded (places : ℕ) (q r : ℚ) : Prop where
  near : |r - q| ≤ 1 / 10 ^ places / 2
  away_of_tie : (∃ k : ℤ, q * 10 ^ places = k + 1 / 2) → |r| = |q| + 1 / 10 ^ places / 2

theorem abs_floor_add_half_sub_le {a : ℚ} (ha : 0 ≤ a) : |(⌊a + 1 / 2⌋₊ : ℚ) - a| ≤ 1 / 2 := by
  have hlow := Nat.floor_le (add_nonneg ha (by norm_num : (0 : ℚ) ≤ 1 / 2))
  have hhigh := Nat.lt_floor_add_one (a + 1 / 2)
  rw [abs_le]
  constructor <;> linarith

theorem isRounded_signed (negative : Bool) {a : ℚ} (ha : 0 ≤ a) (places : ℕ) :
    IsRounded places (signed negative a)
      (signed negative (⌊a * 10 ^ places + 1 / 2⌋₊ / 10 ^ places)) := by
  have hpos : (0 : ℚ) < 10 ^ places := by positivity
  have hscaled : 0 ≤ a * 10 ^ places := mul_nonneg ha hpos.le
  constructor
  · have hunit : (⌊a * 10 ^ places + 1 / 2⌋₊ / 10 ^ places - a : ℚ) =
        (⌊a * 10 ^ places + 1 / 2⌋₊ - a * 10 ^ places) / 10 ^ places := by
      rw [sub_div, mul_div_cancel_right₀ _ hpos.ne']
    rw [← signed_sub, abs_signed, hunit, abs_div, abs_of_pos hpos, div_right_comm]
    exact div_le_div_of_nonneg_right (abs_floor_add_half_sub_le hscaled) hpos.le
  · rintro ⟨k, hk⟩
    have htie : ∃ j : ℤ, a * 10 ^ places = j + 1 / 2 := by
      cases negative with
      | false => exact ⟨k, hk⟩
      | true =>
        refine ⟨-k - 1, ?_⟩
        simp only [signed, if_true, neg_mul] at hk
        push_cast
        linarith
    obtain ⟨j, hj⟩ := htie
    have hnonneg : 0 ≤ j := by
      have hlow : (-1 : ℚ) < j := by linarith
      have : -1 < j := by exact_mod_cast hlow
      omega
    obtain ⟨n, rfl⟩ := Int.eq_ofNat_of_zero_le hnonneg
    have hn : a * 10 ^ places = n + 1 / 2 := hj
    have hfloor : ⌊a * 10 ^ places + 1 / 2⌋₊ = n + 1 := by
      rw [hn, add_assoc, add_halves]
      exact_mod_cast Nat.floor_natCast (n + 1)
    rw [abs_signed, abs_signed, hfloor, abs_of_nonneg ha, abs_of_nonneg (by positivity),
      eq_div_of_mul_eq hpos.ne' hn]
    push_cast
    field_simp
    ring

/-- The digits of a number rounded to a number of decimal places, a half away from zero, unless more
digits than a limit are needed for them, before the rounding or behind it. -/
def quantize? (limit : ℕ) (q : ℚ) (places : ℕ) : Option ℕ :=
  let scaled := |q| * 10 ^ places
  let rounded := ⌊scaled + 1 / 2⌋₊
  if limit < Shortest.digitCount ⌊scaled⌋₊ then none
  else if limit < Shortest.digitCount rounded then none
  else some rounded

/-- The digits of rounded numbers are limited to those of the greatest number of places and four
hundred others. -/
def roundedDigits : ℕ := Filter.maxPlaces + 400

theorem abs_mul_le {q : ℚ} {places : ℕ} (hq : |q| < wholeLimit)
    (hplaces : places ≤ Filter.maxPlaces) : |q| * 10 ^ places ≤ 10 ^ (342 + Filter.maxPlaces) := by
  have hlimit : |q| ≤ 10 ^ 342 := by
    have hpower := Decimal.two_zpow_le_ten_zpow (a := 1024) (b := (342 : ℕ)) (by omega) (by omega)
    rw [zpow_natCast] at hpower
    exact (hq.trans wholeLimit_lt).le.trans hpower
  have hten : (10 : ℚ) ^ places ≤ 10 ^ Filter.maxPlaces :=
    pow_le_pow_right₀ (by norm_num) hplaces
  rw [pow_add]
  exact mul_le_mul hlimit hten (by positivity) (pow_nonneg (by norm_num) _)

theorem quantize?_eq_some {q : ℚ} {places : ℕ} (hq : |q| < wholeLimit)
    (hplaces : places ≤ Filter.maxPlaces) :
    quantize? roundedDigits q places = some ⌊|q| * 10 ^ places + 1 / 2⌋₊ := by
  have hscaled := abs_mul_le hq hplaces
  have hone : (1 : ℚ) ≤ 10 ^ (342 + Filter.maxPlaces) := one_le_pow₀ (by norm_num)
  have hten : (10 : ℚ) * 10 ^ (342 + Filter.maxPlaces) ≤ 10 ^ roundedDigits := by
    rw [← pow_succ']
    exact pow_le_pow_right₀ (by norm_num) (by decide)
  generalize (10 : ℚ) ^ (342 + Filter.maxPlaces) = bound at hscaled hone hten
  have hcount : ∀ x : ℚ, 0 ≤ x → x < 10 ^ roundedDigits →
      ¬roundedDigits < Shortest.digitCount ⌊x⌋₊ := by
    intro x hx hlt
    rw [not_lt, Decimal.digitCount_le_iff, Nat.floor_lt hx]
    exact_mod_cast hlt
  rw [quantize?, if_neg (hcount _ (by positivity) (by linarith)),
    if_neg (hcount _ (by positivity) (by linarith))]

namespace Number

/-- The exact value of a number, zero where it has none. -/
def toRat : Number → ℚ
  | .whole n => n
  | .real x => x.value?.getD 0

end Number

/-- The number of places that an argument asks for: cut off, and brought between zero and the
greatest number of places. -/
def Filter.clampedPlaces (argument : Text) : ℕ :=
  min ⌊(Number.ofText argument).toRat⌋₊ maxPlaces

theorem Number.toNat_toIntLenient (n : Number) : n.toIntLenient.toNat = ⌊n.toRat⌋₊ := by
  rw [← Int.floor_toNat]
  cases n with
  | whole k => rw [toRat, Int.floor_intCast, toIntLenient]
  | real x =>
    rw [toRat, toIntLenient]
    cases hvalue : x.value? with
    | none =>
      have hratio : x.toRatio? = none := Option.map_eq_none_iff.1 hvalue
      simp [Double.truncate?, hratio]
    | some v =>
      obtain ⟨num, den, hratio, hden, rfl⟩ := Double.exists_toRatio?_of_value? hvalue
      rw [Double.truncate?, hratio, Option.map_some, Option.getD_some, Option.getD_some,
        Rat.floor_intCast_div_natCast]
      dsimp only
      rcases le_or_gt 0 num with hnum | hnum
      · rw [Int.tdiv_eq_ediv_of_nonneg hnum]
      · have hfloor : num / (den : ℤ) ≤ 0 := Int.ediv_nonpos_of_nonpos_of_neg hnum.le (by omega)
        have hcut : 0 ≤ (-num).tdiv den := by
          rw [Int.tdiv_eq_ediv_of_nonneg (by omega)]
          exact Int.ediv_nonneg (by omega) (by omega)
        rw [Int.neg_tdiv] at hcut
        omega

theorem Filter.clampedPlaces_le (argument : Text) : clampedPlaces argument ≤ maxPlaces :=
  min_le_right _ _

theorem Filter.placesArgument_eq (argument : Text) :
    placesArgument argument = clampedPlaces argument := by
  rw [placesArgument, intArgument, Number.toNat_toIntLenient, clampedPlaces]

/-- Whether a double that is finite has a mantissa and an exponent of doubles. -/
def Double.IsRepresentable (x : Double) : Prop :=
  ∀ negative m e, x = .finite negative m e → InRange m e

theorem Double.IsNearest.isRepresentable {negative : Bool} {a : ℚ} {x : Double}
    (h : IsNearest negative a x) : x.IsRepresentable := by
  rintro s m e rfl
  obtain ⟨_, _, _, heq, hrange, -⟩ := h.finite (h.lt_wholeLimit (value?_finite s m e))
  cases heq
  exact hrange

namespace Number

theorem isRepresentable_of_ofText {t : Text} {x : Double} (h : ofText t = .real x) :
    x.IsRepresentable := by
  unfold ofText at h
  dsimp only at h
  split at h
  · cases h
  · unfold ofTrimmed at h
    split at h
    · rename_i d _
      split at h
      · cases h
      · cases h
        exact d.isNearest_toDouble.isRepresentable
    · dsimp only at h
      split at h <;> cases h <;> exact nofun

theorem abs_toRat_lt {n : Number} (hsize : n.exceedsDouble = false)
    (hdouble : ∀ x, n = .real x → x.IsRepresentable) : |n.toRat| < wholeLimit := by
  cases n with
  | whole k =>
    have hlt : k.natAbs < wholeLimit := by simpa [exceedsDouble] using hsize
    rw [toRat, ← Int.cast_abs, Int.abs_eq_natAbs]
    exact_mod_cast hlt
  | real x =>
    rw [toRat]
    cases x with
    | nan | infinity s =>
      have hzero : |(none : Option ℚ).getD 0| < wholeLimit := by
        rw [Option.getD_none, abs_zero]
        exact Double.wholeLimit_pos
      exact hzero
    | finite s m e =>
      rw [Double.value?_finite, Option.getD_some, abs_signed, abs_of_nonneg (by positivity)]
      exact (hdouble _ rfl s m e rfl).lt_wholeLimit

end Number

theorem Numeral.fixedPlaces_eq (negative : Bool) (num : ℕ) {den : ℕ} (h : 0 < den) (places : ℕ) :
    fixedPlaces negative num den places =
      let c := ⌊(num / den : ℚ) * 10 ^ places + 1 / 2⌋₊
      assemble negative (parts c (-(places : ℤ))).1 (parts c (-(places : ℤ))).2 := by
  have hten : tenTo (places : ℤ) = 10 ^ places := rfl
  have hscaled : ((num * 10 ^ places : ℕ) / den : ℚ) = (num / den : ℚ) * 10 ^ places := by
    push_cast
    ring
  rw [fixedPlaces, hten, roundHalfUp_eq_floor _ h, hscaled]

namespace Filter

theorem exists_fixedPlaces_of_isFinite {value : Value} (hfinite : value.toNumber.isFinite = true)
    (hsize : value.toNumber.exceedsDouble = false) (argument : Text) (rest : List Text) :
    ∃ (negative : Bool) (num den : ℕ), 0 < den ∧
      value.toNumber.toRat = signed negative (num / den : ℚ) ∧
      fixed value (argument :: rest) =
        .ok (Numeral.fixedPlaces negative num den (placesArgument argument)) := by
  have hargument : Filter.argument (argument :: rest) 0 = .ok argument := rfl
  unfold fixed
  dsimp only
  rw [hsize]
  cases hn : value.toNumber with
  | whole n =>
    refine ⟨n < 0, n.natAbs, 1, one_pos, ?_, ?_⟩
    · rw [Number.toRat, Nat.cast_one, div_one, Nat.cast_natAbs]
      rcases lt_or_ge n 0 with hneg | hpos
      · simp [signed, hneg, abs_of_neg hneg]
      · simp [signed, not_lt.2 hpos, abs_of_nonneg hpos]
    · rw [hargument]
      rfl
  | real x =>
    cases x with
    | nan | infinity s =>
      rw [hn] at hfinite
      cases hfinite
    | finite negative m e =>
      refine ⟨negative, m * twoTo e, twoTo (-e), twoTo_pos _, ?_, ?_⟩
      · rw [Number.toRat, Double.value?_finite, Option.getD_some, Nat.cast_mul, mul_div_assoc,
          twoTo_div_twoTo_neg]
      · rw [hargument]
        rfl

end Filter

theorem Value.isRepresentable_of_toNumber {value : Value}
    (hdouble : ∀ x, value = .number (.real x) → x.IsRepresentable) :
    ∀ x, value.toNumber = .real x → x.IsRepresentable := by
  intro x hx
  cases value with
  | null | bool _ => cases hx
  | number n =>
    cases hx
    exact hdouble x rfl
  | text t => exact Number.isRepresentable_of_ofText hx
  | list _ | object _ =>
    cases hx
    exact nofun

/-- A finite number, which is whole and within the range of doubles or the exact value of one, is
written with exactly the places that the argument asks for. What is written is within half a unit of
the last place of the number, and of two that are equally near the one farther from zero. The digits
that are needed stay within their limit. -/
theorem fixed_writes_rounded_number {value : Value} (hfinite : value.toNumber.isFinite = true)
    (hsize : value.toNumber.exceedsDouble = false)
    (hdouble : ∀ x, value = .number (.real x) → x.IsRepresentable)
    (context : Filter.Context) (argument : Text) (rest : List Text) :
    ∃ s : Decimal.Spelling,
      Filter.apply .fixed context (argument :: rest) value = .ok (.text s.text) ∧
      s.HasPlaces (Filter.clampedPlaces argument) ∧
      IsRounded (Filter.clampedPlaces argument) value.toNumber.toRat s.value ∧
      quantize? roundedDigits value.toNumber.toRat (Filter.clampedPlaces argument) =
        some (Decimal.numeral (s.whole ++ s.fraction.getD [])) := by
  obtain ⟨negative, num, den, hden, hvalue, hfixed⟩ :=
    Filter.exists_fixedPlaces_of_isFinite hfinite hsize argument rest
  rw [Filter.placesArgument_eq, Numeral.fixedPlaces_eq negative num hden] at hfixed
  obtain ⟨s, hs, htext, hnumeral, hstated⟩ := Numeral.exists_spelling negative
    ⌊(num / den : ℚ) * 10 ^ Filter.clampedPlaces argument + 1 / 2⌋₊ (Filter.clampedPlaces argument)
  have hratio : (0 : ℚ) ≤ num / den := by positivity
  have hlimit := Number.abs_toRat_lt hsize (Value.isRepresentable_of_toNumber hdouble)
  refine ⟨s, ?_, hs, ?_, ?_⟩
  · rw [Filter.apply, hfixed, ← htext]
    rfl
  · rw [hvalue, hstated]
    exact isRounded_signed negative hratio _
  · rw [hnumeral, quantize?_eq_some hlimit (Filter.clampedPlaces_le argument), hvalue, abs_signed,
      abs_of_nonneg hratio]

/-- Two and a half without places is written as three, the number farther from zero. -/
theorem two_and_half_is_rounded_away : ∃ s : Decimal.Spelling,
    Filter.apply .fixed ⟨none, "UTC"⟩ ["0.9"] (.number (.real (.finite false 5 (-1)))) =
      .ok (.text s.text) ∧
    s.HasPlaces 0 ∧ IsRounded 0 (5 / 2) s.value ∧ |s.value| = 3 := by
  have hdouble : ∀ x, Value.number (.real (.finite false 5 (-1))) = .number (.real x) →
      x.IsRepresentable := by
    rintro _ ⟨⟩ _ _ _ ⟨⟩
    exact ⟨by decide, by decide, by decide⟩
  have hplaces : Filter.clampedPlaces "0.9" = 0 := by
    rw [← Filter.placesArgument_eq]
    decide +kernel
  have hvalue : (Value.number (.real (.finite false 5 (-1)))).toNumber.toRat = 5 / 2 := by
    rw [Value.toNumber, Number.toRat, Double.value?_finite]
    norm_num [signed]
  obtain ⟨s, happly, hs, hrounded, -⟩ :=
    fixed_writes_rounded_number rfl rfl hdouble ⟨none, "UTC"⟩ "0.9" []
  rw [hplaces] at hs hrounded
  rw [hvalue] at hrounded
  refine ⟨s, happly, hs, hrounded, ?_⟩
  have haway := hrounded.away_of_tie ⟨2, by norm_num⟩
  norm_num at haway
  exact haway

end TypedTemplate
