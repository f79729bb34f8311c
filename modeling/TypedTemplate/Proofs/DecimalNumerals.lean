import Mathlib.Algebra.Order.Field.Power
import Mathlib.Algebra.Order.Field.Rat
import Mathlib.Data.List.TakeWhile
import Mathlib.Tactic.Positivity
import Mathlib.Tactic.Ring
import TypedTemplate.Number.Decimal

/-!
# Decimal numerals

How a decimal literal is written: a sign or none, digits with at most one point among them, and an
exponent or none. The reader takes exactly the texts that are written so, and takes each of them as
its sign, its digits and the power of ten that they are multiplied by.
-/
namespace TypedTemplate

namespace Decimal

def AreDigits (t : Text) : Prop := ∀ c ∈ t, isDecimal c = true

instance (t : Text) : Decidable (AreDigits t) :=
  List.decidableBAll _ t

def EndsDigits (t : Text) : Prop := ∀ c ∈ t.head?, isDecimal c = false

def digitValues (t : Text) : List Nat := t.filterMap digitValue?

/-- The number that a row of digits stands for. -/
def numeral (t : Text) : Nat := value (digitValues t)

theorem areDigits_append {a b : Text} : AreDigits (a ++ b) ↔ AreDigits a ∧ AreDigits b :=
  List.forall_mem_append

theorem endsDigits_nil : EndsDigits [] := nofun

theorem endsDigits_cons {c : Char} {t : Text} : EndsDigits (c :: t) ↔ isDecimal c = false := by
  simp [EndsDigits]

theorem AreDigits.length_digitValues {t : Text} (h : AreDigits t) :
    (digitValues t).length = t.length := by
  induction t with
  | nil => rfl
  | cons c t ih =>
    obtain ⟨hc, ht⟩ := List.forall_mem_cons.1 h
    obtain ⟨d, hd⟩ := Option.isSome_iff_exists.1 hc
    have hrest := ih ht
    simp only [digitValues] at hrest ⊢
    simp [hd, hrest]

theorem AreDigits.digitValues_eq_nil_iff {t : Text} (h : AreDigits t) :
    digitValues t = [] ↔ t = [] := by
  rw [← List.length_eq_zero_iff, h.length_digitValues, List.length_eq_zero_iff]

theorem takeDigits_eq_takeWhile (t : Text) :
    takeDigits t = (digitValues (t.takeWhile isDecimal), t.dropWhile isDecimal) := by
  induction t with
  | nil => rfl
  | cons c t ih =>
    cases hc : digitValue? c with
    | none => simp [takeDigits, isDecimal, digitValues, hc]
    | some d => simp [takeDigits, ih, isDecimal, digitValues, hc]

theorem takeDigits_eq_iff {t rest : Text} {values : List Nat} :
    takeDigits t = (values, rest) ↔
      ∃ digits, t = digits ++ rest ∧ AreDigits digits ∧ EndsDigits rest ∧
        digitValues digits = values := by
  rw [takeDigits_eq_takeWhile, Prod.mk.injEq]
  constructor
  · rintro ⟨rfl, rfl⟩
    refine ⟨_, List.takeWhile_append_dropWhile.symm, fun c hc => List.mem_takeWhile_imp hc, ?_, rfl⟩
    intro c hc
    have hdrop := List.head?_dropWhile_not isDecimal t
    rw [Option.mem_def] at hc
    rw [hc] at hdrop
    simpa using hdrop
  · rintro ⟨digits, rfl, hdigits, hends, rfl⟩
    rw [List.takeWhile_append_of_pos hdigits, List.dropWhile_append_of_pos hdigits]
    cases rest with
    | nil => simp
    | cons c rest => simp [endsDigits_cons.1 hends]

def signs : List Text := ["", "+", "-"]

def BeginsWithSign (t : Text) : Prop := ∃ c ∈ t.head?, c = '+' ∨ c = '-'

theorem takeSign_append {sign rest : Text} (h : sign ∈ signs) (hrest : ¬BeginsWithSign rest) :
    takeSign (sign ++ rest) = (sign == ['-'], rest) := by
  have hcases : sign = [] ∨ sign = ['+'] ∨ sign = ['-'] := by simpa [signs] using h
  rcases hcases with rfl | rfl | rfl
  · cases rest with
    | nil => rfl
    | cons c rest =>
      have hc : c ≠ '+' ∧ c ≠ '-' := by simpa [BeginsWithSign] using hrest
      simp [takeSign, hc]
  · rfl
  · rfl

theorem exists_sign_of_takeSign {t rest : Text} {negative : Bool}
    (h : takeSign t = (negative, rest)) :
    ∃ sign ∈ signs, t = sign ++ rest ∧ negative = (sign == ['-']) := by
  unfold takeSign at h
  split at h <;> cases h
  · exact ⟨['-'], by simp [signs], rfl, rfl⟩
  · exact ⟨['+'], by simp [signs], rfl, rfl⟩
  · exact ⟨[], by simp [signs], rfl, rfl⟩

/-- The letter e in either case, a sign or none, and digits. -/
structure Exponent where
  mark : Char
  sign : Text
  digits : Text
  isMark : mark = 'e' ∨ mark = 'E'
  isSign : sign ∈ signs
  areDigits : AreDigits digits
  digits_ne_nil : digits ≠ []

namespace Exponent

def text (x : Exponent) : Text := x.mark :: (x.sign ++ x.digits)

def value (x : Exponent) : Int :=
  if x.sign = ['-'] then -(numeral x.digits : Int) else numeral x.digits

end Exponent

/-- A sign or none, digits with at most one point among them, and an exponent or none. -/
structure Spelling where
  sign : Text
  whole : Text
  fraction : Option Text
  exponent : Option Exponent
  isSign : sign ∈ signs
  areDigits : AreDigits (whole ++ fraction.getD [])
  digits_ne_nil : whole ++ fraction.getD [] ≠ []

namespace Spelling

def mantissa (s : Spelling) : Text := s.whole ++ s.fraction.elim [] ('.' :: ·)

def text (s : Spelling) : Text := s.sign ++ (s.mantissa ++ s.exponent.elim [] Exponent.text)

/-- Whether neither a point nor an exponent is written. -/
def IsPlain (s : Spelling) : Prop := s.fraction = none ∧ s.exponent = none

def toDecimal (s : Spelling) : Decimal where
  negative := s.sign == ['-']
  digits := numeral (s.whole ++ s.fraction.getD [])
  exponent := s.exponent.elim 0 Exponent.value - (s.fraction.getD []).length
  plain := s.fraction.isNone && s.exponent.isNone

end Spelling

theorem not_beginsWithSign_of_areDigits {digits : Text} (h : AreDigits digits)
    (hne : digits ≠ []) (rest : Text) : ¬BeginsWithSign (digits ++ rest) := by
  obtain ⟨c, digits, rfl⟩ := List.exists_cons_of_ne_nil hne
  have hc := h c (by simp)
  simp only [BeginsWithSign, List.cons_append, List.head?_cons, Option.mem_def, Option.some.injEq,
    exists_eq_left']
  rintro (rfl | rfl) <;> exact absurd hc (by decide)

theorem readExponent?_text (x : Exponent) : readExponent? x.text = some (some x.value) := by
  have hmark : (x.mark == 'e' || x.mark == 'E') = true := by simpa using x.isMark
  have hsign := takeSign_append x.isSign
    (not_beginsWithSign_of_areDigits x.areDigits x.digits_ne_nil [])
  have hdigits : takeDigits x.digits = (digitValues x.digits, []) :=
    takeDigits_eq_iff.2 ⟨x.digits, by simp, x.areDigits, endsDigits_nil, rfl⟩
  have hne : digitValues x.digits ≠ [] := mt x.areDigits.digitValues_eq_nil_iff.1 x.digits_ne_nil
  rw [List.append_nil] at hsign
  rw [Exponent.text, readExponent?, if_pos hmark, hsign]
  dsimp only
  rw [hdigits]
  cases hvalues : digitValues x.digits with
  | nil => exact absurd hvalues hne
  | cons d ds => simp [Exponent.value, numeral, hvalues]

theorem exists_exponent_of_readExponent? {t : Text} {e : Option Int}
    (h : readExponent? t = some e) :
    ∃ x : Option Exponent, x.elim [] Exponent.text = t ∧ x.map Exponent.value = e := by
  cases t with
  | nil => exact ⟨none, rfl, Option.some.inj h⟩
  | cons mark rest =>
    rw [readExponent?] at h
    split at h
    · rename_i hmark
      cases hbody : takeSign rest with
      | mk negative body =>
        obtain ⟨sign, hsign, rfl, rfl⟩ := exists_sign_of_takeSign hbody
        rw [hbody] at h
        dsimp only at h
        split at h
        · cases h
        · rename_i ds hnonempty hread
          obtain ⟨digits, rfl, hdigits, -, rfl⟩ := takeDigits_eq_iff.1 hread
          rw [← Option.some.inj h]
          have hne : digits ≠ [] := by
            rintro rfl
            exact hnonempty rfl
          refine ⟨some ⟨mark, sign, digits, by simpa using hmark, hsign, hdigits, hne⟩, ?_, ?_⟩
          · simp [Exponent.text]
          · simp [Exponent.value, numeral]
        · cases h
    · cases h

theorem takeDigits_mantissa {w tail : Text} {f : Option Text} (hw : AreDigits w)
    (htail : EndsDigits tail) :
    takeDigits (w ++ f.elim [] ('.' :: ·) ++ tail) =
      (digitValues w, f.elim [] ('.' :: ·) ++ tail) := by
  refine takeDigits_eq_iff.2 ⟨w, by simp, hw, ?_, rfl⟩
  cases f with
  | none => exact htail
  | some f => exact endsDigits_cons.2 (by decide)

theorem takeMantissa?_append {w tail : Text} {f : Option Text}
    (hdigits : AreDigits (w ++ f.getD [])) (hne : w ++ f.getD [] ≠ []) (htail : EndsDigits tail)
    (hpoint : tail.head? ≠ some '.') :
    takeMantissa? (w ++ f.elim [] ('.' :: ·) ++ tail) =
      some (digitValues w, f.map digitValues, tail) := by
  obtain ⟨hw, hf⟩ := areDigits_append.1 hdigits
  rw [takeMantissa?, takeDigits_mantissa hw htail]
  have hvalues := hw.digitValues_eq_nil_iff
  cases f with
  | none =>
    have hnonempty : digitValues w ≠ [] := by simpa [hvalues] using hne
    cases hds : digitValues w with
    | nil => exact absurd hds hnonempty
    | cons d ds =>
      cases tail with
      | nil => rfl
      | cons c tail =>
        have hc : c ≠ '.' := by simpa using hpoint
        simp [hc]
  | some f =>
    have htake : takeDigits (f ++ tail) = (digitValues f, tail) :=
      takeDigits_eq_iff.2 ⟨f, rfl, hf, htail, rfl⟩
    cases hds : digitValues w with
    | cons d ds => simp [htake]
    | nil =>
      have hnonempty : f ≠ [] := by simpa [hvalues.1 hds] using hne
      cases hfs : digitValues f with
      | nil => exact absurd ((AreDigits.digitValues_eq_nil_iff hf).1 hfs) hnonempty
      | cons d ds => simp [htake, hfs]

theorem exists_mantissa_of_takeMantissa? {t tail : Text} {whole : List Nat}
    {fraction : Option (List Nat)} (h : takeMantissa? t = some (whole, fraction, tail)) :
    ∃ (w : Text) (f : Option Text), AreDigits (w ++ f.getD []) ∧ w ++ f.getD [] ≠ [] ∧
      t = w ++ f.elim [] ('.' :: ·) ++ tail ∧ digitValues w = whole ∧
        f.map digitValues = fraction := by
  unfold takeMantissa? at h
  split at h
  · rename_i rest hwhole
    split at h
    · cases h
    · rename_i values tail' hnonempty hfraction
      cases h
      obtain ⟨w, rfl, hw, -, hvalues⟩ := takeDigits_eq_iff.1 hwhole
      obtain ⟨f, rfl, hf, -, rfl⟩ := takeDigits_eq_iff.1 hfraction
      obtain rfl := hw.digitValues_eq_nil_iff.1 hvalues
      refine ⟨[], some f, hf, ?_, by simp, rfl, rfl⟩
      rintro rfl
      exact hnonempty rfl
  · cases h
  · rename_i whole' rest hnonempty hwhole
    cases hfraction : takeDigits rest with
    | mk values tail' =>
      rw [hfraction] at h
      cases h
      obtain ⟨w, rfl, hw, -, rfl⟩ := takeDigits_eq_iff.1 hwhole
      obtain ⟨f, rfl, hf, -, rfl⟩ := takeDigits_eq_iff.1 hfraction
      refine ⟨w, some f, areDigits_append.2 ⟨hw, hf⟩, ?_, by simp, rfl, rfl⟩
      simp only [Option.getD_some, ne_eq, List.append_eq_nil_iff, not_and]
      rintro rfl
      exact absurd rfl hnonempty
  · rename_i hnonempty hpoint hwhole
    cases h
    obtain ⟨w, rfl, hw, -, rfl⟩ := takeDigits_eq_iff.1 hwhole
    refine ⟨w, none, by simpa using hw, ?_, by simp, rfl, rfl⟩
    simp only [Option.getD_none, List.append_nil]
    rintro rfl
    exact absurd rfl hnonempty

theorem endsDigits_exponent (x : Option Exponent) : EndsDigits (x.elim [] Exponent.text) := by
  cases x with
  | none => exact endsDigits_nil
  | some x =>
    apply endsDigits_cons.2
    rcases x.isMark with h | h <;> rw [h] <;> decide

theorem not_beginsWithSign_mantissa (s : Spelling) (rest : Text) :
    ¬BeginsWithSign (s.mantissa ++ rest) := by
  rw [Spelling.mantissa]
  rcases eq_or_ne s.whole [] with hwhole | hwhole
  · cases hfraction : s.fraction with
    | none => exact absurd (by simp [hwhole, hfraction]) s.digits_ne_nil
    | some f => simp [hwhole, BeginsWithSign]
  · rw [List.append_assoc]
    exact not_beginsWithSign_of_areDigits (areDigits_append.1 s.areDigits).1 hwhole _

namespace Spelling

theorem toDecimal_eq (s : Spelling) :
    s.toDecimal =
      { negative := s.sign == ['-']
        digits := value (digitValues s.whole ++ (s.fraction.map digitValues).getD [])
        exponent := (s.exponent.map Exponent.value).getD 0 -
          ((s.fraction.map digitValues).getD []).length
        plain := (s.fraction.map digitValues).isNone &&
          (s.exponent.map Exponent.value).isNone } := by
  have hfraction : (s.fraction.map digitValues).getD [] = digitValues (s.fraction.getD []) := by
    cases s.fraction <;> rfl
  have hexponent : (s.exponent.map Exponent.value).getD 0 = s.exponent.elim 0 Exponent.value := by
    cases s.exponent <;> rfl
  have hlength := (areDigits_append.1 s.areDigits).2.length_digitValues
  rw [hfraction, hexponent, hlength, Option.isNone_map, Option.isNone_map]
  simp [toDecimal, numeral, digitValues]

theorem read?_text (s : Spelling) : read? s.text = some s.toDecimal := by
  have hpoint : (s.exponent.elim [] Exponent.text).head? ≠ some '.' := by
    cases s.exponent with
    | none => nofun
    | some x => rcases x.isMark with h | h <;> simp [Exponent.text, h]
  have hexponent : readExponent? (s.exponent.elim [] Exponent.text) =
      some (s.exponent.map Exponent.value) := by
    cases s.exponent with
    | none => rfl
    | some x => exact readExponent?_text x
  rw [read?, text, takeSign_append s.isSign (not_beginsWithSign_mantissa s _)]
  dsimp only
  rw [mantissa, takeMantissa?_append s.areDigits s.digits_ne_nil (endsDigits_exponent _) hpoint]
  simp only [bind, Option.bind_some, hexponent, toDecimal_eq]

end Spelling

/-- The reader takes the spelled texts, each of them as what is read of its spelling. -/
theorem read?_eq_some_iff {t : Text} {d : Decimal} :
    read? t = some d ↔ ∃ s : Spelling, s.text = t ∧ s.toDecimal = d := by
  constructor
  · intro h
    cases hsign : takeSign t with
    | mk negative rest =>
      simp only [read?, hsign, bind, Option.bind_eq_some_iff, Option.some.injEq] at h
      obtain ⟨⟨whole, fraction, tail⟩, hmantissa, exponent, hexponent, rfl⟩ := h
      obtain ⟨sign, hmem, rfl, rfl⟩ := exists_sign_of_takeSign hsign
      obtain ⟨w, f, hdigits, hne, rfl, rfl, rfl⟩ := exists_mantissa_of_takeMantissa? hmantissa
      obtain ⟨x, rfl, rfl⟩ := exists_exponent_of_readExponent? hexponent
      exact ⟨⟨sign, w, f, x, hmem, hdigits, hne⟩, rfl, Spelling.toDecimal_eq _⟩
  · rintro ⟨s, rfl, rfl⟩
    exact s.read?_text

end Decimal

def signed (negative : Bool) (v : ℚ) : ℚ := if negative then -v else v

@[simp] theorem abs_signed (negative : Bool) (v : ℚ) : |signed negative v| = |v| := by
  cases negative <;> simp [signed]

@[simp] theorem signed_signed (negative : Bool) (v : ℚ) :
    signed negative (signed negative v) = v := by
  cases negative <;> simp [signed]

theorem signed_sub (negative : Bool) (v w : ℚ) :
    signed negative (v - w) = signed negative v - signed negative w := by
  cases negative
  · rfl
  · simp only [signed, if_true]
    ring

theorem signed_intCast (negative : Bool) (n : ℤ) : ∃ k : ℤ, signed negative n = k := by
  cases negative
  · exact ⟨n, rfl⟩
  · exact ⟨-n, by simp [signed]⟩

namespace Decimal

def magnitude (d : Decimal) : ℚ := d.digits * 10 ^ d.exponent

def toRat (d : Decimal) : ℚ := signed d.negative d.magnitude

theorem magnitude_nonneg (d : Decimal) : 0 ≤ d.magnitude := by
  unfold magnitude
  positivity

namespace Spelling

def value (s : Spelling) : ℚ := s.toDecimal.toRat

theorem plain_toDecimal_iff {s : Spelling} : s.toDecimal.plain = true ↔ s.IsPlain := by
  simp [toDecimal, IsPlain]

theorem value_eq_toInt {s : Spelling} (h : s.IsPlain) : s.value = s.toDecimal.toInt := by
  have hexponent : s.toDecimal.exponent = 0 := by simp [toDecimal, h.1, h.2]
  rw [value, toRat, magnitude, hexponent, toInt]
  cases s.toDecimal.negative <;> simp [signed]

end Spelling

end Decimal

end TypedTemplate
