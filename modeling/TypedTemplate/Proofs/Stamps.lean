import TypedTemplate.Proofs.SpelledOffsets
import TypedTemplate.Schema.Format

/-!
# Stamps

The formats of dates, times and instants ask for numerals and marks at fixed places. What has the
format of instants is a stamp: a date and a clock, with a fraction and an offset or without.
-/
namespace TypedTemplate

/-- Whether a text is a numeral of some width, in decimal digits of any script. -/
structure IsNumeral (width : Nat) (t : Text) : Prop where
  length_eq : t.length = width
  isDecimal_of_mem : ∀ c ∈ t, isDecimal c = true

namespace IsNumeral

variable {width : Nat} {c : Char} {t : Text}

theorem nil_iff : IsNumeral 0 t ↔ t = [] := by
  constructor
  · intro h
    exact List.eq_nil_of_length_eq_zero h.length_eq
  · rintro rfl
    exact ⟨rfl, by simp⟩

theorem cons_iff : IsNumeral (width + 1) (c :: t) ↔ isDecimal c = true ∧ IsNumeral width t := by
  constructor
  · intro ⟨hlength, hdigits⟩
    rw [List.forall_mem_cons] at hdigits
    exact ⟨hdigits.1, by simpa using hlength, hdigits.2⟩
  · intro ⟨hc, hlength, hdigits⟩
    exact ⟨by simpa using hlength, List.forall_mem_cons.2 ⟨hc, hdigits⟩⟩

theorem exists_two (h : IsNumeral 2 t) :
    ∃ a b, t = [a, b] ∧ isDecimal a = true ∧ isDecimal b = true := by
  obtain ⟨a, b, rfl⟩ := List.length_eq_two.1 h.length_eq
  exact ⟨a, b, rfl, h.isDecimal_of_mem a (by simp), h.isDecimal_of_mem b (by simp)⟩

theorem exists_four (h : IsNumeral 4 t) :
    ∃ a b c d, t = [a, b, c, d] ∧ isDecimal a = true ∧ isDecimal b = true ∧ isDecimal c = true ∧
      isDecimal d = true := by
  obtain ⟨a, t, rfl⟩ := List.exists_cons_of_length_eq_add_one h.length_eq
  obtain ⟨b, t, rfl⟩ := List.exists_cons_of_length_eq_add_one (cons_iff.1 h).2.length_eq
  obtain ⟨ha, hb, hrest⟩ := (cons_iff.1 h).imp_right cons_iff.1
  obtain ⟨c, d, rfl, hc, hd⟩ := hrest.exists_two
  exact ⟨a, b, c, d, rfl, ha, hb, hc, hd⟩

theorem ne_nil (h : IsNumeral (width + 1) t) : t ≠ [] := by
  rintro rfl
  exact absurd h.length_eq (by simp)

end IsNumeral

namespace Format

variable {shape t rest : Text}

theorem afterShape?_mark {mark : Char} (h : mark ≠ 'd') :
    afterShape? (mark :: shape) t = some rest ↔
      ∃ u, t = mark :: u ∧ afterShape? shape u = some rest := by
  cases t with
  | nil => simp [afterShape?]
  | cons c t =>
    by_cases hc : mark = c
    · subst hc
      simp [afterShape?, h]
    · simp [afterShape?, h, hc, Ne.symm hc]

theorem afterShape?_digits {width : Nat} :
    afterShape? (List.replicate width 'd' ++ shape) t = some rest ↔
      ∃ numeral u, IsNumeral width numeral ∧ t = numeral ++ u ∧
        afterShape? shape u = some rest := by
  induction width generalizing t with
  | zero => simp [IsNumeral.nil_iff]
  | succ width ih =>
    rw [List.replicate_succ, List.cons_append]
    cases t with
    | nil =>
      simp only [afterShape?, reduceCtorEq, false_iff, not_exists, not_and]
      intro numeral u hnumeral hnil
      exact absurd (List.append_eq_nil_iff.1 hnil.symm).1 hnumeral.ne_nil
    | cons c t =>
      by_cases hc : isDecimal c = true
      · simp only [afterShape?, hc, beq_self_eq_true, if_true, ih]
        constructor
        · intro ⟨numeral, u, hnumeral, ht, hrest⟩
          exact ⟨c :: numeral, u, IsNumeral.cons_iff.2 ⟨hc, hnumeral⟩, by simp [ht], hrest⟩
        · intro ⟨numeral, u, hnumeral, ht, hrest⟩
          cases numeral with
          | nil => exact absurd rfl hnumeral.ne_nil
          | cons d numeral =>
            simp only [List.cons_append, List.cons.injEq] at ht
            exact ⟨numeral, u, (IsNumeral.cons_iff.1 hnumeral).2, ht.2, hrest⟩
      · simp only [afterShape?, hc, beq_self_eq_true, if_true, if_false, Bool.false_eq_true,
          reduceCtorEq, false_iff, not_exists, not_and]
        intro numeral u hnumeral ht
        cases numeral with
        | nil => exact absurd rfl hnumeral.ne_nil
        | cons d numeral =>
          simp only [List.cons_append, List.cons.injEq] at ht
          rw [ht.1] at hc
          exact absurd (IsNumeral.cons_iff.1 hnumeral).1 hc

theorem isLine_of_isLineEnd {u : Text} (h : isLineEnd t = true) : Text.IsLine u (u ++ t) := by
  simp only [isLineEnd, Bool.or_eq_true, List.isEmpty_iff, beq_iff_eq] at h
  rcases h with rfl | rfl
  · exact .inl (List.append_nil u)
  · exact .inr rfl

theorem afterShape?_date : afterShape? "dddd-dd-dd" t = some rest ↔ ∃ year month day,
    IsNumeral 4 year ∧ IsNumeral 2 month ∧ IsNumeral 2 day ∧
      t = year ++ '-' :: (month ++ '-' :: (day ++ rest)) := by
  have hshape : ("dddd-dd-dd" : Text) = List.replicate 4 'd' ++ '-' :: (List.replicate 2 'd' ++
      '-' :: (List.replicate 2 'd' ++ [])) := rfl
  simp only [hshape, afterShape?_digits, afterShape?_mark (by decide : '-' ≠ 'd'), afterShape?,
    Option.some.injEq]
  constructor
  · rintro ⟨year, _, hyear, rfl, _, rfl, month, _, hmonth, rfl, _, rfl, day, _, hday, rfl, rfl⟩
    exact ⟨year, month, day, hyear, hmonth, hday, rfl⟩
  · rintro ⟨year, month, day, hyear, hmonth, hday, rfl⟩
    exact ⟨year, _, hyear, rfl, _, rfl, month, _, hmonth, rfl, _, rfl, day, rest, hday, rfl, rfl⟩

theorem afterShape?_pair {mark : Char} (h : mark ≠ 'd') :
    afterShape? ("dd" ++ mark :: "dd") t = some rest ↔ ∃ first second, IsNumeral 2 first ∧
      IsNumeral 2 second ∧ t = first ++ mark :: (second ++ rest) := by
  have hshape : ("dd" ++ mark :: "dd" : Text) = List.replicate 2 'd' ++
      mark :: (List.replicate 2 'd' ++ []) := rfl
  simp only [hshape, afterShape?_digits, afterShape?_mark h, afterShape?, Option.some.injEq]
  constructor
  · rintro ⟨first, _, hfirst, rfl, _, rfl, second, _, hsecond, rfl, rfl⟩
    exact ⟨first, second, hfirst, hsecond, rfl⟩
  · rintro ⟨first, second, hfirst, hsecond, rfl⟩
    exact ⟨first, _, hfirst, rfl, _, rfl, second, rest, hsecond, rfl, rfl⟩

theorem afterShape?_second : afterShape? ":dd" t = some rest ↔
    ∃ second, IsNumeral 2 second ∧ t = ':' :: (second ++ rest) := by
  have hshape : (":dd" : Text) = ':' :: (List.replicate 2 'd' ++ []) := rfl
  simp only [hshape, afterShape?_digits, afterShape?_mark (by decide : ':' ≠ 'd'), afterShape?,
    Option.some.injEq]
  constructor
  · rintro ⟨_, rfl, second, _, hsecond, rfl, rfl⟩
    exact ⟨second, hsecond, rfl⟩
  · rintro ⟨second, hsecond, rfl⟩
    exact ⟨_, rfl, second, rest, hsecond, rfl, rfl⟩

theorem any_eq_true_iff {x : Option Text} {accepts : Text → Bool} :
    x.any accepts = true ↔ ∃ u, x = some u ∧ accepts u = true := by
  cases x <;> simp

end Format

namespace Iso

/-- How an instant ends: without an offset, in the letter Z in either case, or in an offset in
either form. -/
inductive Ending where
  | absent
  | letter (c : Char) (isLetter : c = 'Z' ∨ c = 'z')
  | extended (o : Offset)
  | compact (o : Offset)

namespace Ending

def text : Ending → Text
  | absent => []
  | letter c _ => [c]
  | extended o => o.extended
  | compact o => o.compact

def offset : Ending → Offset
  | absent | letter _ _ => .utc
  | extended o | compact o => o

end Ending

/-- A date with hyphens between its numerals. -/
structure WrittenDate where
  year : Text
  month : Text
  day : Text
  year_numeral : IsNumeral 4 year
  month_numeral : IsNumeral 2 month
  day_numeral : IsNumeral 2 day

def WrittenDate.text (d : WrittenDate) : Text := d.year ++ '-' :: (d.month ++ '-' :: d.day)

/-- Hours and minutes with a colon between them, with seconds and a fraction or without. -/
structure WrittenClock where
  hour : Text
  minute : Text
  second : Option Text
  fraction : Option Text
  hour_numeral : IsNumeral 2 hour
  minute_numeral : IsNumeral 2 minute
  second_numeral : ∀ t ∈ second, IsNumeral 2 t
  fraction_numeral : ∀ t ∈ fraction, t ≠ [] ∧ ∀ c ∈ t, isDecimal c = true

namespace WrittenClock

def fractionText (w : WrittenClock) : Text := w.fraction.elim [] ('.' :: ·)

def details (w : WrittenClock) : Text := w.second.elim [] (':' :: ·) ++ w.fractionText

def text (w : WrittenClock) : Text := w.hour ++ ':' :: (w.minute ++ w.details)

end WrittenClock

/-- An instant as the format of instants has it: a date and a clock, with an offset or without. -/
structure Stamp where
  date : WrittenDate
  mark : Char
  clock : WrittenClock
  ending : Ending
  isMark : mark = 'T' ∨ mark = 't'

def Stamp.text (s : Stamp) : Text := s.date.text ++ s.mark :: (s.clock.text ++ s.ending.text)

end Iso

namespace Format

open Iso

theorem exists_offset {sign : Char} (hsign : sign = '+' ∨ sign = '-') {hours minutes : Text}
    (hhours : IsNumeral 2 hours) (hminutes : IsNumeral 2 minutes) :
    ∃ o : Offset, o.extended = sign :: (hours ++ ':' :: minutes) ∧
      o.compact = sign :: (hours ++ minutes) := by
  obtain ⟨h₁, h₂, rfl, hd₁, hd₂⟩ := hhours.exists_two
  obtain ⟨m₁, m₂, rfl, hd₃, hd₄⟩ := hminutes.exists_two
  exact ⟨⟨sign, h₁, h₂, m₁, m₂, hsign, by simp [hd₁, hd₂, hd₃, hd₄]⟩, rfl, rfl⟩

theorem exists_ending_of_acceptsOffset (h : acceptsOffset t = true) :
    ∃ e : Ending, Text.IsLine e.text t := by
  unfold acceptsOffset at h
  rw [Bool.or_eq_true] at h
  rcases h with h | h
  · exact ⟨.absent, isLine_of_isLineEnd h⟩
  cases t with
  | nil => cases h
  | cons c t =>
    dsimp only at h
    split at h
    · rename_i hletter
      have hc : c = 'Z' ∨ c = 'z' := by simpa using hletter
      exact ⟨.letter c hc, isLine_of_isLineEnd h⟩
    split at h
    · rename_i hsign
      have hc : c = '+' ∨ c = '-' := by simpa using hsign
      have hpairs : ("dddd" : Text) = List.replicate 2 'd' ++ (List.replicate 2 'd' ++ []) := rfl
      simp only [Bool.or_eq_true, any_eq_true_iff] at h
      rcases h with ⟨u, hu, hend⟩ | ⟨u, hu, hend⟩
      · obtain ⟨hours, minutes, hhours, hminutes, rfl⟩ :=
          (afterShape?_pair (by decide : ':' ≠ 'd')).1 hu
        obtain ⟨o, hextended, -⟩ := exists_offset hc hhours hminutes
        refine ⟨.extended o, ?_⟩
        simpa [Ending.text, hextended] using isLine_of_isLineEnd (u := o.extended) hend
      · simp only [hpairs, afterShape?_digits, afterShape?, Option.some.injEq] at hu
        obtain ⟨hours, _, hhours, rfl, minutes, _, hminutes, rfl, rfl⟩ := hu
        obtain ⟨o, -, hcompact⟩ := exists_offset hc hhours hminutes
        refine ⟨.compact o, ?_⟩
        simpa [Ending.text, hcompact] using isLine_of_isLineEnd (u := o.compact) hend
    · cases h

theorem exists_fraction_of_acceptsFraction (h : acceptsFraction t = true) :
    ∃ (fraction : Option Text) (e : Ending),
      (∀ f ∈ fraction, f ≠ [] ∧ ∀ c ∈ f, isDecimal c = true) ∧
        Text.IsLine (fraction.elim [] ('.' :: ·) ++ e.text) t := by
  unfold acceptsFraction at h
  rw [Bool.or_eq_true] at h
  rcases h with h | h
  · obtain ⟨e, he⟩ := exists_ending_of_acceptsOffset h
    exact ⟨none, e, by simp, he⟩
  split at h
  · rename_i c rest
    rw [Bool.and_eq_true] at h
    obtain ⟨hc, h⟩ := h
    obtain ⟨e, he⟩ := exists_ending_of_acceptsOffset h
    have hdigits : ∀ d ∈ c :: rest.takeWhile isDecimal, isDecimal d = true :=
      List.forall_mem_cons.2 ⟨hc, fun d hd => List.mem_takeWhile_imp hd⟩
    refine ⟨some (c :: rest.takeWhile isDecimal), e, ?_, ?_⟩
    · intro f hf
      cases hf
      exact ⟨List.cons_ne_nil _ _, hdigits⟩
    · have hline := he.append_left ('.' :: c :: rest.takeWhile isDecimal)
      simpa using hline
  · cases h

theorem exists_stamp_of_accepts (h : accepts "date-time" t = true) :
    ∃ s : Stamp, Text.IsLine s.text t := by
  change (afterShape? "dddd-dd-dd" t).any _ = true at h
  rw [any_eq_true_iff] at h
  obtain ⟨u, hu, h⟩ := h
  obtain ⟨year, month, day, hyear, hmonth, hday, rfl⟩ := afterShape?_date.1 hu
  cases u with
  | nil => cases h
  | cons mark u =>
    simp only [Bool.and_eq_true, Bool.or_eq_true, beq_iff_eq, any_eq_true_iff] at h
    obtain ⟨hmark, v, hv, h⟩ := h
    obtain ⟨hour, minute, hhour, hminute, rfl⟩ :=
      (afterShape?_pair (by decide : ':' ≠ 'd')).1 hv
    have hrest : ∃ (second fraction : Option Text) (e : Ending),
        (∀ f ∈ second, IsNumeral 2 f) ∧ (∀ f ∈ fraction, f ≠ [] ∧ ∀ c ∈ f, isDecimal c = true) ∧
          Text.IsLine (second.elim [] (':' :: ·) ++ (fraction.elim [] ('.' :: ·) ++ e.text)) v := by
      rw [orSkip, Bool.or_eq_true, any_eq_true_iff] at h
      rcases h with ⟨w, hw, h⟩ | h
      · obtain ⟨second, hsecond, rfl⟩ := afterShape?_second.1 hw
        obtain ⟨fraction, e, hfraction, hline⟩ := exists_fraction_of_acceptsFraction h
        exact ⟨some second, fraction, e, by simpa using hsecond, hfraction,
          hline.append_left (':' :: second)⟩
      · obtain ⟨fraction, e, hfraction, hline⟩ := exists_fraction_of_acceptsFraction h
        exact ⟨none, fraction, e, by simp, hfraction, hline⟩
    obtain ⟨second, fraction, e, hsecond, hfraction, hline⟩ := hrest
    let clock : WrittenClock :=
      ⟨hour, minute, second, fraction, hhour, hminute, hsecond, hfraction⟩
    let date : WrittenDate := ⟨year, month, day, hyear, hmonth, hday⟩
    have hwhole := hline.append_left (date.text ++ mark :: (hour ++ ':' :: minute))
    refine ⟨⟨date, mark, clock, e, hmark⟩, ?_⟩
    simpa [date, clock, Stamp.text, WrittenDate.text, WrittenClock.text, WrittenClock.details,
      WrittenClock.fractionText] using hwhole

end Format

end TypedTemplate
