import TypedTemplate.Filter.Apply
import TypedTemplate.Proofs.DecimalNumerals
import TypedTemplate.Proofs.WrittenLiterals

/-!
# Separated thousands

A whole number is written with commas between groups of three digits, which are counted from its
end. Without the commas that is its numeral. A text with commas is read as no number, so it passes
through unchanged when its thousands are to be separated again; a numeral without commas has one
group and is written as it was.
-/
namespace TypedTemplate

namespace Text

theorem head?_ofNat_ne_zero {n : ℕ} (hn : n ≠ 0) : (ofNat n).head? ≠ some '0' := by
  have hdigits : ∀ d < 10, d ≠ 0 → [Nat.digitChar d].head? ≠ some '0' := by decide
  induction n using Nat.strong_induction_on with
  | _ n ih =>
    by_cases hsmall : n < 10
    · rw [ofNat, Nat.toDigits_of_lt_base hsmall]
      exact hdigits n hsmall hn
    · have htenth := ih (n / 10) (by omega) (by omega)
      rw [ofNat, Nat.toDigits_of_base_le (by omega) (by omega),
        List.head?_append_of_ne_nil _ Nat.toDigits_ne_nil]
      exact htenth

end Text

namespace Numeral

/-- Digits in groups, the first with one to three of them and the others with exactly three. -/
structure Groups where
  first : Text
  others : List Text
  first_ne_nil : first ≠ []
  first_length_le : first.length ≤ 3
  others_length : ∀ g ∈ others, g.length = 3
  areDigits : ∀ g ∈ first :: others, ∀ c ∈ g, isAsciiDigit c = true

namespace Groups

def digits (g : Groups) : Text := (g.first :: g.others).flatten

def text (g : Groups) : Text := Text.join [','] (g.first :: g.others)

variable (g : Groups)

theorem length_digits : g.digits.length = g.first.length + 3 * g.others.length := by
  have hothers : g.others.map List.length = List.replicate g.others.length 3 :=
    List.eq_replicate_iff.2 ⟨List.length_map _, by simpa using g.others_length⟩
  rw [digits, List.flatten_cons, List.length_append, List.length_flatten, hothers,
    List.sum_replicate_nat, Nat.mul_comm]

theorem filter_text : g.text.filter (· ≠ ',') = g.digits := by
  have hkept : ∀ u ∈ g.first :: g.others, u.filter (· ≠ ',') = u := by
    intro u hu
    refine List.filter_eq_self.2 fun c hc => decide_eq_true ?_
    rintro rfl
    exact absurd (g.areDigits u hu _ hc) (by decide)
  obtain ⟨hfirst, hothers⟩ := List.forall_mem_cons.1 hkept
  rw [text, Text.join_cons, List.filter_append, hfirst, List.filter_flatMap, digits,
    List.flatten_cons, List.flatten_eq_flatMap]
  refine congrArg (g.first ++ ·) (List.flatMap_congr fun u hu => ?_)
  rw [List.filter_append, hothers u hu]
  rfl

theorem comma_mem_text (h : g.others ≠ []) : ',' ∈ g.text := by
  obtain ⟨second, rest, hothers⟩ := List.exists_cons_of_ne_nil h
  simp [text, hothers, Text.join_cons_cons]

theorem text_eq_digits (h : g.others = []) : g.text = g.digits := by
  simp [text, digits, h, Text.join]

theorem isSolid_text : g.text.IsSolid := by
  refine Text.isSolid_join [','] (List.cons_ne_nil _ _) fun u hu => ?_
  refine Text.isSolid_of_isBare ?_ fun c hc => isBare_of_isAsciiDigit (g.areDigits u hu c hc)
  rcases List.mem_cons.1 hu with rfl | hu
  · exact g.first_ne_nil
  · have hlength := g.others_length u hu
    rintro rfl
    cases hlength

end Groups

theorem exists_groups {t : Text} (hne : t ≠ []) (ht : ∀ c ∈ t, isAsciiDigit c = true) :
    ∃ g : Groups, g.digits = t ∧ g.text = group t := by
  -- Groups are counted from the end, so a digit in front leaves all but the first as they are.
  induction t with
  | nil => exact absurd rfl hne
  | cons c t ih =>
    obtain ⟨hc, hrest⟩ := List.forall_mem_cons.1 ht
    by_cases hlast : t = []
    · refine ⟨⟨[c], [], by simp, by simp, by simp, by simpa using hc⟩, ?_, ?_⟩
      · rw [hlast]
        rfl
      · rw [hlast]
        rfl
    obtain ⟨g, rfl, htext⟩ := ih hlast hrest
    have hlength := g.length_digits
    have hpositive := List.length_pos_of_ne_nil g.first_ne_nil
    have hlong := g.first_length_le
    rw [group, groupFrom, List.length_cons, Nat.add_sub_cancel]
    rw [group] at htext
    split
    · rename_i h
      refine ⟨⟨[c], g.first :: g.others, by simp, by simp, ?_, ?_⟩, rfl, ?_⟩
      · exact List.forall_mem_cons.2 ⟨by omega, g.others_length⟩
      · exact List.forall_mem_cons.2 ⟨by simpa using hc, g.areDigits⟩
      · rw [← htext]
        rfl
    · rename_i h
      have hroom : g.first.length ≤ 2 := by
        have hmod := not_and.1 h hlast
        omega
      obtain ⟨hfirst, hothers⟩ := List.forall_mem_cons.1 g.areDigits
      have hlonger : (c :: g.first).length ≤ 3 := Nat.succ_le_succ hroom
      refine ⟨⟨c :: g.first, g.others, by simp, hlonger, g.others_length, ?_⟩, rfl, ?_⟩
      · exact List.forall_mem_cons.2 ⟨List.forall_mem_cons.2 ⟨hc, hfirst⟩, hothers⟩
      · rw [← htext, Groups.text, Groups.text, Text.join_cons, Text.join_cons, List.cons_append]

def sign (n : ℤ) : Text := if n < 0 then ['-'] else []

/-- Whether groups are those of the digits of a whole number, all of them and without zeros in
front. -/
structure Groups.AreOf (g : Groups) (n : ℤ) : Prop where
  digits : sign n ++ g.digits = Text.ofInt n
  head : n ≠ 0 → g.first.head? ≠ some '0'

theorem exists_groups_of_int (n : ℤ) :
    ∃ g : Groups, g.AreOf n ∧ groupedInt n = sign n ++ g.text := by
  obtain ⟨g, hdigits, htext⟩ :=
    exists_groups (Text.ofNat_ne_nil n.natAbs) fun _ => Text.isAsciiDigit_of_mem_ofNat
  refine ⟨g, ⟨by rw [hdigits, Text.ofInt_eq, sign], fun hn => ?_⟩, by rw [htext]; rfl⟩
  have hhead := Text.head?_ofNat_ne_zero (Int.natAbs_ne_zero.2 hn)
  rwa [← hdigits, Groups.digits, List.flatten_cons,
    List.head?_append_of_ne_nil _ g.first_ne_nil] at hhead

theorem Groups.AreOf.filter_eq {g : Groups} {n : ℤ} (h : g.AreOf n) :
    (sign n ++ g.text).filter (· ≠ ',') = Text.ofInt n := by
  have hsign : (sign n).filter (· ≠ ',') = sign n := by
    unfold sign
    split <;> rfl
  rw [List.filter_append, hsign, g.filter_text, h.digits]

end Numeral

theorem Decimal.comma_not_mem_sign : ∀ sign ∈ signs, ',' ∉ sign := by decide

theorem Decimal.Spelling.comma_not_mem (s : Spelling) : ',' ∉ s.text := by
  have hdigits : ∀ {t : Text}, AreDigits t → ',' ∉ t := by
    intro t ht hm
    exact absurd (ht _ hm) (by decide)
  obtain ⟨hwhole, hfraction⟩ := areDigits_append.1 s.areDigits
  rw [text, mantissa]
  intro hm
  simp only [List.mem_append] at hm
  rcases hm with hm | (hm | hm) | hm
  · exact comma_not_mem_sign _ s.isSign hm
  · exact hdigits hwhole hm
  · cases hf : s.fraction with
    | none => simp [hf] at hm
    | some fraction =>
      rw [hf] at hm hfraction
      rcases List.mem_cons.1 hm with h | hm
      · cases h
      · exact hdigits hfraction hm
  · cases he : s.exponent with
    | none => simp [he] at hm
    | some x =>
      rw [he] at hm
      rcases List.mem_cons.1 hm with h | hm
      · have hmark := x.isMark
        rw [← h] at hmark
        exact absurd hmark (by decide)
      · rcases List.mem_append.1 hm with hm | hm
        · exact comma_not_mem_sign _ x.isSign hm
        · exact hdigits x.areDigits hm

namespace Number

theorem ofText_ofInt {n : ℤ} (h : n.natAbs < 10 ^ longestWhole) :
    ofText (Text.ofInt n) = .whole n := by
  have hsolid := Text.isSolid_of_isBare (Text.ofInt_ne_nil n) fun _ => Text.isBare_of_mem_ofInt
  have hlength : (Text.ofNat n.natAbs).length ≤ longestWhole :=
    (Nat.length_toDigits_le_iff (by decide) (by decide)).2 h
  have hempty : (Text.ofInt n).isEmpty = false := by simp [Text.ofInt_ne_nil n]
  have hplain : (true && decide ((Text.ofNat n.natAbs).length ≤ longestWhole)) = true := by
    simp [hlength]
  rw [ofText, hsolid.trim, hempty, ofTrimmed, Decimal.read?_ofInt, Decimal.takeSign_ofInt]
  dsimp only
  rw [hplain, Decimal.toInt_ofInt]
  rfl

theorem ofText_eq_nan {t : Text} (hsolid : t.IsSolid) (h : ',' ∈ t) : ofText t = .real .nan := by
  have hempty : t.isEmpty = false := by simp [hsolid.ne_nil]
  have hread : Decimal.read? t = none := by
    cases hd : Decimal.read? t with
    | none => rfl
    | some d =>
      obtain ⟨s, rfl, -⟩ := Decimal.read?_eq_some_iff.1 hd
      exact absurd h s.comma_not_mem
  cases hsign : Decimal.takeSign t with
  | mk negative word =>
    obtain ⟨sign, hmem, rfl, -⟩ := Decimal.exists_sign_of_takeSign hsign
    have hword : ',' ∈ word :=
      (List.mem_append.1 h).resolve_left (Decimal.comma_not_mem_sign sign hmem)
    have hlower : ',' ∈ word.map Char.toLower := List.mem_map.2 ⟨',', hword, rfl⟩
    have hinfinity : ¬(word.map Char.toLower = "inf" ∨ word.map Char.toLower = "infinity") := by
      rintro (hw | hw) <;> exact absurd (hw ▸ hlower) (by decide)
    rw [ofText, hsolid.trim, hempty, ofTrimmed, hread, hsign]
    exact if_neg hinfinity

end Number

theorem wholeLimit_le_longestWhole : wholeLimit ≤ 10 ^ Number.longestWhole := by
  decide +kernel

namespace Filter

variable {n : ℤ} {value : Value}

theorem comma_of_whole (hn : n.natAbs < wholeLimit) (hvalue : value.toNumber = .whole n) :
    comma value = .ok (Numeral.groupedInt n) := by
  have hsize : (Number.whole n).exceedsDouble = false := by simpa [Number.exceedsDouble] using hn
  rw [comma, hvalue]
  dsimp only
  rw [hsize]
  rfl

theorem comma_of_nan (hvalue : value.toNumber = .real .nan) : comma value = .ok value.display := by
  rw [comma, hvalue]
  rfl

end Filter

/-- A whole number in the range of doubles, or its numeral, is written with the sign before its
digits in groups and commas between these. Without the commas that is the numeral. Where thousands
are separated again the text stays as it is. -/
theorem comma_separates_thousands {n : ℤ} (hn : n.natAbs < wholeLimit) {value : Value}
    (hvalue : value = .ofInt n ∨ value = .text (Text.ofInt n)) (context : Filter.Context)
    (args : List Text) :
    ∃ g : Numeral.Groups, g.AreOf n ∧
      (Numeral.sign n ++ g.text).filter (· ≠ ',') = Text.ofInt n ∧
      Filter.apply .comma context args value = .ok (.text (Numeral.sign n ++ g.text)) ∧
      Filter.apply .comma context args (.text (Numeral.sign n ++ g.text)) =
        .ok (.text (Numeral.sign n ++ g.text)) := by
  have hread : (Value.text (Text.ofInt n)).toNumber = .whole n :=
    Number.ofText_ofInt (hn.trans_le wholeLimit_le_longestWhole)
  have hnumber : value.toNumber = .whole n := by
    rcases hvalue with rfl | rfl
    · rfl
    · exact hread
  obtain ⟨g, hg, hgrouped⟩ := Numeral.exists_groups_of_int n
  have hwritten : ∀ v : Value, v.toNumber = .whole n →
      Filter.apply .comma context args v = .ok (.text (Numeral.sign n ++ g.text)) := by
    intro v hv
    rw [Filter.apply, Filter.comma_of_whole hn hv, hgrouped]
    rfl
  refine ⟨g, hg, hg.filter_eq, hwritten value hnumber, ?_⟩
  by_cases hone : g.others = []
  · rw [g.text_eq_digits hone, hg.digits] at hwritten ⊢
    exact hwritten _ hread
  · have hsolid : (Numeral.sign n ++ g.text).IsSolid := by
      rw [Numeral.sign]
      split
      · exact (Text.IsSolid.char (by decide)).append [] g.isSolid_text
      · exact g.isSolid_text
    have hnan : (Value.text (Numeral.sign n ++ g.text)).toNumber = .real .nan :=
      Number.ofText_eq_nan hsolid (List.mem_append_right _ (g.comma_mem_text hone))
    rw [Filter.apply, Filter.comma_of_nan hnan]
    rfl

/-- A negative number of seven digits is written with two commas, also from its numeral. -/
theorem comma_separates_negative_million : ∃ g : Numeral.Groups, g.AreOf (-1234567) ∧
    Numeral.sign (-1234567) ++ g.text = "-1,234,567".toList ∧
    Filter.apply .comma ⟨none, "UTC"⟩ [] (.text "-1234567") = .ok (.text "-1,234,567") ∧
    Filter.apply .comma ⟨none, "UTC"⟩ [] (.text "-1,234,567") = .ok (.text "-1,234,567") := by
  have hsize : (-1234567 : ℤ).natAbs < wholeLimit := by decide +kernel
  obtain ⟨g, hg, -, hfirst, hagain⟩ :=
    comma_separates_thousands hsize (.inr rfl) ⟨none, "UTC"⟩ []
  have hnumeral : Text.ofInt (-1234567) = "-1234567".toList := by decide +kernel
  have hwritten : Filter.apply .comma ⟨none, "UTC"⟩ [] (.text "-1234567") =
      .ok (.text "-1,234,567") := by decide +kernel
  rw [hnumeral] at hfirst
  have htext : Numeral.sign (-1234567) ++ g.text = "-1,234,567".toList :=
    Value.text.inj (Except.ok.inj (hfirst.symm.trans hwritten))
  rw [htext] at hfirst hagain
  exact ⟨g, hg, htext, hfirst, hagain⟩

end TypedTemplate
