import TypedTemplate.Proofs.DecimalNumerals
import TypedTemplate.Proofs.WholeDoubles
import TypedTemplate.Proofs.WrittenConstraints

/-!
# Integer literals

Where a constraint requires a whole number, it is written as a literal. A literal of digits alone is
read as the number that it states. One with a point or an exponent is read through the nearest
double, so it is read as the number that it states, or refused as no whole number, exactly if that
double tells so.
-/
namespace TypedTemplate

open Quotes

namespace Decimal

/-- Whether a literal is read exactly: it is written in digits alone, or the nearest double tells
what it states. -/
def Spelling.IsTold (s : Spelling) : Prop := s.IsPlain ∨ Double.Tells s.value

namespace Spelling

variable (s : Spelling)

theorem isDecimal_or_mark_of_mem {c : Char} (h : c ∈ s.text) :
    isDecimal c = true ∨ c ∈ ['+', '-', '.', 'e', 'E'] := by
  have hsign : ∀ {sign : Text}, sign ∈ signs → ∀ c ∈ sign, c ∈ ['+', '-', '.', 'e', 'E'] := by
    intro sign hsign c hc
    have hall : ∀ sign ∈ signs, ∀ c ∈ sign, c ∈ ['+', '-', '.', 'e', 'E'] := by simp [signs]
    exact hall sign hsign c hc
  obtain ⟨hwhole, hfraction⟩ := areDigits_append.1 s.areDigits
  simp only [text, mantissa, List.mem_append] at h
  rcases h with h | (h | h) | h
  · exact .inr (hsign s.isSign c h)
  · exact .inl (hwhole c h)
  · cases hf : s.fraction with
    | none => simp [hf] at h
    | some f =>
      simp only [hf, Option.elim, List.mem_cons] at h
      rcases h with rfl | h
      · exact .inr (by decide)
      · exact .inl (hfraction c (by simpa [hf] using h))
  · cases hx : s.exponent with
    | none => simp [hx] at h
    | some x =>
      simp only [hx, Option.elim, Exponent.text, List.mem_cons, List.mem_append] at h
      rcases h with rfl | h | h
      · right
        rcases x.isMark with h | h <;> simp [h]
      · exact .inr (hsign x.isSign c h)
      · exact .inl (x.areDigits c h)

theorem text_ne_nil : s.text ≠ [] := by
  have hne := s.digits_ne_nil
  intro h
  simp only [text, mantissa, List.append_eq_nil_iff] at h
  cases hf : s.fraction <;> simp_all

theorem isPlain_of_mem {c : Char} (h : c ∈ s.text) :
    isBlank c = false ∧ isQuote c = false ∧ c ≠ ',' := by
  rcases s.isDecimal_or_mark_of_mem h with hc | hc
  · refine ⟨isBlank_of_isDecimal hc, ?_, ?_⟩
    · rw [Bool.eq_false_iff]
      intro hquote
      rcases isQuote_iff.1 hquote with rfl | rfl <;> exact absurd hc (by decide)
    · rintro rfl
      exact absurd hc (by decide)
  · simp only [List.mem_cons, List.not_mem_nil, or_false] at hc
    rcases hc with rfl | rfl | rfl | rfl | rfl <;> decide

theorem isSolid_text : s.text.IsSolid :=
  .of_forall s.text_ne_nil fun _ hc => (s.isPlain_of_mem hc).1

theorem dropFinalBreak_text : Path.dropFinalBreak s.text = s.text := by
  rw [← s.isSolid_text.trim, Text.dropFinalBreak_trim]

theorem hides_text : Hides [','] s.text :=
  .plain fun c hc => ⟨(s.isPlain_of_mem hc).2.1, by simpa using (s.isPlain_of_mem hc).2.2⟩

/-- Whether a literal is written for a constraint: as it is, or in one of the quotes, where a line
break may follow it. -/
def IsWrittenAs (s : Spelling) (written : Text) : Prop :=
  written = s.text ∨ ∃ t, Text.IsLine s.text t ∧ Encloses t written

variable {s} {written : Text}

namespace IsWrittenAs

theorem isSolid (h : s.IsWrittenAs written) : written.IsSolid := by
  rcases h with rfl | ⟨t, -, ht⟩
  · exact s.isSolid_text
  · exact ht.isSolid

theorem hides (h : s.IsWrittenAs written) : Hides [','] written := by
  rcases h with rfl | ⟨t, -, ht⟩
  · exact s.hides_text
  · exact ht.hides [',']

theorem read?_eq (h : s.IsWrittenAs written) :
    read? (Path.dropFinalBreak (unquote written)) = some s.toDecimal := by
  have htext : Path.dropFinalBreak (unquote written) = s.text := by
    rcases h with rfl | ⟨t, rfl | rfl, ht⟩
    · have hunquote : unquote s.text = s.text :=
        unquote_of_head fun c hc => (s.isPlain_of_mem (List.mem_of_mem_head? hc)).2.1
      rw [hunquote, s.dropFinalBreak_text]
    · rw [ht.unquote, s.dropFinalBreak_text]
    · rw [ht.unquote]
      simp [Path.dropFinalBreak]
  rw [htext, s.read?_text]

end IsWrittenAs

end Spelling

end Decimal

/-- Whether a reading takes a number for what it is: a whole number as that number, and another one
as no whole number. -/
structure Expression.IsExact (v : ℚ) (keyword literal : Text) (reading : Except Fault ℤ) :
    Prop where
  whole : ∀ n : ℤ, v = n → reading = .ok n
  refused : (∀ n : ℤ, v ≠ n) → reading = .error (.grammar (.notWhole keyword literal) none)

namespace Expression

variable {s : Decimal.Spelling} {raw keyword : Text}

theorem readWhole_of_isPlain (hread : Decimal.read? (Path.dropFinalBreak (unquote raw)) =
    some s.toDecimal) (h : s.IsPlain) : readWhole raw keyword = .ok s.toDecimal.toInt := by
  have hplain := Decimal.Spelling.plain_toDecimal_iff.2 h
  simp only [readWhole, readNumber, hread, hplain, if_true]
  rfl

theorem readWhole_of_value? (hread : Decimal.read? (Path.dropFinalBreak (unquote raw)) =
    some s.toDecimal) (h : ¬s.IsPlain) {n : ℤ}
    (hx : s.toDecimal.toDouble.value? = some (n : ℚ)) : readWhole raw keyword = .ok n := by
  have hplain := mt Decimal.Spelling.plain_toDecimal_iff.1 h
  obtain ⟨hwhole, htruncate⟩ := Double.whole_of_value? hx
  simp only [readWhole, readNumber, hread, hplain, hwhole, htruncate, if_true]
  rfl

theorem readWhole_of_not_whole (hread : Decimal.read? (Path.dropFinalBreak (unquote raw)) =
    some s.toDecimal) (h : ¬s.IsPlain)
    (hx : ∀ n : ℤ, s.toDecimal.toDouble.value? ≠ some (n : ℚ)) :
    readWhole raw keyword = .error (.grammar (.notWhole keyword (unquote raw)) none) := by
  have hplain := mt Decimal.Spelling.plain_toDecimal_iff.1 h
  have hwhole : s.toDecimal.toDouble.isWhole = false := by
    rw [Bool.eq_false_iff]
    exact fun h => (Double.isWhole_iff.1 h).elim hx
  simp only [readWhole, readNumber, hread, hplain, hwhole, if_true]
  rfl

/-- A literal that is written for a whole number is read exactly if it is told. -/
theorem isExact_readWhole_iff (h : s.IsWrittenAs raw) (keyword : Text) :
    IsExact s.value keyword (unquote raw) (readWhole raw keyword) ↔ s.IsTold := by
  have hread := h.read?_eq
  by_cases hplain : s.IsPlain
  · have hvalue := Decimal.Spelling.value_eq_toInt hplain
    refine iff_of_true ⟨fun n hn => ?_, fun hnone => absurd hvalue (hnone _)⟩ (.inl hplain)
    rw [hvalue, Int.cast_inj] at hn
    rw [readWhole_of_isPlain hread hplain, hn]
  have htold : s.IsTold ↔ Double.Tells s.value := or_iff_right hplain
  rw [htold, Decimal.Spelling.value, Decimal.toRat,
    s.toDecimal.isNearest_toDouble.tells_iff s.toDecimal.magnitude_nonneg]
  constructor
  · rintro ⟨hwhole, hrefused⟩
    constructor
    · intro n hn
      by_contra hne
      by_cases hx : ∃ k : ℤ, s.toDecimal.toDouble.value? = some (k : ℚ)
      · obtain ⟨k, hk⟩ := hx
        have heq := (readWhole_of_value? hread hplain hk).symm.trans (hwhole n hn)
        rw [Except.ok.inj heq] at hk
        exact hne hk
      · have heq := (readWhole_of_not_whole hread hplain (not_exists.1 hx)).symm.trans (hwhole n hn)
        cases heq
    · intro hnone n hx
      have heq := (readWhole_of_value? hread hplain hx).symm.trans (hrefused hnone)
      cases heq
  · rintro ⟨hwhole, hrefused⟩
    constructor
    · intro n hn
      exact readWhole_of_value? hread hplain (hwhole n hn)
    · intro hnone
      exact readWhole_of_not_whole hread hplain (hrefused hnone)

theorem readNumber_true_eq (raw keyword : Text) :
    readNumber raw keyword true = Number.whole <$> readWhole raw keyword := by
  cases hn : readNumber raw keyword true with
  | error e =>
    rw [readWhole, hn]
    rfl
  | ok n =>
    obtain ⟨k, rfl⟩ := exists_whole_of_readNumber hn
    rw [readWhole, hn]
    rfl

end Expression

/-- Where a whole number is required: as the only choice and as the fixed value of an integer, and
as a bound of the length of a text, which has two keywords for each side. -/
inductive WholePlace where
  | choice | fixed | least | greatest | minLength | maxLength
  deriving DecidableEq, Repr

namespace WholePlace

def type : WholePlace → DataType
  | choice | fixed => .integer
  | least | greatest | minLength | maxLength => .string

def kind : WholePlace → ConstraintKind
  | choice => .choices
  | fixed => .fixed
  | least => .minimum
  | greatest => .maximum
  | minLength => .minLength
  | maxLength => .maxLength

def keyword (place : WholePlace) : Text := place.kind.keyword

def constraint : WholePlace → ℤ → Constraint
  | choice, n => .choices [.number (.whole n)]
  | fixed, n => .fixed (.number (.whole n))
  | least, n | minLength, n => .minLength n
  | greatest, n | maxLength, n => .maxLength n

theorem constraint_injective (place : WholePlace) : Function.Injective place.constraint := by
  intro m n h
  cases place <;> simpa [constraint] using h

end WholePlace

namespace Expression

theorem readLiteral_integer (raw keyword : Text) :
    readLiteral raw .integer keyword =
      (fun n => .number (.whole n)) <$> readWhole raw keyword := by
  rw [readLiteral, readNumber_true_eq]
  cases readWhole raw keyword <;> rfl

theorem readChoices_cons {raw : Text} (hsolid : raw.IsSolid) (keyword : Text) (raws : List Text) :
    readChoices .integer keyword (raw :: raws) =
      (do let n ← readWhole raw keyword
          let others ← readChoices .integer keyword raws
          return .number (.whole n) :: others) := by
  have hnonempty : raw.isEmpty = false := by simpa using hsolid.ne_nil
  rw [readChoices, hsolid.trim, hnonempty, readLiteral_integer]
  cases readWhole raw keyword <;> rfl

theorem readConstraint_enumeration {raws : List Text} (hne : raws ≠ [])
    (h : ∀ raw ∈ raws, raw.IsSolid ∧ Hides [','] raw) :
    readConstraint .integer ConstraintKind.choices.keyword (Text.join [','] raws) =
      (do let values ← readChoices .integer ConstraintKind.choices.keyword raws
          if values.isEmpty then
            throw (.grammar (.noChoices ConstraintKind.choices.keyword) none)
          return .choices values) := by
  have hsplit : split (· == ',') (Text.join [','] raws) = .ok raws := split_join rfl hne h
  rw [readConstraint, ConstraintKind.ofKeyword?_keyword]
  simp only [ConstraintKind.resolve?, hsplit]
  rfl

theorem readConstraint_wholePlace (place : WholePlace) {raw : Text} (hsolid : raw.IsSolid)
    (hhides : Hides [','] raw) :
    readConstraint place.type place.keyword raw =
      place.constraint <$> readWhole raw place.keyword := by
  cases place with
  | choice =>
    have hread := readConstraint_enumeration (List.cons_ne_nil raw []) (by simp [hsolid, hhides])
    rw [readChoices_cons hsolid] at hread
    apply hread.trans
    change _ = WholePlace.choice.constraint <$> readWhole raw ConstraintKind.choices.keyword
    cases readWhole raw ConstraintKind.choices.keyword <;> rfl
  | fixed =>
    rw [readConstraint, WholePlace.keyword, ConstraintKind.ofKeyword?_keyword]
    simp only [WholePlace.type, WholePlace.kind, ConstraintKind.resolve?, readLiteral_integer]
    cases readWhole raw ConstraintKind.fixed.keyword <;> rfl
  | least | greatest | minLength | maxLength =>
    rw [readConstraint, WholePlace.keyword, ConstraintKind.ofKeyword?_keyword]
    simp only [WholePlace.type, WholePlace.kind, ConstraintKind.resolve?]
    rfl

theorem readChoices_of_isTold {literals : List Decimal.Spelling} {raws : List Text}
    (hwritten : List.Forall₂ Decimal.Spelling.IsWrittenAs literals raws)
    (htold : ∀ s ∈ literals, s.IsTold) (keyword : Text) :
    (∀ numbers : List ℤ, literals.map (·.value) = numbers.map ((↑) : ℤ → ℚ) →
      readChoices .integer keyword raws = .ok (numbers.map fun n => .number (.whole n))) ∧
    ((∃ s ∈ literals, ∀ n : ℤ, s.value ≠ n) →
      ∃ f, readChoices .integer keyword raws = .error (.grammar f none)) := by
  induction hwritten with
  | nil =>
    constructor
    · intro numbers h
      obtain rfl : numbers = [] := by simpa using h
      rfl
    · rintro ⟨s, hs, -⟩
      cases hs
  | @cons s raw literals raws hfirst _ ih =>
    obtain ⟨hs, hothers⟩ := List.forall_mem_cons.1 htold
    obtain ⟨hexact, hrefused⟩ := (isExact_readWhole_iff hfirst keyword).2 hs
    obtain ⟨ihexact, ihrefused⟩ := ih hothers
    rw [readChoices_cons hfirst.isSolid]
    constructor
    · intro numbers h
      cases numbers with
      | nil => simp at h
      | cons n numbers =>
        simp only [List.map_cons, List.cons.injEq] at h
        rw [hexact n h.1, ihexact numbers h.2]
        rfl
    · intro hnone
      by_cases hfirst : ∀ n : ℤ, s.value ≠ n
      · rw [hrefused hfirst]
        exact ⟨_, rfl⟩
      · simp only [ne_eq, not_forall, not_not] at hfirst
        obtain ⟨n, hn⟩ := hfirst
        obtain ⟨f, hf⟩ := ihrefused (by simpa [hn] using hnone)
        rw [hexact n hn, hf]
        exact ⟨f, rfl⟩

end Expression

/-- Whether a constraint takes a number for what it is: a whole number as that number, and another
one as no whole number. -/
structure WholePlace.ReadsExactly (place : WholePlace) (v : ℚ) (raw : Text) : Prop where
  whole : ∀ n : ℤ, v = n →
    Expression.readConstraint place.type place.keyword raw = .ok (place.constraint n)
  refused : (∀ n : ℤ, v ≠ n) → Expression.readConstraint place.type place.keyword raw =
    .error (.grammar (.notWhole place.keyword (unquote raw)) none)

theorem WholePlace.readsExactly_iff (place : WholePlace) {s : Decimal.Spelling} {raw : Text}
    (h : s.IsWrittenAs raw) : place.ReadsExactly s.value raw ↔ s.IsTold := by
  have hread := Expression.readConstraint_wholePlace place h.isSolid h.hides
  have hok : ∀ n, Expression.readConstraint place.type place.keyword raw =
      .ok (place.constraint n) ↔ Expression.readWhole raw place.keyword = .ok n := by
    intro n
    rw [hread]
    cases Expression.readWhole raw place.keyword <;> simp [place.constraint_injective.eq_iff]
  have herror : ∀ e, Expression.readConstraint place.type place.keyword raw = .error e ↔
      Expression.readWhole raw place.keyword = .error e := by
    intro e
    rw [hread, Fault.map_eq_error_iff]
  rw [← Expression.isExact_readWhole_iff h place.keyword]
  constructor
  · intro hexact
    exact ⟨fun n hn => (hok n).1 (hexact.whole n hn),
      fun hnone => (herror _).1 (hexact.refused hnone)⟩
  · intro hexact
    exact ⟨fun n hn => (hok n).2 (hexact.whole n hn),
      fun hnone => (herror _).2 (hexact.refused hnone)⟩

/-- Where a whole number is required, a literal is read exactly if and only if it is written in
digits alone, without a bound on their number, or the nearest double tells what it states. The
choices of an enumeration are read exactly if each of them is. -/
theorem integer_literals_are_exact_iff_told {s : Decimal.Spelling} {raw : Text}
    (hwritten : s.IsWrittenAs raw) :
    (∀ place : WholePlace, place.ReadsExactly s.value raw ↔ s.IsPlain ∨ Double.Tells s.value) ∧
    ∀ (others : List Decimal.Spelling) (raws : List Text),
      List.Forall₂ Decimal.Spelling.IsWrittenAs others raws →
      (∀ t ∈ s :: others, t.IsPlain ∨ Double.Tells t.value) →
      (∀ numbers : List ℤ, (s :: others).map (·.value) = numbers.map ((↑) : ℤ → ℚ) →
        Expression.readConstraint .integer ConstraintKind.choices.keyword
          (Text.join [','] (raw :: raws)) =
            .ok (.choices (numbers.map fun n => .number (.whole n)))) ∧
      ((∃ t ∈ s :: others, ∀ n : ℤ, t.value ≠ n) → ∃ f,
        Expression.readConstraint .integer ConstraintKind.choices.keyword
          (Text.join [','] (raw :: raws)) = .error (.grammar f none)) := by
  refine ⟨fun place => place.readsExactly_iff hwritten, ?_⟩
  intro others raws hothers htold
  have hall := List.Forall₂.cons hwritten hothers
  have hparts : ∀ part ∈ raw :: raws, part.IsSolid ∧ Hides [','] part := by
    intro part hpart
    obtain ⟨t, -, ht⟩ := exists_of_mem_forall₂ hall hpart
    exact ⟨ht.isSolid, ht.hides⟩
  obtain ⟨hexact, hrefused⟩ := Expression.readChoices_of_isTold hall htold
    ConstraintKind.choices.keyword
  rw [Expression.readConstraint_enumeration (List.cons_ne_nil raw raws) hparts]
  constructor
  · intro numbers h
    have hnumbers : numbers ≠ [] := by
      rintro rfl
      cases h
    rw [hexact numbers h]
    exact if_neg (by simpa using hnumbers)
  · intro hnone
    obtain ⟨f, hf⟩ := hrefused hnone
    rw [hf]
    exact ⟨f, rfl⟩

/-- Fifteen hundred, with a point and an exponent, is read as that number: as a fixed value, as the
bound of a length and as one of two choices. -/
theorem fifteen_hundred_is_read_exactly :
    Expression.readConstraint .integer "fixed" "1.5e3" = .ok (.fixed (.number (.whole 1500))) ∧
    Expression.readConstraint .string "minLength" "1.5e3" = .ok (.minLength 1500) ∧
    Expression.readConstraint .integer "enum" "1.5e3,7" =
      .ok (.choices [.number (.whole 1500), .number (.whole 7)]) := by
  let s : Decimal.Spelling :=
    { sign := ""
      whole := "1"
      fraction := some "5"
      exponent := some ⟨'e', "", "3", by decide, by decide, by decide, by decide⟩
      isSign := by decide
      areDigits := by decide
      digits_ne_nil := by decide }
  let seven : Decimal.Spelling :=
    { sign := ""
      whole := "7"
      fraction := none
      exponent := none
      isSign := by decide
      areDigits := by decide
      digits_ne_nil := by decide }
  have hdecimal : s.toDecimal = ⟨false, 15, 2, false⟩ := by decide
  have hvalue : s.value = (1500 : ℤ) := by
    rw [Decimal.Spelling.value, hdecimal, Decimal.toRat, Decimal.magnitude]
    norm_num [signed]
  have htold : Double.Tells s.value := by
    rw [hvalue]
    left
    refine ⟨⟨1500, rfl⟩, false, 1500, 0, ⟨by decide, by decide, by decide⟩, ?_⟩
    norm_num [signed]
  have hplain : seven.IsPlain := ⟨rfl, rfl⟩
  have hwritten : s.IsWrittenAs "1.5e3" := .inl rfl
  obtain ⟨hplaces, hchoices⟩ := integer_literals_are_exact_iff_told hwritten
  refine ⟨((hplaces .fixed).2 (.inr htold)).whole 1500 hvalue,
    ((hplaces .minLength).2 (.inr htold)).whole 1500 hvalue, ?_⟩
  have hall : ∀ t ∈ [s, seven], t.IsPlain ∨ Double.Tells t.value := by
    simp [htold, hplain]
  have hnumbers : [s, seven].map (·.value) = [1500, 7].map ((↑) : ℤ → ℚ) := by
    simp only [List.map_cons, List.map_nil, hvalue, Decimal.Spelling.value_eq_toInt hplain]
    rfl
  exact (hchoices [seven] ["7"] (.cons (.inl rfl) .nil) hall).1 [1500, 7] hnumbers

/-- A whole number one above the greatest power of two up to which all whole numbers are doubles,
with a point, is read as that power. -/
theorem odd_literal_with_point_is_not_read_exactly :
    Expression.readConstraint .integer "fixed" "9007199254740993.0" =
      .ok (.fixed (.number (.whole 9007199254740992))) ∧
    ¬∀ (s : Decimal.Spelling) (raw : Text), s.IsWrittenAs raw → ∀ place : WholePlace,
      place.ReadsExactly s.value raw := by
  have hread : Expression.readConstraint .integer "fixed" "9007199254740993.0" =
      .ok (.fixed (.number (.whole 9007199254740992))) := by decide +kernel
  refine ⟨hread, fun hexact => ?_⟩
  let s : Decimal.Spelling :=
    { sign := ""
      whole := "9007199254740993"
      fraction := some "0"
      exponent := none
      isSign := by decide
      areDigits := by decide
      digits_ne_nil := by decide }
  have hdecimal : s.toDecimal = ⟨false, 90071992547409930, -1, false⟩ := by decide
  have hvalue : s.value = (9007199254740993 : ℤ) := by
    rw [Decimal.Spelling.value, hdecimal, Decimal.toRat, Decimal.magnitude]
    norm_num [signed]
  have hwhole := (hexact s "9007199254740993.0" (.inl rfl) .fixed).whole _ hvalue
  have heq := hread.symm.trans hwhole
  simp [WholePlace.constraint] at heq

end TypedTemplate
