import TypedTemplate.Proofs.LegalExpressions
import TypedTemplate.Proofs.QuotedScans
import TypedTemplate.Proofs.StatedDirectives

/-!
# Written literals

How the literals of an expression are written: a text inside of a quote that it does not contain, a
whole number as its decimal numeral, a truth value as its word. The reader takes each of them back
as it was. Names and numerals are bare: none of their characters is a blank, a quote or a delimiter.
So what is written has no blanks at its ends and hides every delimiter.
-/
namespace TypedTemplate

namespace Text

/-- Whether a text begins and ends with characters that are no blanks. -/
structure IsSolid (t : Text) : Prop where
  head : ∃ c ∈ t.head?, TypedTemplate.isBlank c = false
  last : ∃ c ∈ t.getLast?, TypedTemplate.isBlank c = false

theorem IsSolid.append {a b : Text} (ha : IsSolid a) (between : Text) (hb : IsSolid b) :
    IsSolid (a ++ (between ++ b)) := by
  obtain ⟨c, hc, hblank⟩ := ha.head
  obtain ⟨d, hd, hblank'⟩ := hb.last
  rw [Option.mem_def] at hc hd
  exact ⟨⟨c, by simp [List.head?_append, hc], hblank⟩,
    ⟨d, by simp [List.getLast?_append, hd], hblank'⟩⟩

theorem IsSolid.char {c : Char} (h : TypedTemplate.isBlank c = false) : IsSolid [c] :=
  ⟨⟨c, rfl, h⟩, ⟨c, rfl, h⟩⟩

theorem IsSolid.of_forall {t : Text} (hne : t ≠ [])
    (h : ∀ c ∈ t, TypedTemplate.isBlank c = false) : IsSolid t where
  head := ⟨t.head hne, List.head_mem_head? hne, h _ (List.head_mem hne)⟩
  last := ⟨t.getLast hne, List.getLast_mem_getLast? hne, h _ (List.getLast_mem hne)⟩

theorem IsSolid.trim {t : Text} (h : IsSolid t) : t.trim = t := by
  obtain ⟨⟨c, hc, hblank⟩, ⟨d, hd, hblank'⟩⟩ := h
  refine trim_eq_self (fun e he => ?_) fun e he => ?_
  · rwa [Option.mem_unique he hc]
  · rwa [Option.mem_unique he hd]

theorem IsSolid.ne_nil {t : Text} (h : IsSolid t) : t ≠ [] := by
  rintro rfl
  obtain ⟨⟨_, hc, -⟩, -⟩ := h
  cases hc

/-- Whether a text is another one, with one line break behind it or without. -/
def IsLine (u t : Text) : Prop := t = u ∨ t = u ++ ['\n']

theorem IsLine.append_left {u t : Text} (h : IsLine u t) (before : Text) :
    IsLine (before ++ u) (before ++ t) := by
  rcases h with rfl | rfl
  · exact .inl rfl
  · exact .inr (List.append_assoc _ _ _).symm

theorem trim_concat_blank {c : Char} (h : TypedTemplate.isBlank c = true) (t : Text) :
    trim (t ++ [c]) = trim t := by
  rw [trim, trim, trimLeft, trimLeft, List.dropWhile_append]
  split
  · rename_i hempty
    rw [List.isEmpty_iff.1 hempty, List.dropWhile_cons_of_pos h]
    rfl
  · rw [trimRight, trimRight, List.reverse_append, List.reverse_singleton, List.singleton_append,
      List.dropWhile_cons_of_pos h]

theorem join_cons (separator t : Text) (rest : List Text) :
    join separator (t :: rest) = t ++ rest.flatMap (separator ++ ·) := by
  induction rest generalizing t with
  | nil => simp [join]
  | cons u rest ih =>
    rw [join_cons_cons, ih, List.flatMap_cons, List.append_assoc, List.append_assoc]

theorem isSolid_join (separator : Text) {texts : List Text} (hne : texts ≠ [])
    (h : ∀ t ∈ texts, IsSolid t) : IsSolid (join separator texts) := by
  induction texts with
  | nil => exact absurd rfl hne
  | cons t rest ih =>
    obtain ⟨ht, hrest⟩ := List.forall_mem_cons.1 h
    cases rest with
    | nil => exact ht
    | cons u rest =>
      rw [join_cons_cons, List.append_assoc]
      exact ht.append separator (ih (List.cons_ne_nil u rest) hrest)

end Text

/-- Whether a character is one that names, paths and numerals are written with. -/
def isBare (c : Char) : Bool := Path.isIdentifierChar c || c == '.' || c == '-'

theorem isBlank_of_isBare {c : Char} (h : isBare c = true) : isBlank c = false := by
  simp only [isBare, Bool.or_eq_true, beq_iff_eq] at h
  rcases h with (h | rfl) | rfl
  · exact Path.isBlank_of_isIdentifierChar h
  · decide
  · decide

theorem isBlank_of_isDecimal {c : Char} (h : isDecimal c = true) : isBlank c = false := by
  have hzeros : ∀ z ∈ ClassTable.zeros, 0xA0 < z.first ∧ (z.first + 9 < 0x1680 ∨
      0x1680 < z.first ∧ z.first + 9 < 0x2000 ∨ 0x3000 < z.first) := by decide +kernel
  simp only [isDecimal, digitValue?] at h
  split at h
  · rename_i hascii
    have hdigit : 48 ≤ c.toNat ∧ c.toNat ≤ 57 := by
      by_contra hno
      simp [hno] at h
    simp only [isBlank, hascii, if_true, Bool.or_eq_false_iff, Bool.and_eq_false_iff,
      decide_eq_false_iff_not]
    omega
  · rename_i hascii
    simp only [Option.isSome_map, List.find?_isSome, Bool.and_eq_true, decide_eq_true_eq] at h
    obtain ⟨z, hz, hfirst, hlast⟩ := h
    have hspan := hzeros z hz
    simp only [isBlank, hascii, if_false, Bool.or_eq_false_iff, Bool.and_eq_false_iff,
      decide_eq_false_iff_not, beq_eq_false_iff_ne]
    omega

/-- The characters at which an expression is cut. -/
def delimiters : List Char := ['|', '(', ')', ',', ':', '?']

namespace Quotes

theorem hides_of_isBare {t : Text} (h : ∀ c ∈ t, isBare c = true) : Hides delimiters t := by
  have hmarks : (['"', '\''] ++ delimiters).all (!isBare ·) = true := by decide
  refine .plain fun c hc => ⟨?_, fun hm => ?_⟩
  · rw [Bool.eq_false_iff]
    intro hq
    have hm : c ∈ ['"', '\''] := by simpa using isQuote_iff.1 hq
    exact absurd (List.all_eq_true.1 hmarks c (List.mem_append_left _ hm)) (by simp [h c hc])
  · exact absurd (List.all_eq_true.1 hmarks c (List.mem_append_right _ hm)) (by simp [h c hc])

end Quotes

theorem Text.isSolid_of_isBare {t : Text} (hne : t ≠ []) (h : ∀ c ∈ t, isBare c = true) :
    t.IsSolid :=
  .of_forall hne fun c hc => isBlank_of_isBare (h c hc)

theorem Quotes.Hides.join {hidden : List Char} {separator : Text} {texts : List Text}
    (hs : Hides hidden separator) (h : ∀ t ∈ texts, Hides hidden t) :
    Hides hidden (Text.join separator texts) := by
  cases texts with
  | nil => exact .nil
  | cons t rest =>
    obtain ⟨ht, hrest⟩ := List.forall_mem_cons.1 h
    rw [Text.join_cons]
    exact ht.append (.flatMap fun u hu => hs.append (hrest u hu))

theorem Quotes.split_join {d : Char} (hd : isQuote d = false) {texts : List Text}
    (hne : texts ≠ []) (h : ∀ t ∈ texts, t.IsSolid ∧ Hides [d] t) :
    split (· == d) (Text.join [d] texts) = .ok texts := by
  have hsolid := Text.isSolid_join [d] hne fun t ht => (h t ht).1
  obtain ⟨first, others, rfl⟩ := List.exists_cons_of_ne_nil hne
  rw [Text.join_cons] at hsolid ⊢
  exact split_flatMap hd hsolid.ne_nil fun t ht => (h t ht).2

theorem isAsciiLetter_of_isAsciiDigit {c : Char} (h : isAsciiDigit c = true) :
    isAsciiLetter c = false := by
  simp only [isAsciiDigit, isAsciiLetter, Bool.and_eq_true, Bool.or_eq_false_iff,
    Bool.and_eq_false_iff, decide_eq_true_eq, decide_eq_false_iff_not, Char.le_def,
    UInt32.le_iff_toNat_le] at h ⊢
  have hnine : ('9' : Char).val.toNat = 57 := rfl
  have ha : ('a' : Char).val.toNat = 97 := rfl
  have hA : ('A' : Char).val.toNat = 65 := rfl
  omega

theorem isBare_of_isAsciiDigit {c : Char} (h : isAsciiDigit c = true) : isBare c = true := by
  simp [isBare, Path.isIdentifierChar, h]

namespace Text

theorem isAsciiDigit_of_mem_ofNat {n : Nat} {c : Char} (h : c ∈ ofNat n) :
    isAsciiDigit c = true := by
  have hdigit := Nat.isDigit_of_mem_toDigits (by decide) (by decide) h
  simpa [isAsciiDigit, Char.isDigit, Char.le_def] using hdigit

theorem ofNat_ne_nil (n : Nat) : ofNat n ≠ [] := Nat.toDigits_ne_nil

theorem ofInt_eq (n : Int) : ofInt n = (if n < 0 then ['-'] else []) ++ ofNat n.natAbs := by
  cases n with
  | ofNat n => simp [ofInt]
  | negSucc n => simp [ofInt]

theorem isBare_of_mem_ofInt {n : Int} {c : Char} (h : c ∈ ofInt n) : isBare c = true := by
  rw [ofInt_eq, List.mem_append] at h
  rcases h with h | h
  · split at h
    · rw [List.mem_singleton.1 h]
      rfl
    · cases h
  · exact isBare_of_isAsciiDigit (isAsciiDigit_of_mem_ofNat h)

theorem ofInt_ne_nil (n : Int) : ofInt n ≠ [] := by
  rw [ofInt_eq]
  exact List.append_ne_nil_of_right_ne_nil _ (ofNat_ne_nil _)

end Text

theorem digitValue?_of_isAsciiDigit {c : Char} (h : isAsciiDigit c = true) :
    digitValue? c = some (c.toNat - 48) := by
  have hrange : 48 ≤ c.toNat ∧ c.toNat ≤ 57 := by
    simpa [isAsciiDigit, Char.le_def, UInt32.le_iff_toNat_le] using h
  have hascii : c.toNat < 128 := by omega
  simp [digitValue?, hascii, hrange]

namespace Decimal

theorem takeDigits_eq {t : Text} (h : ∀ c ∈ t, isAsciiDigit c = true) :
    takeDigits t = (t.map (·.toNat - 48), []) := by
  induction t with
  | nil => rfl
  | cons c t ih =>
    obtain ⟨hc, ht⟩ := List.forall_mem_cons.1 h
    simp [takeDigits, digitValue?_of_isAsciiDigit hc, ih ht]

theorem value_ofNat (n : Nat) : value ((Text.ofNat n).map (·.toNat - 48)) = n := by
  rw [value, List.foldl_map]
  exact Nat.ofDigitChars_eq_foldl.symm.trans Nat.ofDigitChars_ten_toDigits

theorem takeMantissa?_ofNat (n : Nat) :
    takeMantissa? (Text.ofNat n) = some ((Text.ofNat n).map (·.toNat - 48), none, []) := by
  obtain ⟨c, rest, hn⟩ := List.exists_cons_of_ne_nil (Text.ofNat_ne_nil n)
  rw [takeMantissa?, takeDigits_eq fun _ => Text.isAsciiDigit_of_mem_ofNat, hn]
  rfl

theorem takeSign_ofInt (n : Int) :
    takeSign (Text.ofInt n) = (decide (n < 0), Text.ofNat n.natAbs) := by
  obtain ⟨c, rest, hn⟩ := List.exists_cons_of_ne_nil (Text.ofNat_ne_nil n.natAbs)
  have hdigit : isAsciiDigit c = true :=
    Text.isAsciiDigit_of_mem_ofNat (n := n.natAbs) (by simp [hn])
  rw [Text.ofInt_eq]
  by_cases hneg : n < 0
  · simp [hneg, takeSign]
  · have hsigns : c ≠ '-' ∧ c ≠ '+' := by
      constructor <;> rintro rfl <;> exact absurd hdigit (by decide)
    simp only [hneg, if_false, List.nil_append, decide_false, hn]
    unfold takeSign
    split
    · rename_i heq
      exact absurd (List.cons.inj heq).1 hsigns.1
    · rename_i heq
      exact absurd (List.cons.inj heq).1 hsigns.2
    · rfl

theorem read?_ofInt (n : Int) :
    read? (Text.ofInt n) = some ⟨decide (n < 0), n.natAbs, 0, true⟩ := by
  have hvalue := value_ofNat n.natAbs
  simp [read?, takeSign_ofInt, takeMantissa?_ofNat, readExponent?, hvalue]

theorem toInt_ofInt (n : Int) : toInt ⟨decide (n < 0), n.natAbs, 0, true⟩ = n := by
  simp only [toInt, decide_eq_true_eq]
  split <;> omega

end Decimal

/-- Whether a text is enclosed, as another, in a quote that it does not contain. -/
def Quotes.Encloses (t written : Text) : Prop :=
  ∃ quote, isQuote quote = true ∧ quote ∉ t ∧ written = quote :: t ++ [quote]

/-- Whether one of the quotes can enclose a text. -/
def Text.IsQuotable (t : Text) : Prop := '"' ∉ t ∨ '\'' ∉ t

namespace Quotes.Encloses

variable {t written : Text}

theorem unquote (h : Encloses t written) : Quotes.unquote written = t := by
  obtain ⟨quote, hquote, -, rfl⟩ := h
  exact unquote_quoted hquote t

theorem hides (h : Encloses t written) (hidden : List Char) : Hides hidden written := by
  obtain ⟨quote, hquote, hmem, rfl⟩ := h
  exact .quoted hquote hmem

theorem isSolid (h : Encloses t written) : written.IsSolid := by
  obtain ⟨quote, hquote, -, rfl⟩ := h
  have hblank : isBlank quote = false := by
    rcases isQuote_iff.1 hquote with rfl | rfl <;> decide
  exact .append (.char hblank) t (.char hblank)

/-- A text can be enclosed exactly if it does not contain both quotes. -/
theorem exists_iff : (∃ written, Encloses t written) ↔ t.IsQuotable := by
  constructor
  · rintro ⟨_, quote, hquote, hmem, rfl⟩
    rcases isQuote_iff.1 hquote with rfl | rfl
    · exact .inl hmem
    · exact .inr hmem
  · rintro (h | h)
    · exact ⟨_, '"', rfl, h, rfl⟩
    · exact ⟨_, '\'', rfl, h, rfl⟩

end Quotes.Encloses

namespace Literal

/-- How a literal is written. -/
inductive IsWritten : Literal → Text → Prop
  | text {t written : Text} (enclosed : Quotes.Encloses t written) : IsWritten (.text t) written
  | whole (n : Int) : IsWritten (.number (.whole n)) (Text.ofInt n)
  | boolean (b : Bool) : IsWritten (.boolean b) (if b then "true" else "false")

/-- Whether a literal can be written: its text is enclosed by one of the quotes, its number is
whole. -/
def IsQuotable : Literal → Prop
  | .text t => t.IsQuotable
  | .number n => ∃ k, n = .whole k
  | .boolean _ => True

variable {value : Literal} {written : Text}

theorem exists_isWritten_iff : (∃ written, value.IsWritten written) ↔ value.IsQuotable := by
  cases value with
  | text t =>
    rw [IsQuotable, ← Quotes.Encloses.exists_iff]
    exact ⟨fun ⟨w, .text h⟩ => ⟨w, h⟩, fun ⟨w, h⟩ => ⟨w, .text h⟩⟩
  | number n =>
    constructor
    · rintro ⟨_, hwritten⟩
      cases hwritten
      exact ⟨_, rfl⟩
    · rintro ⟨k, rfl⟩
      exact ⟨_, .whole k⟩
  | boolean b => exact ⟨fun _ => trivial, fun _ => ⟨_, .boolean b⟩⟩

namespace IsWritten

theorem isBare_boolean (b : Bool) :
    ∀ c ∈ (if b then ("true" : Text) else "false"), isBare c = true :=
  List.all_eq_true.1 (by cases b <;> decide)

theorem isSolid (h : value.IsWritten written) : written.IsSolid := by
  cases h with
  | text h => exact h.isSolid
  | whole n => exact Text.isSolid_of_isBare (Text.ofInt_ne_nil n) fun _ => Text.isBare_of_mem_ofInt
  | boolean b => exact Text.isSolid_of_isBare (by cases b <;> decide) (isBare_boolean b)

theorem hides (h : value.IsWritten written) : Quotes.Hides delimiters written := by
  cases h with
  | text h => exact h.hides delimiters
  | whole n => exact Quotes.hides_of_isBare fun _ => Text.isBare_of_mem_ofInt
  | boolean b => exact Quotes.hides_of_isBare (isBare_boolean b)

end IsWritten
end Literal

namespace Expression

theorem unquote_of_isBare {t : Text} (h : ∀ c ∈ t, isBare c = true) : Quotes.unquote t = t := by
  refine Quotes.unquote_of_head fun c hc => ?_
  have hbare := h c (List.mem_of_mem_head? hc)
  rw [Bool.eq_false_iff]
  intro hq
  rcases Quotes.isQuote_iff.1 hq with rfl | rfl <;> exact absurd hbare (by decide)

theorem readNumber_ofInt (n : Int) (keyword : Text) (wholeOnly : Bool) :
    readNumber (Text.ofInt n) keyword wholeOnly = .ok (.whole n) := by
  have hbare : ∀ c ∈ Text.ofInt n, isBare c = true := fun _ => Text.isBare_of_mem_ofInt
  have htrim := (Text.isSolid_of_isBare (Text.ofInt_ne_nil n) hbare).trim
  have hbreak : Path.dropFinalBreak (Text.ofInt n) = Text.ofInt n := by
    rw [← htrim, Text.dropFinalBreak_trim]
  have hread := Decimal.read?_ofInt n
  have hvalue := Decimal.toInt_ofInt n
  simp [readNumber, unquote_of_isBare hbare, hbreak, hread, hvalue]

theorem readWhole_ofInt (n : Int) (keyword : Text) :
    readWhole (Text.ofInt n) keyword = .ok n := by
  rw [readWhole, readNumber_ofInt]
  rfl

theorem readLiteral_of_isWritten {type : DataType} {value : Literal} {written : Text}
    (htype : value.HasType type) (h : value.IsWritten written) (keyword : Text) :
    readLiteral written type keyword = .ok value := by
  cases h with
  | text h =>
    cases type with
    | string | date | time | datetime =>
      rw [readLiteral, h.unquote] <;>
        · intro hother
          cases hother
    | integer | number | boolean => cases htype
  | whole n =>
    cases type with
    | integer | number =>
      rw [readLiteral, readNumber_ofInt]
      rfl
    | string | boolean | date | time | datetime => cases htype
  | boolean b =>
    cases type with
    | boolean =>
      simp only [readLiteral, unquote_of_isBare (Literal.IsWritten.isBare_boolean b)]
      cases b <;> rfl
    | string | integer | number | date | time | datetime => cases htype

end Expression
end TypedTemplate
