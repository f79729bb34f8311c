import Mathlib.Data.List.Forall2
import Mathlib.Data.List.TakeWhile
import TypedTemplate.Style

/-!
# Banned values

What it means that a value of a style is banned: somewhere in it stands a banned word between word
boundaries, a banned function with its opening parenthesis, or a number with a relative unit, in
whatever case. Every place is tried, so the test finds exactly these values. Of a number with a
fraction it sees the last digit only, which is enough.
-/
namespace TypedTemplate

namespace Style

/-- Whether a text spells a word of small letters when case is ignored. -/
def Spells (word here : Text) : Prop :=
  List.Forall₂ (fun letter c => isLetterIgnoringCase letter c = true) word here

/-- A fraction of a number, if there is one: a point with digits after it. -/
def IsFraction (t : Text) : Prop :=
  t = [] ∨ ∃ digits, digits ≠ [] ∧ (∀ d ∈ digits, isDecimal d = true) ∧ t = '.' :: digits

/-- A value that holds something banned, with what stands before and after it. -/
inductive Banned : Text → Prop
  | word {word before here after : Text} : word ∈ bannedWords → Spells word here →
      before.getLast?.any isWordChar = false → after.head?.any isWordChar = false →
      Banned (before ++ here ++ after)
  | call {name before here blanks after : Text} : name ∈ bannedFunctions → Spells name here →
      blanks.isBlank = true → Banned (before ++ here ++ blanks ++ '(' :: after)
  | measure {unit before here fraction blanks after : Text} {digit : Char} :
      isDecimal digit = true → IsFraction fraction → blanks.isBlank = true →
      unit ∈ bannedUnits → Spells unit here → after.head?.any isAnyLetterIgnoringCase = false →
      Banned (before ++ digit :: fraction ++ blanks ++ here ++ after)

theorem afterIgnoringCase?_eq_some_iff {word t rest : Text} :
    afterIgnoringCase? word t = some rest ↔ ∃ here, Spells word here ∧ t = here ++ rest := by
  induction word generalizing t with
  | nil =>
    rw [afterIgnoringCase?, Option.some.injEq]
    constructor
    · rintro rfl
      exact ⟨[], .nil, rfl⟩
    · rintro ⟨here, hs, rfl⟩
      cases hs
      rfl
  | cons letter word ih =>
    cases t with
    | nil =>
      refine iff_of_false nofun ?_
      rintro ⟨here, hs, he⟩
      cases hs
      cases he
    | cons c t =>
      rw [afterIgnoringCase?]
      split
      · rename_i hc
        rw [ih]
        constructor
        · rintro ⟨here, hs, rfl⟩
          exact ⟨c :: here, .cons hc hs, rfl⟩
        · rintro ⟨here, hs, he⟩
          cases hs with
          | cons _ hs =>
            obtain ⟨rfl, rfl⟩ := List.cons.inj he
            exact ⟨_, hs, rfl⟩
      · rename_i hc
        refine iff_of_false nofun ?_
        rintro ⟨here, hs, he⟩
        cases hs with
        | cons hletter _ =>
          obtain ⟨rfl, -⟩ := List.cons.inj he
          exact hc hletter

theorem any_afterIgnoringCase?_iff {word t : Text} {test : Text → Bool} :
    (afterIgnoringCase? word t).any test = true ↔
      ∃ here after, Spells word here ∧ t = here ++ after ∧ test after = true := by
  rw [Option.any_eq_true]
  constructor
  · rintro ⟨after, ha, htest⟩
    obtain ⟨here, hs, he⟩ := afterIgnoringCase?_eq_some_iff.1 ha
    exact ⟨here, after, hs, he, htest⟩
  · rintro ⟨here, after, hs, he, htest⟩
    exact ⟨after, afterIgnoringCase?_eq_some_iff.2 ⟨here, hs, he⟩, htest⟩

theorem exists_blanks_trimLeft (t : Text) :
    ∃ blanks, blanks.isBlank = true ∧ t = blanks ++ Text.trimLeft t := by
  refine ⟨t.takeWhile isBlank, ?_, (List.takeWhile_append_dropWhile ..).symm⟩
  rw [Text.isBlank, List.all_eq_true]
  intro c hc
  exact List.mem_takeWhile_imp hc

theorem trimLeft_blanks_append {blanks : Text} (h : blanks.isBlank = true) {c : Char}
    (hc : isBlank c = false) (t : Text) : Text.trimLeft (blanks ++ c :: t) = c :: t := by
  rw [Text.isBlank, List.all_eq_true] at h
  rw [Text.trimLeft, List.dropWhile_append_of_pos h, List.dropWhile_cons_of_neg (by simp [hc])]

theorem isBlank_of_isLetterIgnoringCase {letter c : Char} (hl : isBlank letter = false)
    (h : isLetterIgnoringCase letter c = true) : isBlank c = false := by
  simp only [isLetterIgnoringCase, Bool.or_eq_true, Bool.and_eq_true, beq_iff_eq] at h
  rcases h with (((rfl | hlower) | ⟨-, rfl⟩) | ⟨-, rfl | rfl⟩) | ⟨-, rfl⟩
  · exact hl
  · unfold Char.toLower at hlower
    split at hlower
    · rename_i hupper
      have hbounds : 65 ≤ c.toNat ∧ c.toNat ≤ 90 := hupper
      have hascii : c.toNat < 128 := by omega
      simp only [isBlank, hascii, if_true, Bool.or_eq_false_iff, Bool.and_eq_false_iff,
        decide_eq_false_iff_not]
      omega
    · exact hlower ▸ hl
  · decide
  · decide
  · decide
  · decide

theorem isBlank_head_of_spells {letter : Char} {word here : Text} (hl : isBlank letter = false)
    (h : Spells (letter :: word) here) : ∃ c rest, here = c :: rest ∧ isBlank c = false := by
  cases h with
  | cons hc _ => exact ⟨_, _, rfl, isBlank_of_isLetterIgnoringCase hl hc⟩

theorem occurs_eq_true_iff {test : Option Char → Text → Bool} {before : Option Char} {t : Text} :
    occurs test before t = true ↔
      ∃ u v, t = u ++ v ∧ test (u.getLast?.or before) v = true := by
  induction t generalizing before with
  | nil =>
    rw [occurs]
    constructor
    · intro h
      exact ⟨[], [], rfl, h⟩
    · rintro ⟨u, v, he, h⟩
      obtain ⟨rfl, rfl⟩ := List.append_eq_nil_iff.1 he.symm
      exact h
  | cons c t ih =>
    rw [occurs, Bool.or_eq_true, ih]
    constructor
    · rintro (h | ⟨u, v, rfl, h⟩)
      · exact ⟨[], c :: t, rfl, h⟩
      · refine ⟨c :: u, v, rfl, ?_⟩
        rw [List.getLast?_cons]
        cases hu : u.getLast? <;> simpa [hu] using h
    · rintro ⟨u, v, he, h⟩
      cases u with
      | nil =>
        rw [List.nil_append] at he
        exact .inl (he ▸ h)
      | cons d u =>
        obtain ⟨rfl, rfl⟩ := List.cons.inj he
        refine .inr ⟨u, v, rfl, ?_⟩
        rw [List.getLast?_cons] at h
        cases hu : u.getLast? <;> simpa [hu] using h

theorem occurs_none_eq_true_iff {test : Option Char → Text → Bool} {t : Text} :
    occurs test none t = true ↔ ∃ u v, t = u ++ v ∧ test u.getLast? v = true := by
  simp only [occurs_eq_true_iff, Option.or_none]

theorem wordAt_eq_true_iff {word : Text} {before : Option Char} {t : Text} :
    wordAt word before t = true ↔ before.any isWordChar = false ∧
      ∃ here after, Spells word here ∧ t = here ++ after ∧
        after.head?.any isWordChar = false := by
  have htest : wordAt word before t = (!before.any isWordChar &&
      (afterIgnoringCase? word t).any fun rest => !rest.head?.any isWordChar) := by
    unfold wordAt
    cases afterIgnoringCase? word t <;> rfl
  rw [htest, Bool.and_eq_true, Bool.not_eq_true', any_afterIgnoringCase?_iff]
  simp only [Bool.not_eq_true']

theorem callAt_eq_true_iff {name : Text} {before : Option Char} {t : Text} :
    callAt name before t = true ↔ ∃ here blanks after, Spells name here ∧
      blanks.isBlank = true ∧ t = here ++ blanks ++ '(' :: after := by
  have htest : callAt name before t =
      (afterIgnoringCase? name t).any fun rest => (Text.trimLeft rest).head? == some '(' := by
    unfold callAt
    cases afterIgnoringCase? name t <;> rfl
  rw [htest, any_afterIgnoringCase?_iff]
  constructor
  · rintro ⟨here, rest, hs, rfl, h⟩
    obtain ⟨blanks, hb, hrest⟩ := exists_blanks_trimLeft rest
    obtain ⟨after, ha⟩ := List.head?_eq_some_iff.1 (beq_iff_eq.1 h)
    rw [ha] at hrest
    exact ⟨here, blanks, after, hs, hb, by rw [hrest, List.append_assoc]⟩
  · rintro ⟨here, blanks, after, hs, hb, rfl⟩
    refine ⟨here, blanks ++ '(' :: after, hs, List.append_assoc .., ?_⟩
    rw [trimLeft_blanks_append hb (by decide)]
    rfl

theorem unitAt_eq_true_iff {t : Text} :
    unitAt t = true ↔ ∃ unit ∈ bannedUnits, ∃ here after, Spells unit here ∧ t = here ++ after ∧
      after.head?.any isAnyLetterIgnoringCase = false := by
  have htest : unitAt t = bannedUnits.any fun unit =>
      (afterIgnoringCase? unit t).any fun rest => !rest.head?.any isAnyLetterIgnoringCase := by
    unfold unitAt
    congr 1
    funext unit
    cases afterIgnoringCase? unit t <;> rfl
  rw [htest, List.any_eq_true]
  simp only [any_afterIgnoringCase?_iff, Bool.not_eq_true']

theorem exists_cons_of_unit {unit here : Text} (hu : unit ∈ bannedUnits) (hs : Spells unit here) :
    ∃ c rest, here = c :: rest ∧ isBlank c = false := by
  have hfirst : bannedUnits.all (fun unit => unit.head?.any (!isBlank ·)) = true := by decide
  obtain ⟨letter, hl, hblank⟩ := (Option.any_eq_true _ _).1 (List.all_eq_true.1 hfirst unit hu)
  obtain ⟨word, rfl⟩ := List.head?_eq_some_iff.1 hl
  exact isBlank_head_of_spells (by simpa using hblank) hs

theorem measureAt_eq_true_iff {before : Option Char} {t : Text} :
    measureAt before t = true ↔ ∃ (digit : Char) (blanks : Text), isDecimal digit = true ∧
      blanks.isBlank = true ∧ ∃ unit ∈ bannedUnits, ∃ here after, Spells unit here ∧
        t = digit :: (blanks ++ (here ++ after)) ∧
        after.head?.any isAnyLetterIgnoringCase = false := by
  cases t with
  | nil => exact iff_of_false nofun (by simp)
  | cons c rest =>
    rw [measureAt, Bool.and_eq_true, unitAt_eq_true_iff]
    constructor
    · rintro ⟨hc, unit, hu, here, after, hs, he, ha⟩
      obtain ⟨blanks, hb, hrest⟩ := exists_blanks_trimLeft rest
      rw [he] at hrest
      exact ⟨c, blanks, hc, hb, unit, hu, here, after, hs, by rw [hrest], ha⟩
    · rintro ⟨digit, blanks, hd, hb, unit, hu, here, after, hs, he, ha⟩
      obtain ⟨rfl, rfl⟩ := List.cons.inj he
      refine ⟨hd, unit, hu, here, after, hs, ?_, ha⟩
      obtain ⟨first, others, rfl, hfirst⟩ := exists_cons_of_unit hu hs
      exact trimLeft_blanks_append hb hfirst (others ++ after)

theorem exists_last_digit {digit : Char} (hd : isDecimal digit = true) {fraction : Text}
    (hf : IsFraction fraction) :
    ∃ lead last, digit :: fraction = lead ++ [last] ∧ isDecimal last = true := by
  rcases hf with rfl | ⟨digits, hne, hdigits, rfl⟩
  · exact ⟨[], digit, rfl, hd⟩
  · refine ⟨digit :: '.' :: digits.dropLast, digits.getLast hne, ?_, ?_⟩
    · rw [List.cons_append, List.cons_append, List.dropLast_append_getLast]
    · exact hdigits _ (List.getLast_mem hne)

/-- The test of a value finds what is banned, and nothing else. -/
theorem isBanned_eq_true_iff {value : Text} : isBanned value = true ↔ Banned value := by
  simp only [isBanned, Bool.or_eq_true, List.any_eq_true, occurs_none_eq_true_iff,
    wordAt_eq_true_iff, callAt_eq_true_iff, measureAt_eq_true_iff]
  constructor
  · rintro ((⟨word, hw, u, v, rfl, hbefore, here, after, hs, rfl, hafter⟩ |
      ⟨name, hn, u, v, rfl, here, blanks, after, hs, hb, rfl⟩) |
      ⟨u, v, rfl, digit, blanks, hd, hb, unit, hu, here, after, hs, rfl, hafter⟩)
    · rw [← List.append_assoc]
      exact .word hw hs hbefore hafter
    · rw [← List.append_assoc, ← List.append_assoc]
      exact .call hn hs hb
    · have hvalue : u ++ digit :: (blanks ++ (here ++ after)) =
          u ++ digit :: [] ++ blanks ++ here ++ after := by simp
      rw [hvalue]
      exact .measure hd (.inl rfl) hb hu hs hafter
  · intro h
    cases h with
    | word hw hs hbefore hafter =>
      exact .inl (.inl ⟨_, hw, _, _, List.append_assoc .., hbefore, _, _, hs, rfl, hafter⟩)
    | call hn hs hb =>
      rename_i name before here blanks after
      refine .inl (.inr ⟨name, hn, before, here ++ blanks ++ '(' :: after, ?_, here, blanks, after,
        hs, hb, rfl⟩)
      simp only [List.append_assoc]
    | measure hd hf hb hu hs hafter =>
      rename_i unit before here fraction blanks after digit
      obtain ⟨lead, last, he, hlast⟩ := exists_last_digit hd hf
      refine .inr ⟨before ++ lead, last :: (blanks ++ (here ++ after)), ?_, last, blanks, hlast,
        hb, unit, hu, here, after, hs, rfl, hafter⟩
      rw [he]
      simp

instance : DecidablePred Banned := fun _ => decidable_of_iff _ isBanned_eq_true_iff

end Style
end TypedTemplate
