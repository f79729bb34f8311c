/-!
# Text

A text is the list of its characters, so every operation on it is a recursion on
that list. Lengths and positions count characters. String literals stand for
texts wherever a text is expected.
-/
namespace TypedTemplate

abbrev Text := List Char

instance : Coe String Text := ⟨String.toList⟩

namespace Text

def ofNat (n : Nat) : Text := Nat.toDigits 10 n

/-- The decimal numeral of an integer, a minus sign before a negative one. -/
def ofInt : Int → Text
  | .ofNat n => ofNat n
  | .negSucc n => '-' :: ofNat (n + 1)

/-- Puts a character in front of the first piece of a list of pieces. -/
def consHead (c : Char) : List Text → List Text
  | [] => [[c]]
  | piece :: pieces => (c :: piece) :: pieces

/-- The pieces between the characters that satisfy `p`, empty pieces included.
There is one piece more than there are such characters. -/
def splitAt (p : Char → Bool) : Text → List Text
  | [] => [[]]
  | c :: rest => if p c then [] :: splitAt p rest else consHead c (splitAt p rest)

/-- The pieces between the occurrences of one character. -/
def splitOn (c : Char) (t : Text) : List Text := splitAt (· == c) t

/-- The texts joined with a separator between neighbours. -/
def join (separator : Text) : List Text → Text
  | [] => []
  | [t] => t
  | t :: rest => t ++ separator ++ join separator rest

/-- The text before the first occurrence of a character, and the text after it if
the character occurs. -/
def cut (c : Char) : Text → Text × Option Text
  | [] => ([], none)
  | d :: rest =>
    if d == c then ([], some rest)
    else
      let (before, after) := cut c rest
      (d :: before, after)

def after? : Text → Text → Option Text
  | [], t => some t
  | _ :: _, [] => none
  | a :: as, b :: bs => if a == b then after? as bs else none

/-- Whether a text occurs in another. -/
def occursIn (part : Text) : Text → Bool
  | [] => part.isEmpty
  | c :: rest => part.isPrefixOf (c :: rest) || occursIn part rest

/-- The pieces between the occurrences of a separator, found from the left and
without overlap. The number bounds the pieces that are still to be cut off. -/
def splitOnTextFrom (separator : Text) : Nat → Text → Text → List Text
  | 0, piece, t => [piece.reverse ++ t]
  | _ + 1, piece, [] => [piece.reverse]
  | fuel + 1, piece, c :: rest =>
    match after? separator (c :: rest) with
    | some tail => piece.reverse :: splitOnTextFrom separator fuel [] tail
    | none => splitOnTextFrom separator fuel (c :: piece) rest

/-- The pieces between the occurrences of a separator that is not empty. -/
def splitOnText (separator t : Text) : List Text :=
  splitOnTextFrom separator (t.length + 1) [] t

/-- Every occurrence of `old`, from the left and without overlap, replaced by
`new`. An empty `old` occurs before each character and at the end. -/
def replace (old new t : Text) : Text :=
  if old.isEmpty then new ++ t.flatMap (fun c => c :: new)
  else join new (splitOnText old t)

/-- The characters from one position up to another. A negative position counts
from the end; positions outside the text stand for its ends. -/
def slice (first last : Int) (t : Text) : Text :=
  let position (i : Int) : Nat := if i < 0 then (i + t.length).toNat else i.toNat
  (t.take (position last)).drop (position first)

@[simp] theorem splitAt_nil (p : Char → Bool) : splitAt p [] = [[]] := rfl

theorem consHead_ne_nil (c : Char) (pieces : List Text) : consHead c pieces ≠ [] := by
  cases pieces <;> simp [consHead]

theorem splitAt_ne_nil (p : Char → Bool) (t : Text) : splitAt p t ≠ [] := by
  cases t with
  | nil => simp
  | cons c rest =>
    unfold splitAt
    split
    · simp
    · exact consHead_ne_nil c _

/-- No piece holds a character at which the text is split. -/
theorem not_of_mem_splitAt {p : Char → Bool} {t piece : Text} (h : piece ∈ splitAt p t) :
    ∀ c ∈ piece, p c = false := by
  induction t generalizing piece with
  | nil => simp_all
  | cons d rest ih =>
    unfold splitAt at h
    split at h
    · rcases List.mem_cons.1 h with rfl | h
      · simp
      · exact ih h
    · rename_i hd
      cases hs : splitAt p rest with
      | nil => exact absurd hs (splitAt_ne_nil p rest)
      | cons first others =>
        rw [hs] at h
        rcases List.mem_cons.1 h with rfl | h
        · intro c hc
          rcases List.mem_cons.1 hc with rfl | hc
          · simpa using hd
          · exact ih (by simp [hs]) c hc
        · exact ih (by simp [hs, h])

/-- Pieces joined again with the character at which they were split are the text. -/
theorem join_splitOn (c : Char) (t : Text) : join [c] (splitOn c t) = t := by
  induction t with
  | nil => rfl
  | cons d rest ih =>
    unfold splitOn at ih ⊢
    cases hs : splitAt (· == c) rest with
    | nil => exact absurd hs (splitAt_ne_nil _ rest)
    | cons first others =>
      rw [hs] at ih
      by_cases hd : d = c
      · simp [splitAt, hd, hs, join, ih]
      · cases others with
        | nil => simpa [splitAt, hd, hs, consHead, join] using ih
        | cons second more => simpa [splitAt, hd, hs, consHead, join] using ih

/-- Cutting at a character loses nothing but that character. -/
theorem cut_eq (c : Char) (t : Text) :
    (cut c t).1 ++ ((cut c t).2.elim [] (c :: ·)) = t := by
  induction t with
  | nil => rfl
  | cons d rest ih =>
    unfold cut
    by_cases h : d == c
    · simp only [beq_iff_eq] at h
      simp [h]
    · simp only [h]
      exact congrArg (d :: ·) ih

/-- What comes before the first occurrence of a character does not contain it. -/
theorem not_mem_cut (c : Char) (t : Text) : c ∉ (cut c t).1 := by
  induction t with
  | nil => simp [cut]
  | cons d rest ih =>
    unfold cut
    by_cases h : d == c
    · simp [h]
    · simp only [h, Bool.false_eq_true, ↓reduceIte, List.mem_cons, not_or]
      exact ⟨fun e => h (by simp [e]), ih⟩

theorem after?_eq_some {a t rest : Text} (h : after? a t = some rest) : t = a ++ rest := by
  induction a generalizing t with
  | nil => simpa [after?] using h
  | cons x xs ih =>
    cases t with
    | nil => simp [after?] at h
    | cons y ys =>
      unfold after? at h
      split at h
      · rename_i e
        simp only [beq_iff_eq] at e
        simp [e, ih h]
      · simp at h

end Text
end TypedTemplate
