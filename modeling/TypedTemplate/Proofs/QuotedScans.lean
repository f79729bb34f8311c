import TypedTemplate.Expression.Quotes

/-!
# Scans of quoted texts

A text hides some characters when its quotes are all closed and the characters stand in it only
inside of quotes. Whatever is enclosed in a quote that it does not contain hides every character. A
scan for a hidden character passes over the text that hides it, and goes on behind it as if it began
there: such a text is not split, and neither the character nor its place is found in it.
-/
namespace TypedTemplate.Quotes

/-- The significant characters of a text, with a quote that is open before it or none. -/
def outside (q : Option Char) : Text → Text
  | [] => []
  | c :: rest =>
    if significant q c then c :: outside (step q c) rest else outside (step q c) rest

theorem isQuote_iff {c : Char} : isQuote c = true ↔ c = '"' ∨ c = '\'' := by
  rw [isQuote, Bool.or_eq_true, beq_iff_eq, beq_iff_eq]

theorem openAfter_append (q : Option Char) (a b : Text) :
    openAfter q (a ++ b) = openAfter (openAfter q a) b := List.foldl_append

theorem outside_append (q : Option Char) (a b : Text) :
    outside q (a ++ b) = outside q a ++ outside (openAfter q a) b := by
  induction a generalizing q with
  | nil => rfl
  | cons c a ih =>
    simp only [List.cons_append, outside, ih]
    split <;> rfl

/-- Inside of a quote that the text does not contain nothing closes and nothing is significant. -/
theorem openAfter_inside {k : Char} {t : Text} (h : k ∉ t) :
    openAfter (some k) t = some k ∧ outside (some k) t = [] := by
  induction t with
  | nil => exact ⟨rfl, rfl⟩
  | cons c t ih =>
    rw [List.mem_cons, not_or] at h
    have hstep : step (some k) c = some k := if_neg (Ne.symm h.1)
    simpa [openAfter, outside, significant, hstep] using ih h.2

/-- Whether the quotes of a text are all closed and some characters stand only inside of them. -/
structure Hides (hidden : List Char) (t : Text) : Prop where
  closed : openAfter none t = none
  outside : ∀ c ∈ hidden, c ∉ outside none t

namespace Hides

variable {hidden : List Char} {a b t : Text} {k c : Char}

theorem mono {fewer : List Char} (h : Hides hidden t) (hsub : fewer ⊆ hidden) : Hides fewer t :=
  ⟨h.closed, fun c hc => h.outside c (hsub hc)⟩

theorem nil : Hides hidden [] := ⟨rfl, nofun⟩

theorem append (ha : Hides hidden a) (hb : Hides hidden b) : Hides hidden (a ++ b) where
  closed := by rw [openAfter_append, ha.closed, hb.closed]
  outside c hc hm := by
    rw [outside_append, ha.closed] at hm
    exact (List.mem_append.1 hm).elim (ha.outside c hc) (hb.outside c hc)

theorem char (hq : isQuote c = false) (hc : c ∉ hidden) : Hides hidden [c] where
  closed := by simp [openAfter, step, hq]
  outside d hd hm := by
    have hbare : Quotes.outside none [c] = [c] := by simp [Quotes.outside, significant, hq]
    rw [hbare, List.mem_singleton] at hm
    exact hc (hm ▸ hd)

theorem cons (hq : isQuote c = false) (hc : c ∉ hidden) (ht : Hides hidden t) :
    Hides hidden (c :: t) := (char hq hc).append ht

theorem plain (h : ∀ c ∈ t, isQuote c = false ∧ c ∉ hidden) : Hides hidden t := by
  induction t with
  | nil => exact nil
  | cons c t ih =>
    obtain ⟨hc, ht⟩ := List.forall_mem_cons.1 h
    exact cons hc.1 hc.2 (ih ht)

theorem quoted (hk : isQuote k = true) (ht : k ∉ t) : Hides hidden (k :: t ++ [k]) := by
  obtain ⟨hopen, houtside⟩ := openAfter_inside ht
  have hstep : step none k = some k := by simp [step, hk]
  have hlast : step (some k) k = none := if_pos rfl
  constructor
  · have hfirst : openAfter none (k :: t ++ [k]) = openAfter (step none k) (t ++ [k]) := rfl
    rw [hfirst, hstep, openAfter_append, hopen]
    exact hlast
  · have hfirst : Quotes.outside none (k :: t ++ [k]) =
        Quotes.outside (step none k) (t ++ [k]) := by
      simp [Quotes.outside, significant, hk]
    have hnone : Quotes.outside none (k :: t ++ [k]) = [] := by
      rw [hfirst, hstep, outside_append, houtside, hopen]
      simp [Quotes.outside, significant]
    rw [hnone]
    exact fun _ _ => List.not_mem_nil

theorem flatMap {α : Type} {f : α → Text} {l : List α} (h : ∀ x ∈ l, Hides hidden (f x)) :
    Hides hidden (l.flatMap f) := by
  induction l with
  | nil => exact nil
  | cons x l ih =>
    obtain ⟨hx, hl⟩ := List.forall_mem_cons.1 h
    exact hx.append (ih hl)

end Hides

theorem foldr_consHead (a first : Text) (others : List Text) :
    a.foldr Text.consHead (first :: others) = (a ++ first) :: others := by
  induction a with
  | nil => rfl
  | cons c a ih =>
    rw [List.foldr_cons, ih]
    rfl

/-- Whether no cut is made in a text, given what comes after it. -/
def IsKept (isCut : Char → Text → Bool) (a rest : Text) : Prop :=
  pieces isCut none (a ++ rest) = a.foldr Text.consHead (pieces isCut none rest)

section pieces

variable {isCut : Char → Text → Bool} {hidden : List Char} {a b rest : Text} {c : Char}

theorem pieces_append {q : Option Char} (rest : Text)
    (h : ∀ c ∈ outside q a, ∀ r, isCut c r = false) :
    pieces isCut q (a ++ rest) =
      a.foldr Text.consHead (pieces isCut (openAfter q a) rest) := by
  induction a generalizing q with
  | nil => rfl
  | cons c a ih =>
    rw [List.cons_append, pieces, List.foldr_cons]
    by_cases hs : significant q c = true
    · rw [outside, if_pos hs] at h
      obtain ⟨hc, ha⟩ := List.forall_mem_cons.1 h
      simp only [hc, Bool.and_false, Bool.false_eq_true, if_false, ih ha]
      rfl
    · rw [outside, if_neg hs] at h
      simp only [hs, Bool.false_and, Bool.false_eq_true, if_false, ih h]
      rfl

namespace IsKept

theorem of_hides (ha : Hides hidden a) (h : ∀ c r, c ∉ hidden → isCut c r = false) :
    IsKept isCut a rest := by
  have hkept := pieces_append rest fun c hc r => h c r fun hm => ha.outside c hm hc
  rw [IsKept, hkept, ha.closed]

theorem append (ha : IsKept isCut a (b ++ rest)) (hb : IsKept isCut b rest) :
    IsKept isCut (a ++ b) rest := by
  rw [IsKept, List.append_assoc, ha, hb, List.foldr_append]

theorem char (hq : isQuote c = false) (hc : isCut c rest = false) : IsKept isCut [c] rest := by
  have hstep : step none c = none := by simp [step, hq]
  simp [IsKept, pieces, hc, hstep]

/-- What is kept up to a cut is the first piece. -/
theorem pieces_cons (ha : IsKept isCut a (c :: rest)) (hq : isQuote c = false)
    (hc : isCut c rest = true) :
    pieces isCut none (a ++ c :: rest) = a :: pieces isCut none rest := by
  have hcut : pieces isCut none (c :: rest) = [] :: pieces isCut none rest := by
    simp [pieces, significant, hq, hc]
  rw [ha, hcut, foldr_consHead, List.append_nil]

theorem pieces_eq (ha : IsKept isCut a []) : pieces isCut none a = [a] := by
  have hwhole := ha
  rw [IsKept, List.append_nil] at hwhole
  rw [hwhole, pieces, foldr_consHead, List.append_nil]

end IsKept
end pieces

theorem split_flatMap {d : Char} (hd : isQuote d = false) {first : Text} {others : List Text}
    (hne : first ++ others.flatMap (d :: ·) ≠ []) (h : ∀ t ∈ first :: others, Hides [d] t) :
    split (· == d) (first ++ others.flatMap (d :: ·)) = .ok (first :: others) := by
  have hpieces : pieces (fun c _ => c == d) none (first ++ others.flatMap (d :: ·)) =
      first :: others := by
    have hkept : ∀ {t rest : Text}, Hides [d] t → IsKept (fun c _ => c == d) t rest :=
      fun ht => .of_hides ht fun c _ hc => by simpa using hc
    clear hne
    induction others generalizing first with
    | nil =>
      rw [List.flatMap_nil, List.append_nil]
      exact (hkept (h first List.mem_cons_self)).pieces_eq
    | cons second others ih =>
      obtain ⟨hfirst, hrest⟩ := List.forall_mem_cons.1 h
      rw [List.flatMap_cons, List.cons_append,
        (hkept hfirst).pieces_cons hd (beq_self_eq_true d), ih hrest]
  have hclosed : Hides [] (first ++ others.flatMap (d :: ·)) := by
    have hall : ∀ t ∈ first :: others, Hides [] t := fun t ht =>
      (h t ht).mono (List.nil_subset _)
    obtain ⟨hfirst, hothers⟩ := List.forall_mem_cons.1 hall
    exact hfirst.append (.flatMap fun t ht => .cons hd List.not_mem_nil (hothers t ht))
  have hnonempty : (first ++ others.flatMap (d :: ·)).isEmpty = false := by simpa using hne
  rw [split, hnonempty, hclosed.closed, hpieces]
  rfl

section searches

variable {hidden : List Char} {a b rest : Text} {target : Char} {q : Option Char}

theorem findFrom_append (whole rest : Text) (i : Nat) (h : target ∉ outside q a) :
    findFrom whole target q i (a ++ rest) =
      findFrom whole target (openAfter q a) (i + a.length) rest := by
  induction a generalizing q i with
  | nil => rfl
  | cons c a ih =>
    have hpass : (significant q c && c == target) = false ∧ target ∉ outside (step q c) a := by
      by_cases hs : significant q c = true
      · rw [outside, if_pos hs, List.mem_cons, not_or] at h
        exact ⟨by simp [Ne.symm h.1], h.2⟩
      · rw [outside, if_neg hs] at h
        exact ⟨by simp [hs], h⟩
    rw [List.cons_append, findFrom, hpass.1]
    simp only [Bool.false_eq_true, if_false]
    rw [ih _ hpass.2, List.length_cons, Nat.add_right_comm, Nat.add_assoc i]
    rfl

theorem find_eq_none (ha : Hides hidden a) (h : target ∈ hidden) : find a target = .ok none := by
  have hfind := findFrom_append a [] 0 (ha.outside target h)
  rw [List.append_nil, ha.closed] at hfind
  exact hfind

theorem find_append (ha : Hides hidden a) (h : target ∈ hidden) (hq : isQuote target = false) :
    find (a ++ target :: rest) target = .ok (some a.length) := by
  have hfind := findFrom_append (a ++ target :: rest) (target :: rest) 0 (ha.outside target h)
  have hhit : (significant none target && target == target) = true := by simp [significant, hq]
  rw [find, hfind, ha.closed, findFrom, hhit, if_pos rfl, Nat.zero_add]

theorem findCloseFrom_append (whole rest : Text) (depth : Int) (i : Nat)
    (hopen : '(' ∉ outside q a) (hclose : ')' ∉ outside q a) :
    findCloseFrom whole q depth i (a ++ rest) =
      findCloseFrom whole (openAfter q a) depth (i + a.length) rest := by
  induction a generalizing q i with
  | nil => rfl
  | cons c a ih =>
    have hpass : (significant q c && c == '(') = false ∧ (significant q c && c == ')') = false ∧
        '(' ∉ outside (step q c) a ∧ ')' ∉ outside (step q c) a := by
      by_cases hs : significant q c = true
      · rw [outside, if_pos hs, List.mem_cons, not_or] at hopen hclose
        exact ⟨by simp [Ne.symm hopen.1], by simp [Ne.symm hclose.1], hopen.2, hclose.2⟩
      · rw [outside, if_neg hs] at hopen hclose
        exact ⟨by simp [hs], by simp [hs], hopen, hclose⟩
    rw [List.cons_append, findCloseFrom, hpass.1, hpass.2.1]
    simp only [Bool.false_and, Bool.false_eq_true, if_false]
    rw [ih _ hpass.2.2.1 hpass.2.2.2, List.length_cons, Nat.add_right_comm, Nat.add_assoc i]
    rfl

/-- A parenthesis is closed by the one behind a text that hides parentheses. -/
theorem findClose_append (hb : Hides hidden b) (hopen : '(' ∈ hidden) (hclose : ')' ∈ hidden) :
    findClose (a ++ '(' :: (b ++ ')' :: rest)) a.length =
      .ok (some (a.length + 1 + b.length)) := by
  have hinside := findCloseFrom_append (a ++ '(' :: (b ++ ')' :: rest)) (')' :: rest) 1
    (a.length + 1) (hb.outside _ hopen) (hb.outside _ hclose)
  have hfirst : findClose (a ++ '(' :: (b ++ ')' :: rest)) a.length =
      findCloseFrom (a ++ '(' :: (b ++ ')' :: rest)) none 1 (a.length + 1) (b ++ ')' :: rest) := by
    rw [findClose, List.drop_left]
    rfl
  rw [hfirst, hinside, hb.closed]
  rfl

end searches

theorem unquote_quoted {k : Char} (hk : isQuote k = true) (t : Text) :
    unquote (k :: t ++ [k]) = t := by
  have hlast : (t ++ [k]).getLast? = some k := List.getLast?_concat
  rw [List.cons_append, unquote, hk, hlast, List.dropLast_concat]
  simp

theorem unquote_of_head {t : Text} (h : ∀ c ∈ t.head?, isQuote c = false) : unquote t = t := by
  cases t with
  | nil => rfl
  | cons c rest =>
    have hc : isQuote c = false := h c rfl
    simp [unquote, hc]

end TypedTemplate.Quotes
