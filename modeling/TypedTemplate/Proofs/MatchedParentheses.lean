import Mathlib.Order.Bounds.Basic
import TypedTemplate.Proofs.QuotedPieces

/-!
# Matched parentheses

A parenthesis is closed where the depth of significant parentheses, counted from it on, is zero for
the first time. The search for that place begins at the parenthesis, in the middle of a text, but
the first significant parenthesis has only closed regions before it, so the search sees there what a
scan of the whole text sees. It stops at the place, and a region that is still open at the end of
the text counts only where there is no such place.
-/
namespace TypedTemplate.Quotes

/-- The depth to which a text brings parentheses, with a quote that is open before it or none: its
significant opening ones less its significant closing ones. -/
def depthAfter (q : Option Char) (t : Text) : ℤ :=
  (outside q t).count '(' - (outside q t).count ')'

section depth

variable {q : Option Char} {c : Char} {depth : ℤ}

theorem depthAfter_nil (q : Option Char) : depthAfter q [] = 0 := rfl

theorem depthAfter_append (q : Option Char) (a b : Text) :
    depthAfter q (a ++ b) = depthAfter q a + depthAfter (openAfter q a) b := by
  rw [depthAfter, depthAfter, depthAfter, outside_append, List.count_append, List.count_append]
  push_cast
  omega

theorem depthAfter_cons (q : Option Char) (c : Char) (t : Text) :
    depthAfter q (c :: t) = depthAfter q [c] + depthAfter (step q c) t :=
  depthAfter_append q [c] t

theorem depthAfter_char (q : Option Char) (c : Char) :
    depthAfter q [c] =
      if significant q c && c == '(' then 1 else if significant q c && c == ')' then -1 else 0 := by
  by_cases hs : significant q c = true
  · have houtside : outside q [c] = [c] := by simp [outside, hs]
    rw [depthAfter, houtside, hs]
    by_cases hopen : c = '('
    · subst hopen
      rfl
    · by_cases hclose : c = ')'
      · subst hclose
        rfl
      · simp [hopen, hclose]
  · simp [depthAfter, outside, hs]

theorem step_of_depthAfter_ne_zero (h : depthAfter q [c] ≠ 0) : step q c = none := by
  have hs : significant q c = true := by
    by_contra hs
    exact h (by simp [depthAfter_char, hs])
  obtain ⟨rfl, hc⟩ := significant_iff.1 hs
  exact step_plain hc

theorem findCloseFrom_cons (whole t : Text) (i : ℕ) (hdepth : 0 < depth) :
    findCloseFrom whole q depth i (c :: t) =
      if depth + depthAfter q [c] = 0 then .ok (some i)
      else findCloseFrom whole (step q c) (depth + depthAfter q [c]) (i + 1) t := by
  rw [findCloseFrom, depthAfter_char]
  have hne : ¬depth = 0 := by omega
  by_cases hs : significant q c = true
  · rw [hs]
    by_cases hopen : c = '('
    · subst hopen
      have hdeeper : ¬depth + 1 = 0 := by omega
      simp [hdeeper]
    · by_cases hclose : c = ')'
      · subst hclose
        have hone : depth + -1 = 0 ↔ depth = 1 := by omega
        simp [hone, Int.sub_eq_add_neg]
      · simp [hopen, hclose, hne]
  · simp [hs, hne]

/-- Below parentheses, the search finds the character with which the depth is zero for the first
time, or it reads to the end and the depth stays positive. -/
theorem findCloseFrom_cases (whole t : Text) (i : ℕ) (hdepth : 0 < depth) :
    (∃ n < t.length, (∀ m ≤ n, 0 < depth + depthAfter q (t.take m)) ∧
      depth + depthAfter q (t.take (n + 1)) = 0 ∧
      findCloseFrom whole q depth i t = .ok (some (i + n))) ∨
    ((∀ m, 0 < depth + depthAfter q (t.take m)) ∧
      findCloseFrom whole q depth i t = (do
        checkClosed whole (openAfter q t)
        return none)) := by
  induction t generalizing q depth i with
  | nil => exact .inr ⟨fun m => by simpa [depthAfter_nil] using hdepth, rfl⟩
  | cons c t ih =>
    have htake : ∀ m, depth + depthAfter q ((c :: t).take (m + 1)) =
        depth + depthAfter q [c] + depthAfter (step q c) (t.take m) := fun m => by
      rw [List.take_succ_cons, depthAfter_cons, Int.add_assoc]
    have hfirst : 0 < depth + depthAfter q ((c :: t).take 0) := by
      rw [List.take_zero, depthAfter_nil, Int.add_zero]
      exact hdepth
    rw [findCloseFrom_cons whole t i hdepth]
    by_cases hzero : depth + depthAfter q [c] = 0
    · refine .inl ⟨0, Nat.succ_pos _, fun m hm => ?_, ?_, if_pos hzero⟩
      · obtain rfl : m = 0 := Nat.le_zero.1 hm
        exact hfirst
      · rw [htake, hzero, List.take_zero, depthAfter_nil, Int.add_zero]
    · -- A character takes at most one from the depth, so it stays positive where it is not zero.
      have hnext : 0 < depth + depthAfter q [c] := by
        have hchar := depthAfter_char q c
        split at hchar
        · omega
        · split at hchar <;> omega
      rw [if_neg hzero]
      rcases ih (i + 1) hnext with ⟨n, hn, hdeep, hend, hfound⟩ | ⟨hdeep, hnone⟩
      · refine .inl ⟨n + 1, Nat.succ_lt_succ hn, fun m hm => ?_, ?_, ?_⟩
        · cases m with
          | zero => exact hfirst
          | succ m =>
            rw [htake]
            exact hdeep m (Nat.le_of_succ_le_succ hm)
        · rw [htake, hend]
        · rw [hfound, Nat.add_assoc, Nat.add_comm 1]
      · refine .inr ⟨fun m => ?_, hnone⟩
        cases m with
        | zero => exact hfirst
        | succ m =>
          rw [htake]
          exact hdeep m

end depth

/-- How often a character is significant in a text from one position to another, both included. -/
def countBetween (t : Text) (c : Char) (first last : ℕ) : ℕ :=
  (positionsFrom none 0 t).countP fun found => found.2 = c ∧ first ≤ found.1 ∧ found.1 ≤ last

/-- Whether the parentheses of a text from one position to another are balanced for the first time
at the second one: there are as many opening as closing ones, up to every earlier position there
are more opening ones, and each region that is opened between the positions is closed there. -/
structure ClosesAt (t : Text) (first last : ℕ) : Prop where
  first_le : first ≤ last
  lt_length : last < t.length
  balanced : countBetween t '(' first last = countBetween t ')' first last
  deep : ∀ k, first ≤ k → k < last → countBetween t ')' first k < countBetween t '(' first k
  closed : IsClosed ((t.drop first).take (last + 1 - first))

theorem ClosesAt.le {t : Text} {first last other : ℕ} (h : ClosesAt t first last)
    (hother : ClosesAt t first other) : last ≤ other := by
  by_contra hlt
  have hdeep := h.deep other hother.first_le (Nat.not_le.1 hlt)
  exact absurd hother.balanced (Nat.ne_of_gt hdeep)

section behind

variable {before rest : Text} {last n : ℕ}

theorem countBetween_append (hbefore : openAfter none before = none) (c : Char)
    (hn : n < rest.length) :
    countBetween (before ++ rest) c before.length (before.length + n) =
      (outside none (rest.take (n + 1))).count c := by
  have hlength : (rest.take (n + 1)).length = n + 1 := by
    rw [List.length_take, Nat.min_eq_left hn]
  have hscan := positionsFrom_eq_stretch hbefore (rest.take (n + 1)) (rest.drop (n + 1))
  rw [List.take_append_drop, hlength] at hscan
  rw [← map_snd_positionsFrom none 0, hscan, stretch, List.count_eq_countP, List.map_map,
    List.countP_map, List.countP_filter, countBetween]
  refine List.countP_congr fun found _ => ?_
  simp only [Function.comp_apply, Bool.and_eq_true, decide_eq_true_eq, beq_iff_eq]
  refine and_congr_right fun _ => and_congr_right fun _ => ?_
  omega

theorem depthAfter_eq_countBetween (hbefore : openAfter none before = none)
    (hn : n < rest.length) :
    depthAfter none (rest.take (n + 1)) =
      countBetween (before ++ rest) '(' before.length (before.length + n) -
        countBetween (before ++ rest) ')' before.length (before.length + n) := by
  rw [countBetween_append hbefore _ hn, countBetween_append hbefore _ hn, depthAfter]

/-- Behind closed text, parentheses are balanced for the first time where the depth is zero for the
first time. -/
theorem closesAt_append_iff (hbefore : openAfter none before = none) (hn : n < rest.length) :
    ClosesAt (before ++ rest) before.length (before.length + n) ↔
      depthAfter none (rest.take (n + 1)) = 0 ∧
        (∀ m < n, 0 < depthAfter none (rest.take (m + 1))) ∧
        openAfter none (rest.take (n + 1)) = none := by
  have hstretch : ((before ++ rest).drop before.length).take
      (before.length + n + 1 - before.length) = rest.take (n + 1) := by
    rw [List.drop_left, Nat.add_assoc, Nat.add_sub_cancel_left]
  have hdepth : ∀ m ≤ n, depthAfter none (rest.take (m + 1)) =
      countBetween (before ++ rest) '(' before.length (before.length + m) -
        countBetween (before ++ rest) ')' before.length (before.length + m) :=
    fun m hm => depthAfter_eq_countBetween hbefore (Nat.lt_of_le_of_lt hm hn)
  constructor
  · intro h
    refine ⟨?_, fun m hm => ?_, ?_⟩
    · rw [hdepth n (Nat.le_refl n), h.balanced, Int.sub_self]
    · have hdeep := h.deep (before.length + m) (Nat.le_add_right _ _) (Nat.add_lt_add_left hm _)
      rw [hdepth m (Nat.le_of_lt hm)]
      omega
    · have hclosed := h.closed
      rw [hstretch] at hclosed
      exact hclosed.openAfter_eq
  · rintro ⟨hzero, hpositive, hclosed⟩
    rw [hdepth n (Nat.le_refl n)] at hzero
    refine ⟨Nat.le_add_right _ _, ?_, by omega, fun k hfirst hlast => ?_, ?_⟩
    · rw [List.length_append]
      exact Nat.add_lt_add_left hn _
    · obtain ⟨m, rfl⟩ := Nat.exists_eq_add_of_le hfirst
      have hm : m < n := Nat.lt_of_add_lt_add_left hlast
      have hdeep := hpositive m hm
      rw [hdepth m (Nat.le_of_lt hm)] at hdeep
      omega
    · rw [hstretch]
      exact openAfter_eq_none_iff.1 hclosed

end behind

/-- What is found first has only closed text before it, in which it is not significant. -/
theorem exists_of_findFrom_eq_some {whole t : Text} {target : Char} {q : Option Char} {i o : ℕ}
    (h : findFrom whole target q i t = .ok (some o)) :
    ∃ before rest, t = before ++ target :: rest ∧ o = i + before.length ∧
      openAfter q before = none ∧ isQuote target = false := by
  induction t generalizing q i with
  | nil =>
    cases q <;> cases h
  | cons c t ih =>
    rw [findFrom] at h
    split at h
    · rename_i hhit
      obtain ⟨hs, hc⟩ := Bool.and_eq_true_iff.1 hhit
      obtain rfl : c = target := beq_iff_eq.1 hc
      obtain ⟨hq, hquote⟩ := significant_iff.1 hs
      exact ⟨[], t, rfl, (Option.some.inj (Except.ok.inj h)).symm, hq, hquote⟩
    · obtain ⟨before, rest, rfl, rfl, hopen, hquote⟩ := ih h
      exact ⟨c :: before, rest, rfl, by rw [List.length_cons]; omega, hopen, hquote⟩

section restart

variable {before rest : Text}

/-- Behind closed text, a scan that begins there yields what the scan of the whole text yields from
there on. -/
theorem positionsFrom_drop (hbefore : openAfter none before = none) :
    positionsFrom none before.length rest =
      (positionsFrom none 0 (before ++ rest)).filter (before.length ≤ ·.1) := by
  have hearlier : (positionsFrom none 0 before).filter (before.length ≤ ·.1) = [] := by
    refine List.filter_eq_nil_iff.2 fun found hfound => ?_
    have hbounds := bounds_of_mem_positionsFrom hfound
    simp only [decide_eq_true_eq]
    omega
  have hlater : (positionsFrom none before.length rest).filter (before.length ≤ ·.1) =
      positionsFrom none before.length rest :=
    List.filter_eq_self.2 fun found hfound =>
      decide_eq_true (bounds_of_mem_positionsFrom hfound).1
  rw [positionsFrom_append, hbefore, Nat.zero_add, List.filter_append, hearlier, hlater,
    List.nil_append]

theorem positions_drop (hbefore : openAfter none before = none) :
    positions (before ++ rest) before.length =
      List.filter (before.length ≤ ·.1) <$> positions (before ++ rest) 0 := by
  have hopen : openAfter none (before ++ rest) = openAfter none rest := by
    rw [openAfter_append, hbefore]
  rw [positions, positions, List.drop_left, List.drop_zero, hopen, positionsFrom_drop hbefore]
  cases openAfter none rest <;> rfl

end restart

theorem findClose_cases {before rest : Text} (hbefore : openAfter none before = none) :
    (∃ last, ClosesAt (before ++ '(' :: rest) before.length last ∧
      findClose (before ++ '(' :: rest) before.length = .ok (some last)) ∨
    ((∀ last, ¬ClosesAt (before ++ '(' :: rest) before.length last) ∧
      findClose (before ++ '(' :: rest) before.length = (do
        checkClosed (before ++ '(' :: rest) (openAfter none (before ++ '(' :: rest))
        return none)) := by
  have hopening : depthAfter none ['('] = 1 := rfl
  have hbehind : ∀ m, depthAfter none (('(' :: rest).take (m + 1)) =
      1 + depthAfter none (rest.take m) := fun m => by
    rw [List.take_succ_cons, depthAfter_cons, hopening]
    rfl
  have hfirst : findClose (before ++ '(' :: rest) before.length =
      findCloseFrom (before ++ '(' :: rest) none 1 (before.length + 1) rest := by
    rw [findClose, List.drop_left]
    rfl
  rw [hfirst]
  rcases findCloseFrom_cases (q := none) (before ++ '(' :: rest) rest (before.length + 1)
    Int.one_pos with ⟨n, hn, hdeep, hend, hfound⟩ | ⟨hdeep, hnone⟩
  · refine .inl ⟨before.length + (n + 1), ?_, by rw [hfound, Nat.add_assoc, Nat.add_comm 1]⟩
    refine (closesAt_append_iff hbefore (Nat.succ_lt_succ hn)).2 ⟨?_, fun m hm => ?_, ?_⟩
    · rw [hbehind, hend]
    · rw [hbehind]
      exact hdeep m (Nat.le_of_lt_succ hm)
    · -- The last character of the stretch changes the depth, so no region is open behind it.
      have hlast : rest.take (n + 1) = rest.take n ++ [rest[n]] :=
        List.take_succ_eq_append_getElem hn
      rw [hlast, depthAfter_append] at hend
      have hstep := step_of_depthAfter_ne_zero (c := rest[n])
        (q := openAfter none (rest.take n)) (by have hn := hdeep n (Nat.le_refl n); omega)
      rw [List.take_succ_cons, hlast]
      exact (openAfter_append none ('(' :: rest.take n) [rest[n]]).trans hstep
  · refine .inr ⟨fun last h => ?_, ?_⟩
    · obtain ⟨n, rfl⟩ := Nat.exists_eq_add_of_le h.first_le
      have hlength := h.lt_length
      rw [List.length_append] at hlength
      obtain ⟨hzero, -, -⟩ := (closesAt_append_iff hbefore (Nat.lt_of_add_lt_add_left hlength)).1 h
      rw [hbehind] at hzero
      exact absurd hzero (Int.ne_of_gt (hdeep n))
    · rw [hnone, openAfter_append, hbefore]
      rfl

/-- A scan from the first significant opening parenthesis on yields what a scan of the whole text
yields from there on. The parenthesis is closed at the least position at which the parentheses from
it on are balanced, those before are not, and no region is cut. It is not closed exactly if there is
no such position and the text does not end inside of a region; where it does, the search fails for
its quote. -/
theorem parenthesis_is_closed_where_depth_returns {t : Text} {o : ℕ}
    (ho : find t '(' = .ok (some o)) :
    positionsFrom none o (t.drop o) = (positionsFrom none 0 t).filter (o ≤ ·.1) ∧
    positions t o = List.filter (o ≤ ·.1) <$> positions t 0 ∧
    (∀ c, findClose t o = .ok (some c) ↔ IsLeast {last | ClosesAt t o last} c) ∧
    (findClose t o = .ok none ↔ (¬∃ last, ClosesAt t o last) ∧ ∀ k, ¬EndsInside k t) ∧
    ∀ k, findClose t o = .error (.grammar (.unterminatedQuote k t) none) ↔
      (¬∃ last, ClosesAt t o last) ∧ EndsInside k t := by
  obtain ⟨before, rest, rfl, ho, hbefore, -⟩ := exists_of_findFrom_eq_some ho
  obtain rfl : o = before.length := by rw [ho, Nat.zero_add]
  refine ⟨by rw [List.drop_left, positionsFrom_drop hbefore], positions_drop hbefore, ?_⟩
  simp only [← openAfter_eq_some_iff]
  rcases findClose_cases hbefore with ⟨last, hlast, hfound⟩ | ⟨hnone, hend⟩
  · rw [hfound]
    refine ⟨fun c => ?_, iff_of_false nofun fun h => h.1 ⟨last, hlast⟩,
      fun k => iff_of_false nofun fun h => h.1 ⟨last, hlast⟩⟩
    constructor
    · intro hc
      obtain rfl : last = c := Option.some.inj (Except.ok.inj hc)
      exact ⟨hlast, fun other hother => hlast.le hother⟩
    · intro hc
      rw [Nat.le_antisymm (hlast.le hc.1) (hc.2 hlast)]
  · rw [hend]
    have hnone : ¬∃ last, ClosesAt (before ++ '(' :: rest) before.length last :=
      not_exists.2 hnone
    cases openAfter none (before ++ '(' :: rest) with
    | none =>
      refine ⟨fun c => iff_of_false nofun fun h => hnone ⟨c, h.1⟩,
        iff_of_true rfl ⟨hnone, nofun⟩, fun k => iff_of_false nofun fun h => ?_⟩
      cases h.2
    | some q =>
      refine ⟨fun c => iff_of_false nofun fun h => hnone ⟨c, h.1⟩,
        iff_of_false nofun fun h => h.2 q rfl, fun k => ?_⟩
      have hfault : (do
          checkClosed (before ++ '(' :: rest) (some q)
          return (none : Option ℕ)) =
            .error (.grammar (.unterminatedQuote k (before ++ '(' :: rest)) none) ↔ q = k := by
        simp [checkClosed, bind, Except.bind]
      rw [hfault, Option.some.injEq, and_iff_right hnone]

/-- A parenthesis in quotes closes nothing, and the quote that is open at the end of the text is met
only where the search for it reads on. -/
theorem quoted_parenthesis_closes_nothing :
    find "x(a')'(b))'" '(' = .ok (some 1) ∧
      IsLeast {last | ClosesAt "x(a')'(b))'" 1 last} 9 ∧
      EndsInside '\'' "x(a')'(b))'" := by
  have ho : find "x(a')'(b))'" '(' = .ok (some 1) := rfl
  obtain ⟨-, -, hleast, -, -⟩ := parenthesis_is_closed_where_depth_returns ho
  exact ⟨ho, (hleast 9).1 rfl, openAfter_eq_some_iff.1 rfl⟩

end TypedTemplate.Quotes
