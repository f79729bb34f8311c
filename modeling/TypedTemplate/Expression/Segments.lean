import TypedTemplate.Expression.Parser

/-!
# Segments of template text

Template text is cut at pairs of double braces. The leftmost pair is taken first,
its expression is as short as possible and stays on one line; braces that form no
such pair are ordinary text.
-/
namespace TypedTemplate.Segment

/-- The expression before the nearest closing braces on the same line, and the text
after them. -/
def untilClose? : Text → Option (Text × Text)
  | [] => none
  | '\x7d' :: '\x7d' :: rest => some ([], rest)
  | c :: rest =>
    if c == '\n' then none
    else (untilClose? rest).map fun (body, tail) => (c :: body, tail)

/-- The expression of a pair of braces that a text begins with, and what follows. -/
def bodyAt? : Text → Option (Text × Text)
  | '\x7b' :: '\x7b' :: rest => untilClose? rest
  | _ => none

/-- The text before the leftmost pair of braces, its expression, and what follows. -/
def firstBody? : Text → Option (Text × Text × Text)
  | [] => none
  | c :: rest =>
    match bodyAt? (c :: rest) with
    | some (body, tail) => some ([], body, tail)
    | none => (firstBody? rest).map fun (before, body, tail) => (c :: before, body, tail)

/-- A literal segment, unless the text is empty. -/
def literals (t : Text) : List Segment := if t.isEmpty then [] else [.literal t]

/-- The segments of a text. The number bounds how many interpolations are read. -/
def readFrom : Nat → Text → Except Fault (List Segment)
  | 0, t => .ok (literals t)
  | fuel + 1, t =>
    match firstBody? t with
    | none => .ok (literals t)
    | some (before, body, tail) => do
      let i ← Expression.read body
      let others ← readFrom fuel tail
      return literals before ++ .interpolation i :: others

def readAll (t : Text) : Except Fault (List Segment) := readFrom t.length t

theorem untilClose?_eq_some {t body tail : Text} (h : untilClose? t = some (body, tail)) :
    t = body ++ '\x7d' :: '\x7d' :: tail := by
  fun_induction untilClose? t generalizing body tail with
  | case1 => simp at h
  | case2 rest =>
    simp only [Option.some.injEq, Prod.mk.injEq] at h
    obtain ⟨rfl, rfl⟩ := h
    rfl
  | case3 => simp at h
  | case4 c rest _ _ ih =>
    obtain ⟨⟨b, u⟩, hu, he⟩ := Option.map_eq_some_iff.1 h
    simp only [Prod.mk.injEq] at he
    obtain ⟨rfl, rfl⟩ := he
    simp [ih hu]

example : firstBody? "a\x7b\x7bb\x7d\x7dc" = some ("a".toList, "b".toList, "c".toList) := by
  decide
example : firstBody? "\x7b\x7ba\n\x7d\x7d" = none := by decide

end TypedTemplate.Segment
