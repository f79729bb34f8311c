import TypedTemplate.Pattern.Basic
import TypedTemplate.Pattern.Ways

/-!
# Matches

A pattern means, at a position of a text, the positions at which a match can end, in the
order of preference. A position knows the text on both of its sides and what the groups
have matched so far. A text satisfies a pattern when a match begins somewhere in it.
-/
namespace TypedTemplate

/-- A position in a text, and where groups were opened and closed, the latest first. -/
structure Position where
  /-- The number of characters before the position. -/
  offset : Nat
  /-- The characters before the position, the nearest first. -/
  before : Text
  rest : Text
  opened : List (Nat × Nat)
  closed : List (Nat × Nat)
  deriving DecidableEq, Repr

namespace Position

def start (t : Text) : Position := ⟨0, [], t, [], []⟩

def next? (p : Position) : Option Position :=
  match p.rest with
  | [] => none
  | c :: rest => some { p with offset := p.offset + 1, before := c :: p.before, rest := rest }

def back? : Nat → Position → Option Position
  | 0, p => some p
  | n + 1, p =>
    match p.before with
    | [] => none
    | c :: before =>
      back? n { p with offset := p.offset - 1, before := before, rest := c :: p.rest }

/-- The same place with what the groups have matched at another. -/
def withGroupsOf (p q : Position) : Position := { p with opened := q.opened, closed := q.closed }

def opening (number : Nat) (p : Position) : Position :=
  { p with opened := (number, p.offset) :: p.opened }

def closing (number : Nat) (p : Position) : Position :=
  { p with closed := (number, p.offset) :: p.closed }

/-- The text of a group. A group that was opened again has none until it is closed, except
when it is opened where it was closed. -/
def group? (number : Nat) (p : Position) : Option Text :=
  match p.opened.lookup number, p.closed.lookup number with
  | some first, some last =>
    if first ≤ last then some (((p.before.reverse ++ p.rest).drop first).take (last - first))
    else none
  | _, _ => none

def past? (letterCase : LetterCase) : Text → Position → Option Position
  | [], p => some p
  | c :: t, p =>
    match p.rest with
    | d :: _ =>
      if letterCase.lower c.toNat == letterCase.lower d.toNat then p.next?.bind (past? letterCase t)
      else none
    | [] => none

end Position

/-- Whether a position is at an edge. -/
def Edge.holds (p : Position) : Edge → Bool
  | .first ofLines => p.before.isEmpty || (ofLines && p.before.head? == some '\n')
  | .last ofLines => p.rest.isEmpty || p.rest == ['\n'] || (ofLines && p.rest.head? == some '\n')
  | .textEnd => p.rest.isEmpty
  | .word ascii negated =>
    let isWord := CharClass.isWord ascii
    (p.before.head?.any isWord != p.rest.head?.any isWord) != negated
      && !(p.before.isEmpty && p.rest.isEmpty)

namespace Pattern

/-- The position after the next character, if that satisfies a test. -/
def take (test : Char → Bool) (p : Position) : Ways Position :=
  match p.rest.head?, p.next? with
  | some c, some q => if test c then .one q else .none
  | _, _ => .none

def times (step : Position → Ways Position) : Nat → Position → Ways Position
  | 0, p => .one p
  | n + 1, p => (step p).bind (times step n)

/-- The positions reached by any number of steps up to a greatest one. After a step that
leads nowhere there is no further one. The last two arguments are where the last step
began and the position itself; the first bounds the steps. -/
def many (step : Position → Ways Position) (few : Bool) :
    Nat → Option Nat → Option Nat → Position → Ways Position
  | 0, _, _, p => .one p
  | fuel + 1, greatest, last, p =>
    if greatest == some 0 || last == some p.offset then .one p
    else
      let onward (_ : Unit) : Ways Position :=
        (step p).bind (many step few fuel (greatest.map (· - 1)) (some p.offset))
      if few then .or (.one p) onward else .or (onward ()) fun _ => .one p

def timesSettled (step : Position → Option Position) : Nat → Position → Option Position
  | 0, p => some p
  | n + 1, p => (step p).bind (timesSettled step n)

/-- The position after as many preferred steps as can be, with the bounds of `many`. -/
def manySettled (step : Position → Option Position) :
    Nat → Option Nat → Option Nat → Position → Position
  | 0, _, _, p => p
  | fuel + 1, greatest, last, p =>
    if greatest == some 0 || last == some p.offset then p
    else
      match step p with
      | none => p
      | some q => manySettled step fuel (greatest.map (· - 1)) (some p.offset) q

/-- How many steps can lead on from a position, and one more that leads nowhere. -/
def stepBound (p : Position) : Nat := p.rest.length + 2

def ways : Pattern → Position → Ways Position
  | .empty, p => .one p
  | .character letterCase negated code, p =>
    take (fun c => letterCase.areSame code c.toNat != negated) p
  | .oneOf letterCase negated classes, p =>
    take (fun c => classes.any (·.holds letterCase c) != negated) p
  | .any breaks, p => take (fun c => breaks || c != '\n') p
  | .edge e, p => if e.holds p then .one p else .none
  | .sequence a b, p => (ways a p).bind (ways b)
  | .either a b, p => .or (ways a p) fun _ => ways b p
  | .repeated a least greatest few, p =>
    (times (ways a) least p).bind fun q =>
      many (ways a) few (stepBound q) (greatest.map (· - least)) none q
  | .possessive a least greatest, p =>
    .ofOption ((timesSettled (fun q => (ways a q).first?) least p).map fun q =>
      manySettled (fun q => (ways a q).first?) (stepBound q) (greatest.map (· - least)) none q)
  | .settled a, p => .ofOption (ways a p).first?
  | .ahead negated a, p =>
    match (ways a p).first? with
    | some q => if negated then .none else .one (p.withGroupsOf q)
    | none => if negated then .one p else .none
  | .behind negated width a, p =>
    match (p.back? width).bind fun q => (ways a q).first? with
    | some q => if negated then .none else .one (p.withGroupsOf q)
    | none => if negated then .one p else .none
  | .group number a, p => (ways a (p.opening number)).bind fun q => .one (q.closing number)
  | .reference letterCase number, p =>
    .ofOption ((p.group? number).bind fun t => p.past? letterCase t)
  | .condition number a b, p => if (p.group? number).isSome then ways a p else ways b p

/-- Whether a match begins at a position or after it. The number bounds the positions. -/
def foundFrom (pattern : Pattern) : Nat → Position → Bool
  | 0, _ => false
  | fuel + 1, p =>
    (ways pattern p).first?.isSome ||
      match p.next? with
      | none => false
      | some q => foundFrom pattern fuel q

/-- Whether a match occurs in a text. -/
def found (pattern : Pattern) (t : Text) : Bool :=
  foundFrom pattern (t.length + 1) (.start t)

end Pattern
end TypedTemplate
