import TypedTemplate.Number.Decimal
import TypedTemplate.Pattern.Sign
import TypedTemplate.Text.Identifier
import TypedTemplate.Text.Keyed

/-!
# Reading patterns

A pattern is read from its signs in one go. Modes say how a part of it is read; those of the
whole pattern stand at its beginning, others around a part. Groups are numbered in the order
in which they are opened; a pattern refers only to groups that are closed before, while a
condition may also name one that comes later. What is looked for behind a position has to
have one length.
-/
namespace TypedTemplate

/-- How a part of a pattern is read. -/
structure Modes where
  ignoresCase : Bool
  /-- The edges of lines count as edges of the text. -/
  ofLines : Bool
  /-- The dot stands for line breaks too. -/
  dotTakesBreaks : Bool
  /-- Blanks and comments are no part of the pattern. -/
  isSpaced : Bool
  /-- The classes of ASCII are meant. -/
  ascii : Bool
  /-- The classes of every script are asked for, which are also meant otherwise. -/
  everyScript : Bool
  /-- Repetitions are refused. -/
  refusesRepetition : Bool
  deriving DecidableEq, Repr

namespace Modes

def plain : Modes := ⟨false, false, false, false, false, false, false⟩

def letterCase (m : Modes) : LetterCase :=
  if !m.ignoresCase then .kept else if m.ascii then .ignoredInAscii else .ignored

/-- The letters that name modes. The capital one cannot be used. -/
def letters : Text := "iLmsxatu"

/-- The modes with the one of a letter turned on or off. -/
def set (on : Bool) (m : Modes) : Char → Modes
  | 'i' => { m with ignoresCase := on }
  | 'm' => { m with ofLines := on }
  | 's' => { m with dotTakesBreaks := on }
  | 'x' => { m with isSpaced := on }
  | 'a' => { m with ascii := on }
  | 'u' => { m with everyScript := on }
  | 't' => { m with refusesRepetition := on }
  | _ => m

def within (m : Modes) (added removed : Text) : Modes :=
  let m := removed.foldl (set false) (added.foldl (set true) m)
  { m with ascii := m.ascii && !added.contains 'u' }

end Modes

/-- What is left to be read of a pattern, and what was found before. -/
structure Reading where
  signs : List Sign
  /-- The modes of the whole pattern. -/
  modes : Modes
  /-- The widths of the groups that were opened, in order; none while they are open. -/
  groups : List (Option Width)
  names : Keyed Nat
  /-- Inside of what is looked for behind, the number of groups opened before it. -/
  groupsBefore : Option Nat
  /-- The groups that conditions name by their numbers. -/
  asked : List Nat
  /-- Whether all that is looked for behind has one length. -/
  isSound : Bool
  hasRepetition : Bool

namespace Reading

def start (t : Text) : Reading := ⟨Sign.ofText t, .plain, [], [], none, [], true, false⟩

def widthOf (r : Reading) (number : Nat) : Width :=
  ((r.groups[number - 1]?).getD none).getD (.exactly 0)

def isClosed (r : Reading) (number : Nat) : Bool :=
  0 < number && ((r.groups[number - 1]?).getD none).isSome

/-- Opens a group, under a name if it has one. A name is given only once. -/
def openGroup (r : Reading) (name : Option Text) : Except Fault (Nat × Reading) :=
  let number := r.groups.length + 1
  let r := { r with groups := r.groups ++ [none] }
  match name with
  | none => .ok (number, r)
  | some name =>
    if Keyed.has name r.names then .error .invalidPattern
    else .ok (number, { r with names := Keyed.set name number r.names })

def closeGroup (r : Reading) (number : Nat) (p : Pattern) : Reading :=
  { r with groups := r.groups.set (number - 1) (some (p.width r.widthOf)) }

/-- Looking behind, only groups closed before that are referred to. -/
def checkBehind (r : Reading) (number : Nat) : Except Fault Unit :=
  match r.groupsBefore with
  | none => .ok ()
  | some n => if r.isClosed number && number ≤ n then .ok () else .error .invalidPattern

def referTo (r : Reading) (modes : Modes) (number : Nat) : Except Fault Pattern := do
  unless r.isClosed number do throw .invalidPattern
  r.checkBehind number
  return .reference modes.letterCase number

def takeName (r : Reading) (close : Char) (signs : List Sign) :
    Except Fault (Text × Reading) :=
  match Sign.cut? close signs with
  | none => .error .invalidPattern
  | some (name, rest) => .ok (name, { r with signs := rest })

def numberOf (r : Reading) (name : Text) : Except Fault Nat :=
  match Keyed.get? name r.names with
  | some number => .ok number
  | none => .error .invalidPattern

def close (r : Reading) : Except Fault Reading :=
  match r.signs with
  | .plain ')' :: rest => .ok { r with signs := rest }
  | _ => .error .invalidPattern

/-- The group that a condition asks for, by its name or number. -/
def askedGroup (r : Reading) (name : Text) : Except Fault (Nat × Reading) := do
  let (number, r) ←
    if name.isIdentifier then pure (← r.numberOf name, r)
    else
      match Decimal.whole? name with
      | some (.ofNat (n + 1)) => pure (n + 1, { r with asked := (n + 1) :: r.asked })
      | _ => throw .invalidPattern
  r.checkBehind number
  return (number, r)

end Reading

namespace Pattern

/-- Where in a pattern alternatives stand. -/
inductive Level where
  /-- At the beginning of the pattern. -/
  | first
  /-- After the first alternative of the pattern. -/
  | outer
  | inner
  deriving DecidableEq, Repr

/-- A part of a sequence, and whether it can be repeated. Edges and repetitions cannot. -/
structure Piece where
  pattern : Pattern
  isRepeatable : Bool

/-- The pieces of a sequence, the latest first, as one pattern. -/
def ofPieces (pieces : List Piece) : Pattern :=
  pieces.foldl (fun p piece => if p = .empty then piece.pattern else .sequence piece.pattern p)
    .empty

/-- What an escaped character that is no digit means outside of classes. -/
def readEscaped (modes : Modes) (c : Char) (r : Reading) : Except Fault (Piece × Reading) :=
  match Sign.edgeOfLetter? modes.ascii c, Sign.classOfLetter? modes.ascii c with
  | some e, _ => .ok (⟨.edge e, false⟩, r)
  | _, some k => .ok (⟨.oneOf modes.letterCase false [k], true⟩, r)
  | none, none =>
    match Sign.escapedCode? c r.signs with
    | some (n, tail) => .ok (⟨.character modes.letterCase false n, true⟩, { r with signs := tail })
    | none => .error .invalidPattern

/-- What an escaped digit means: a character by its octal number after a zero or with three
digits, otherwise a group. -/
def readNumbered (modes : Modes) (c : Char) (r : Reading) : Except Fault (Piece × Reading) := do
  let character (digits : Text) (tail : List Sign) : Piece × Reading :=
    let p := .character modes.letterCase false (Sign.octalNumber digits)
    (⟨p, true⟩, { r with signs := tail })
  if c == '0' then
    let (more, tail) := Sign.takePlain Sign.isOctal 2 r.signs
    return character (c :: more) tail
  else
    let (octal, afterOctal) := Sign.takePlain Sign.isOctal 2 r.signs
    if Sign.isOctal c && octal.length = 2 then
      if Sign.octalEnd < Sign.octalNumber (c :: octal) then throw .invalidPattern
      return character (c :: octal) afterOctal
    else
      let (more, tail) := Sign.takePlain isAsciiDigit 1 r.signs
      let number := (c :: more).foldl (fun n d => 10 * n + (d.toNat - 48)) 0
      return (⟨← r.referTo modes number, true⟩, { r with signs := tail })

def readPiece (modes : Modes) (sign : Sign) (r : Reading) : Except Fault (Piece × Reading) :=
  match sign with
  | .escaped c => if isAsciiDigit c then readNumbered modes c r else readEscaped modes c r
  | .plain '[' =>
    match Sign.readClass? modes.ascii modes.letterCase r.signs with
    | some (p, rest) => .ok (⟨p, true⟩, { r with signs := rest })
    | none => .error .invalidPattern
  | .plain '^' => .ok (⟨.edge (.first modes.ofLines), false⟩, r)
  | .plain '$' => .ok (⟨.edge (.last modes.ofLines), false⟩, r)
  | .plain '.' => .ok (⟨.any modes.dotTakesBreaks, true⟩, r)
  | .plain c => .ok (⟨.character modes.letterCase false c.toNat, true⟩, r)
  | .dangling => .error .invalidPattern

/-- A repetition of the last piece. A question mark after it prefers few, a plus sign the
most preferred way each time. -/
def repeatLast (bounds : Nat × Option Nat) (pieces : List Piece) (r : Reading) :
    Except Fault (List Piece × Reading) :=
  match pieces with
  | ⟨p, true⟩ :: others =>
    let (least, greatest) := bounds
    let (repetition, signs) : Pattern × List Sign :=
      match r.signs with
      | .plain '?' :: rest => (.repeated p least greatest true, rest)
      | .plain '+' :: rest => (.possessive p least greatest, rest)
      | rest => (.repeated p least greatest false, rest)
    .ok (⟨repetition, false⟩ :: others, { r with signs := signs, hasRepetition := true })
  | _ => .error .invalidPattern

def takeModes (signs : List Sign) : Text × List Sign :=
  Sign.takePlain Modes.letters.contains signs.length signs

/-- The modes that a group adds and removes, what follows the colon or parenthesis after them,
and whether it is a parenthesis. -/
def readModes? (signs : List Sign) : Option ((Text × Text) × Bool × List Sign) :=
  let (added, rest) := takeModes signs
  if added.contains 'L' || (added.contains 'a' && added.contains 'u') then none
  else
    match rest with
    | .plain ')' :: tail => if added.isEmpty then none else some ((added, []), true, tail)
    | .plain ':' :: tail =>
      if added.isEmpty || added.contains 't' then none else some ((added, []), false, tail)
    | .plain '-' :: rest =>
      match takeModes rest with
      | (removed, .plain ':' :: tail) =>
        if removed.isEmpty || removed.any (fun c => "Latu".toList.contains c || added.contains c)
            || added.contains 't' then none
        else some ((added, removed), false, tail)
      | _ => none
    | _ => none

/-- What a parenthesis opens: nothing that matches for a comment or the modes of the whole
pattern, which are the modes from there on. The first two arguments read alternatives and a
sequence inside. -/
def readGroup (alternatives sequence : Modes → Reading → Except Fault (Pattern × Reading))
    (atStart : Bool) (modes : Modes) (r : Reading) :
    Except Fault (Option Pattern × Modes × Reading) := do
  let inside (modes' : Modes) (rest : List Sign) : Except Fault (Pattern × Reading) := do
    let (p, r) ← alternatives modes' { r with signs := rest }
    return (p, ← r.close)
  let capture (name : Option Text) (r : Reading) :
      Except Fault (Option Pattern × Modes × Reading) := do
    let (number, r) ← r.openGroup name
    let (p, r) ← alternatives modes r
    let r ← r.close
    return (some (.group number p), modes, r.closeGroup number p)
  let behind (negated : Bool) (rest : List Sign) :
      Except Fault (Option Pattern × Modes × Reading) := do
    let before := r.groupsBefore.getD r.groups.length
    let (p, r') ← alternatives modes { r with signs := rest, groupsBefore := some before }
    let r' ← { r' with groupsBefore := r.groupsBefore }.close
    let width := (p.width r'.widthOf).single?
    return (some (.behind negated (width.getD 0) p), modes,
      { r' with isSound := r'.isSound && width.isSome })
  match r.signs with
  | .plain '?' :: .plain ':' :: rest => do
    let (p, r) ← inside modes rest
    return (some p, modes, r)
  | .plain '?' :: .plain '>' :: rest => do
    let (p, r) ← inside modes rest
    return (some (.settled p), modes, r)
  | .plain '?' :: .plain '=' :: rest => do
    let (p, r) ← inside modes rest
    return (some (.ahead false p), modes, r)
  | .plain '?' :: .plain '!' :: rest => do
    let (p, r) ← inside modes rest
    return (some (.ahead true p), modes, r)
  | .plain '?' :: .plain '<' :: .plain '=' :: rest => behind false rest
  | .plain '?' :: .plain '<' :: .plain '!' :: rest => behind true rest
  | .plain '?' :: .plain '#' :: rest => do
    let (_, r) ← r.takeName ')' rest
    return (none, modes, r)
  | .plain '?' :: .plain 'P' :: .plain '<' :: rest => do
    let (name, r) ← r.takeName '>' rest
    unless name.isIdentifier do throw .invalidPattern
    capture (some name) r
  | .plain '?' :: .plain 'P' :: .plain '=' :: rest => do
    let (name, r) ← r.takeName ')' rest
    return (some (← r.referTo modes (← r.numberOf name)), modes, r)
  | .plain '?' :: .plain '(' :: rest => do
    let (name, r) ← r.takeName ')' rest
    let (number, r) ← r.askedGroup name
    let (p, r) ← sequence modes r
    let (q, r) ←
      match r.signs with
      | .plain '|' :: rest => sequence modes { r with signs := rest }
      | _ => pure (.empty, r)
    return (some (.condition number p q), modes, ← r.close)
  | .plain '?' :: rest =>
    match readModes? rest with
    | none => throw .invalidPattern
    | some ((added, removed), false, rest) => do
      let (p, r) ← inside (modes.within added removed) rest
      return (some p, modes, r)
    | some ((added, _), true, rest) =>
      if atStart then
        let modes := added.foldl (Modes.set true) r.modes
        return (none, modes, { r with signs := rest, modes := modes })
      else throw .invalidPattern
  | _ => capture none r

/-- What follows the blanks or the comment that a sign begins, if it begins any. -/
def skip? (sign : Sign) (rest : List Sign) : Option (List Sign) :=
  match sign with
  | .plain '#' => some ((rest.dropWhile (· != .plain '\n')).drop 1)
  | .plain c => if CharClass.isSpace true c then some rest else none
  | _ => none

mutual

/-- Alternatives up to the end of a group. The number bounds the signs. -/
def readAlternatives : Nat → Level → Modes → Reading → Except Fault (Pattern × Reading)
  | 0, _, _, _ => .error .invalidPattern
  | fuel + 1, level, modes, r => do
    let (p, r) ← readSequence fuel level modes [] r
    match r.signs with
    | .plain '|' :: rest =>
      let r := { r with signs := rest }
      let (q, r) ←
        if level = .inner then readAlternatives fuel .inner modes r
        else readAlternatives fuel .outer r.modes r
      return (.either p q, r)
    | _ => return (p, r)

/-- A sequence up to the end of an alternative, after some pieces of it. -/
def readSequence :
    Nat → Level → Modes → List Piece → Reading → Except Fault (Pattern × Reading)
  | 0, _, _, _, _ => .error .invalidPattern
  | fuel + 1, level, modes, pieces, r =>
    match r.signs with
    | [] | .plain '|' :: _ | .plain ')' :: _ => .ok (ofPieces pieces, r)
    | sign :: rest => do
      let r := { r with signs := rest }
      match if modes.isSpaced then skip? sign rest else none with
      | some rest => readSequence fuel level modes pieces { r with signs := rest }
      | none =>
        match ← Sign.readRepetition sign rest with
        | some (bounds, rest) =>
          let (pieces, r) ← repeatLast bounds pieces { r with signs := rest }
          readSequence fuel level modes pieces r
        | none =>
          if sign = .plain '(' then
            let alternatives := readAlternatives fuel .inner
            let sequence (modes : Modes) := readSequence fuel .inner modes []
            let atStart := level = .first && pieces.isEmpty
            let (p, modes, r) ← readGroup alternatives sequence atStart modes r
            let added := p.toList.map fun p => ⟨p, true⟩
            readSequence fuel level modes (added ++ pieces) r
          else
            let (piece, r) ← readPiece modes sign r
            readSequence fuel level modes (piece :: pieces) r

end

/-- Reads a pattern. That modes conflict is found before a fault of the whole. -/
def read (t : Text) : Except Fault Pattern := do
  let (p, r) ← readAlternatives (2 * t.length + 2) .first .plain (.start t)
  if r.modes.ascii && r.modes.everyScript then throw .conflictingModes
  let isWhole := r.signs.isEmpty
  let areThere := r.asked.all (· ≤ r.groups.length)
  let isRefused := r.modes.refusesRepetition && r.hasRepetition
  if isWhole && areThere && r.isSound && !isRefused then return p else throw .invalidPattern

example : read "[" = .error .invalidPattern := rfl
example : read "a(?i)" = .error .invalidPattern := rfl

end Pattern
end TypedTemplate
