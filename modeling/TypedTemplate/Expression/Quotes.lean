import TypedTemplate.Fault
import TypedTemplate.Text.Class

/-!
# Quoted regions

Inside expressions a single or double quote opens a region that the next quote of
the same kind closes. Nothing inside a region is significant. Every scan keeps one
piece of state, the quote that is open, and a scan that has to read to the end
fails when a region is still open there.
-/
namespace TypedTemplate.Quotes

def isQuote (c : Char) : Bool := c == '"' || c == '\''

def step (q : Option Char) (c : Char) : Option Char :=
  match q with
  | some k => if c = k then none else some k
  | none => if isQuote c then some c else none

def openAfter (q : Option Char) (t : Text) : Option Char := t.foldl step q

/-- Whether a character stands outside regions and is no quote itself. -/
def significant (q : Option Char) (c : Char) : Bool := q.isNone && !isQuote c

/-- Fails when a quote is open at the end of the whole text. -/
def checkClosed (whole : Text) : Option Char → Except Fault Unit
  | some q => .error (.grammar (.unterminatedQuote q whole) none)
  | none => .ok ()

def positionsFrom (q : Option Char) (i : Nat) : Text → List (Nat × Char)
  | [] => []
  | c :: rest =>
    if significant q c then (i, c) :: positionsFrom (step q c) (i + 1) rest
    else positionsFrom (step q c) (i + 1) rest

/-- The significant characters from a starting position on. -/
def positions (t : Text) (start : Nat) : Except Fault (List (Nat × Char)) := do
  checkClosed t (openAfter none (t.drop start))
  return positionsFrom none start (t.drop start)

/-- Looks for a significant character, reading no further than needed. -/
def findFrom (whole : Text) (target : Char) (q : Option Char) (i : Nat) :
    Text → Except Fault (Option Nat)
  | [] => do
    checkClosed whole q
    return none
  | c :: rest =>
    if significant q c && c == target then .ok (some i)
    else findFrom whole target (step q c) (i + 1) rest

/-- The position of the first significant occurrence of a character. -/
def find (t : Text) (target : Char) : Except Fault (Option Nat) := findFrom t target none 0 t

/-- Looks for the parenthesis that brings the depth back to zero. -/
def findCloseFrom (whole : Text) (q : Option Char) (depth : Int) (i : Nat) :
    Text → Except Fault (Option Nat)
  | [] => do
    checkClosed whole q
    return none
  | c :: rest =>
    if significant q c && c == ')' && depth == 1 then .ok (some i)
    else
      let depth :=
        if significant q c && c == '(' then depth + 1
        else if significant q c && c == ')' then depth - 1
        else depth
      findCloseFrom whole (step q c) depth (i + 1) rest

/-- The position of the parenthesis that closes the one at a given position. -/
def findClose (t : Text) (start : Nat) : Except Fault (Option Nat) :=
  findCloseFrom t none 0 start (t.drop start)

/-- The last characters of a text, as many as a number says, and the whole text after
them. -/
def withTail (t : Text) (count : Nat) : Except Fault Text :=
  if t.length < count then .error .positionOutside
  else .ok (t.drop (t.length - count) ++ t)

/-- The significant characters from a starting position on. A negative position counts
from the end; the scan then runs over the last characters, which have negative
positions, and on over the whole text. -/
def positionsAt (t : Text) : Int → Except Fault (List (Int × Char))
  | .ofNat start => return (← positions t start).map fun (i, c) => (Int.ofNat i, c)
  | .negSucc n => do
    let scanned ← withTail t (n + 1)
    checkClosed t (openAfter none scanned)
    return (positionsFrom none 0 scanned).map fun (i, c) => (Int.ofNat i + Int.negSucc n, c)

/-- The position of the parenthesis that closes the one at a given position, which may
be negative. -/
def findCloseAt (t : Text) : Int → Except Fault (Option Int)
  | .ofNat start => return (← findClose t start).map Int.ofNat
  | .negSucc n => do
    let scanned ← withTail t (n + 1)
    return (← findCloseFrom t none 0 0 scanned).map (Int.ofNat · + Int.negSucc n)

/-- The pieces between significant characters at which a cut is made. Whether one is
made may depend on what follows the character. -/
def pieces (isCut : Char → Text → Bool) (q : Option Char) : Text → List Text
  | [] => [[]]
  | c :: rest =>
    if significant q c && isCut c rest then [] :: pieces isCut none rest
    else Text.consHead c (pieces isCut (step q c) rest)

/-- The pieces between significant delimiters; an empty text has none. -/
def split (isDelimiter : Char → Bool) (t : Text) : Except Fault (List Text) := do
  if t.isEmpty then
    return []
  checkClosed t (openAfter none t)
  return pieces (fun c _ => isDelimiter c) none t

/-- Whether a text begins, after blanks, with one of the keywords and a colon. -/
def startsEntry (keywords : List Text) (t : Text) : Bool :=
  keywords.any fun k => (k ++ [':']).isPrefixOf t.trimLeft

/-- The entries of a constraint list. A comma parts entries only where the next one
begins with a keyword and a colon, so that lists of choices stay whole. -/
def splitEntries (keywords : List Text) (t : Text) : Except Fault (List Text) := do
  checkClosed t (openAfter none t)
  let cut := pieces (fun c rest => c == ',' && startsEntry keywords rest) none t
  return (cut.map Text.trim).filter (! ·.isEmpty)

/-- The text inside one pair of equal quotes around it, if it has them. -/
def unquote : Text → Text
  | [] => []
  | c :: rest =>
    if isQuote c && rest.getLast? == some c then rest.dropLast else c :: rest

example : positions "a'b'c" 0 = .ok [(0, 'a'), (4, 'c')] := by rfl
example : positionsAt "a'b" (-3) = .ok [(-3, 'a'), (2, 'b')] := by rfl
example : positionsAt "ab" (-1) = .ok [(-1, 'b'), (0, 'a'), (1, 'b')] := by rfl
example : unquote "'a\"" = "'a\"".toList := by decide
example : split (· == ',') "a,'b,c'" = .ok ["a".toList, "'b,c'".toList] := by rfl

end TypedTemplate.Quotes
