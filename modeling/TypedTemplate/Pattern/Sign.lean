import TypedTemplate.Fault
import TypedTemplate.Pattern.Basic

/-!
# Signs of patterns

A pattern is written with signs: single characters, and characters after a backslash. This
module reads what needs no knowledge of the rest of a pattern: escaped characters, classes
in brackets and numbers of repetitions are written with signs.
-/
namespace TypedTemplate

inductive Sign where
  | plain (c : Char)
  | escaped (c : Char)
  /-- A backslash at the end. -/
  | dangling
  deriving DecidableEq, Repr

namespace Sign

def ofText : Text → List Sign
  | [] => []
  | '\\' :: c :: rest => .escaped c :: ofText rest
  | c :: rest => (if c == '\\' then .dangling else .plain c) :: ofText rest

def toText : Sign → Text
  | .plain c => [c]
  | .escaped c => ['\\', c]
  | .dangling => ['\\']

/-- The characters at the beginning that satisfy a test, up to a number of them, and what
follows. -/
def takePlain (test : Char → Bool) : Nat → List Sign → Text × List Sign
  | n + 1, .plain c :: rest =>
    if test c then
      let (taken, tail) := takePlain test n rest
      (c :: taken, tail)
    else ([], .plain c :: rest)
  | _, signs => ([], signs)

/-- The text before a character, and what follows that. -/
def cut? (c : Char) (signs : List Sign) : Option (Text × List Sign) :=
  match signs.span (· != .plain c) with
  | (before, _ :: after) => some (before.flatMap toText, after)
  | _ => none

def isOctal (c : Char) : Bool := '0' ≤ c && c ≤ '7'

def octalNumber (digits : Text) : Nat := digits.foldl (fun n c => 8 * n + (c.toNat - 48)) 0

def octalEnd : Nat := 0xFF

/-- The character that a number of hexadecimal digits name, and what follows them. -/
def hexCode? (count : Nat) (signs : List Sign) : Option (Nat × List Sign) :=
  let (digits, tail) := takePlain (hexValue? · |>.isSome) count signs
  if digits.length = count ∧ hexNumber digits ≤ 0x10FFFF then some (hexNumber digits, tail)
  else none

/-- The character for which one stands after a backslash, inside and outside of classes, and
what follows. Letters without a meaning cannot be escaped; other characters stand for
themselves. -/
def escapedCode? (c : Char) (rest : List Sign) : Option (Nat × List Sign) :=
  match c with
  | 'a' => some (7, rest)
  | 't' => some (9, rest)
  | 'n' => some (10, rest)
  | 'v' => some (11, rest)
  | 'f' => some (12, rest)
  | 'r' => some (13, rest)
  | 'x' => hexCode? 2 rest
  | 'u' => hexCode? 4 rest
  | 'U' => hexCode? 8 rest
  | c => if isAsciiLetter c || isAsciiDigit c then none else some (c.toNat, rest)

def classOfLetter? (ascii : Bool) : Char → Option CharClass
  | 'd' => some (.digit ascii false)
  | 'D' => some (.digit ascii true)
  | 'w' => some (.word ascii false)
  | 'W' => some (.word ascii true)
  | 's' => some (.blank ascii false)
  | 'S' => some (.blank ascii true)
  | _ => none

def edgeOfLetter? (ascii : Bool) : Char → Option Edge
  | 'A' => some (.first false)
  | 'Z' => some .textEnd
  | 'b' => some (.word ascii false)
  | 'B' => some (.word ascii true)
  | _ => none

/-- The member of a class that a sign begins, and what follows it. -/
def readMember? (ascii : Bool) (rest : List Sign) : Sign → Option (CharClass × List Sign)
  | .dangling => none
  | .plain c => some (.single c.toNat, rest)
  | .escaped c =>
    match classOfLetter? ascii c with
    | some k => some (k, rest)
    | none =>
      if c == 'b' then some (.single 8, rest)
      else if isOctal c then
        let (more, tail) := takePlain isOctal 2 rest
        let n := octalNumber (c :: more)
        if n ≤ octalEnd then some (.single n, tail) else none
      else (escapedCode? c rest).map fun (n, tail) => (.single n, tail)

def range? : CharClass → CharClass → Option CharClass
  | .single first, .single last => if first ≤ last then some (.range first last) else none
  | _, _ => none

/-- The members of a class up to its closing bracket, after those already read. A bracket
closes the class only after a member, and a hyphen before it stands for itself. The number
bounds the members. -/
def readMembers? (ascii : Bool) :
    Nat → List CharClass → List Sign → Option (List CharClass × List Sign)
  | 0, _, _ => none
  | _, _, [] => none
  | fuel + 1, members, sign :: rest =>
    if sign = .plain ']' ∧ members ≠ [] then some (members, rest)
    else
      match readMember? ascii rest sign with
      | none => none
      | some (first, .plain '-' :: .plain ']' :: tail) =>
        some (members ++ [first, .single '-'.toNat], tail)
      | some (first, .plain '-' :: last :: tail) => do
        let (last, tail) ← readMember? ascii tail last
        readMembers? ascii fuel (members ++ [← range? first last]) tail
      | some (first, tail) => readMembers? ascii fuel (members ++ [first]) tail

/-- A class after its opening bracket, and what follows it. A class that names one character
only is that character. -/
def readClass? (ascii : Bool) (letterCase : LetterCase) (signs : List Sign) :
    Option (Pattern × List Sign) := do
  let negated := signs.head? == some (.plain '^')
  let signs := if negated then signs.drop 1 else signs
  let (members, tail) ← readMembers? ascii (signs.length + 1) [] signs
  match members.eraseDups with
  | [.single n] => return (.character letterCase negated n, tail)
  | members => return (.oneOf letterCase negated members, tail)

def repetitionEnd : Nat := 0xFFFFFFFF

def readTimes (digits : Text) : Except Fault Nat :=
  let n := digits.foldl (fun n c => 10 * n + (c.toNat - 48)) 0
  if repetitionEnd ≤ n then .error .repetitionTooLarge
  else .ok n

/-- A number, if there is one, and what follows. -/
def takeNumber (signs : List Sign) : Text × List Sign :=
  takePlain isAsciiDigit signs.length signs

/-- The least and greatest numbers of repetitions in braces, if the brace before opens some,
and what follows. -/
def readBounds (signs : List Sign) :
    Except Fault (Option ((Nat × Option Nat) × List Sign)) := do
  let (least, rest) := takeNumber signs
  let (greatest, rest, hasComma) :=
    match rest with
    | .plain ',' :: rest =>
      let (greatest, rest) := takeNumber rest
      (greatest, rest, true)
    | rest => (least, rest, false)
  match rest with
  | .plain '\x7d' :: tail =>
    if least.isEmpty && !hasComma then return none
    if tail.head? == some .dangling then throw .invalidPattern
    let n ← if least.isEmpty then pure 0 else readTimes least
    let m ← if greatest.isEmpty then pure none else some <$> readTimes greatest
    if m.any (· < n) then throw .invalidPattern
    return some ((n, m), tail)
  | _ => return none

/-- The repetition that a sign begins, if it begins one, and what follows. -/
def readRepetition (sign : Sign) (rest : List Sign) :
    Except Fault (Option ((Nat × Option Nat) × List Sign)) :=
  match sign with
  | .plain '*' => .ok (some ((0, none), rest))
  | .plain '+' => .ok (some ((1, none), rest))
  | .plain '?' => .ok (some ((0, some 1), rest))
  | .plain '\x7b' => readBounds rest
  | _ => .ok none

end Sign
end TypedTemplate
