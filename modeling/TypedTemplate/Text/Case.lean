import TypedTemplate.Text.CaseTable
import TypedTemplate.Text.Class

/-!
# Letter case

The full case mappings of Unicode: one character may become several, and the
lower case of a capital sigma depends on its place in the word. Two folds serve
the comparisons that ignore case in words of ASCII letters.
-/
namespace TypedTemplate

/-- The counterpart of a character outside ASCII, by the tables. -/
def mapByTable (runs : List CaseRun) (expansions : List (Nat × List Nat)) (c : Char) : Text :=
  match expansions.find? (·.1 == c.toNat) with
  | some (_, codes) => codes.map Char.ofNat
  | none =>
    match runs.findSome? (·.counterpart? c.toNat) with
    | some n => [Char.ofNat n]
    | none => [c]

def lowerChar (c : Char) : Text :=
  if c.toNat < 128 then [c.toLower]
  else mapByTable CaseTable.lowerRuns CaseTable.lowerExpansions c

def upperChar (c : Char) : Text :=
  if c.toNat < 128 then [c.toUpper]
  else mapByTable CaseTable.upperRuns CaseTable.upperExpansions c

def isCased (c : Char) : Bool :=
  if c.toNat < 128 then isAsciiLetter c else inSpans CaseTable.casedSpans c.toNat

/-- A character that is passed over when the neighbours of a sigma are examined. -/
def isCaseIgnorable (c : Char) : Bool :=
  if c.toNat < 128 then "'.:^`".toList.contains c
  else inSpans CaseTable.ignorableSpans c.toNat

/-- Whether the nearest character that is not ignorable is a cased letter. -/
def startsCased (t : Text) : Bool :=
  match t.dropWhile isCaseIgnorable with
  | [] => false
  | c :: _ => isCased c

namespace Text

/-- Lower case, with the characters already read in reverse order. A capital sigma
after a cased letter and before none takes its final form. -/
def lowerAfter (before : Text) : Text → Text
  | [] => []
  | c :: rest =>
    let here : Text :=
      if c == 'Σ' then if startsCased before && !startsCased rest then ['ς'] else ['σ']
      else lowerChar c
    here ++ lowerAfter (c :: before) rest

def lower (t : Text) : Text := lowerAfter [] t

def upper (t : Text) : Text := t.flatMap upperChar

end Text

/-- Whether a character is a given small ASCII letter when case is ignored. The
long s is an s, the dotted capital and the dotless small i are an i, and the
Kelvin sign is a k. -/
def isLetterIgnoringCase (letter c : Char) : Bool :=
  c == letter || c.toLower == letter
    || (letter == 's' && c == 'ſ')
    || (letter == 'i' && (c == 'İ' || c == 'ı'))
    || (letter == 'k' && c == '\u212a')

/-- Whether a character is an ASCII letter when case is ignored. -/
def isAnyLetterIgnoringCase (c : Char) : Bool :=
  isAsciiLetter c || c == 'ſ' || c == 'İ' || c == 'ı' || c == '\u212a'

/-- What follows a word of small ASCII letters at the beginning of a text, when
case is ignored. -/
def afterIgnoringCase? : Text → Text → Option Text
  | [], t => some t
  | _ :: _, [] => none
  | a :: as, c :: rest => if isLetterIgnoringCase a c then afterIgnoringCase? as rest else none

end TypedTemplate
