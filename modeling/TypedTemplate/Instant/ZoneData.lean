import TypedTemplate.Instant.Zone
import TypedTemplate.Text.Spans

/-!
# Reading time zones

A zone is read from its lines in the table of zones. Offsets are listed once and called by
capital letters, in order.
-/
namespace TypedTemplate.ZoneData

/-- The number of a decimal numeral with an optional minus sign. -/
def signedNumber : Text → Int
  | '-' :: digits => -(digits.foldl (fun n c => 10 * n + (c.toNat - 48)) 0 : Nat)
  | digits => (digits.foldl (fun n c => 10 * n + (c.toNat - 48)) 0 : Nat)

def offsetOf (offsets : List Int) (letter : Char) : Int :=
  offsets.getD (letter.toNat - 'A'.toNat) 0

/-- Reads `month.week.day/second`. -/
def readTurn (word : Text) : Turn :=
  let (day, second) := Text.cut '/' word
  let part (i : Nat) : Nat := (signedNumber ((Text.splitOn '.' day).getD i [])).toNat
  ⟨part 0, part 1, part 2, signedNumber (second.getD [])⟩

/-- Reads the letters of two offsets and the turns between them. -/
def readRule (offsets : List Int) (line : Text) : Option YearlyRule :=
  match Text.splitOn ' ' line with
  | [[standard], [summer], start, finish] =>
    some ⟨offsetOf offsets standard, offsetOf offsets summer, readTurn start, readTurn finish⟩
  | _ => none

/-- The seconds of a time that is written in quarters of an hour. -/
def unitLength : Nat := 900

def beginning : Int := -4294967296

/-- Reads changes one after the other: digits of the time since the last one, after a point
in single seconds, and the letter of the offset. -/
def readChanges (offsets : List Int) (last : Int) (unit digits : Nat) : Text → List Change
  | [] => []
  | c :: rest =>
    if c == '.' then readChanges offsets last 1 digits rest
    else
      match hexValue? c.toLower, c.isUpper with
      | some d, false => readChanges offsets last unit (16 * digits + d) rest
      | _, _ =>
        let time := last + (unit * digits : Nat)
        ⟨time, offsetOf offsets c⟩ :: readChanges offsets time unitLength 0 rest

/-- Whether a line lists names of zones. -/
def listsNames (line : Text) : Bool := line.head? == some '='

/-- What follows a sign at the beginning of one of some lines. -/
def lineAfter? (sign : Char) (lines : List Text) : Option Text :=
  lines.findSome? fun line => if line.head? = some sign then some line.tail else none

def ofLines (lines : List Text) : Zone :=
  let offsets := (Text.splitOn ' ' ((lineAfter? '@' lines).getD [])).map signedNumber
  let changes := lines.filter fun line => line.head? != some '@' && line.head? != some '~'
  { initial := offsets.headD 0
    changes := readChanges offsets beginning unitLength 0 changes.flatten
    yearly := (lineAfter? '~' lines).bind (readRule offsets) }

def find? (name : Text) : List String → Option Zone
  | [] => none
  | line :: rest =>
    let line := line.toList
    if listsNames line && (Text.splitOn ' ' line.tail).contains name then
      let lines := (rest.map String.toList).dropWhile listsNames
      some (ofLines (lines.takeWhile (!listsNames ·)))
    else find? name rest

/-- Whether a name is that of a folder with zones in it. -/
def isFolder (name : Text) (lines : List String) : Bool :=
  lines.any fun line =>
    let line := line.toList
    listsNames line && (Text.splitOn ' ' line.tail).any ((name ++ ['/']).isPrefixOf ·)

example : find? "B" ["=A", "@1 2", "=B C", "@0 3600", ".1Bc4A"] =
    some ⟨0, [⟨-4294967295, 3600⟩, ⟨-4294790895, 0⟩], none⟩ := by decide

end TypedTemplate.ZoneData
