import TypedTemplate.Text.Case

/-!
# Style declarations

Styles keep only declarations of known properties whose values use no banned word,
no banned function and no relative unit. Each banned pattern is a test for an
occurrence somewhere in the value, and case is ignored.
-/
namespace TypedTemplate.Style

def allowedProperties : List Text := [
  "display", "width", "height", "margin", "margin-top", "margin-right", "margin-bottom",
  "margin-left", "padding", "padding-top", "padding-right", "padding-bottom", "padding-left",
  "box-sizing", "border", "border-collapse", "font-family", "font-size", "font-weight",
  "line-height", "text-align", "white-space", "letter-spacing", "color", "background-color",
  "page-break-before", "page-break-after", "page-break-inside"]

def bannedWords : List Text :=
  ["absolute", "fixed", "float", "flex", "grid", "animation", "transition", "transform", "filter"]

def bannedFunctions : List Text := ["calc", "var"]

def bannedUnits : List Text := ["em", "rem", "vh", "vw", "%", "ch"]

/-- Whether a test succeeds at some position, given the character before it. -/
def occurs (test : Option Char → Text → Bool) : Option Char → Text → Bool
  | before, [] => test before []
  | before, c :: rest => test before (c :: rest) || occurs test (some c) rest

def wordAt (word : Text) (before : Option Char) (t : Text) : Bool :=
  !before.any isWordChar &&
    match afterIgnoringCase? word t with
    | some rest => !rest.head?.any isWordChar
    | none => false

/-- A function name, blanks, and an opening parenthesis. -/
def callAt (name : Text) (_ : Option Char) (t : Text) : Bool :=
  match afterIgnoringCase? name t with
  | some rest => (Text.trimLeft rest).head? == some '('
  | none => false

def unitAt (t : Text) : Bool :=
  bannedUnits.any fun unit =>
    match afterIgnoringCase? unit t with
    | some rest => !rest.head?.any isAnyLetterIgnoringCase
    | none => false

/-- A digit, blanks, and a unit. -/
def measureAt (_ : Option Char) : Text → Bool
  | [] => false
  | c :: rest => isDecimal c && unitAt (Text.trimLeft rest)

/-- Whether a value contains something banned. -/
def isBanned (value : Text) : Bool :=
  bannedWords.any (fun w => occurs (wordAt w) none value)
    || bannedFunctions.any (fun f => occurs (callAt f) none value)
    || occurs measureAt none value

/-- A declaration in normal form, if it is one and is allowed. -/
def readDeclaration? (t : Text) : Option (Text × Text) :=
  match Text.cut ':' t with
  | (_, none) => none
  | (property, some value) =>
    let property := property.trim.lower
    let value := value.trim
    if allowedProperties.contains property && !isBanned value then some (property, value)
    else none

def writeDeclaration (d : Text × Text) : Text := d.1 ++ [':'] ++ d.2

/-- The allowed declarations of a style in normal form. -/
def sanitize (style : Text) : Text :=
  Text.join "; " (((Text.splitOn ';' style).filterMap readDeclaration?).map writeDeclaration)

example : sanitize "color: red; position: absolute" = "color:red".toList := by decide
example : sanitize "width: 50%; Font-Size: 10pt" = "font-size:10pt".toList := by decide

end TypedTemplate.Style
