import TypedTemplate.Fault
import TypedTemplate.Text.Class

/-!
# Paths

Templates name data by identifiers joined with dots. Paths of the schema may carry
an array marker on a component, as in `contracts[].items[]`. Two names exist only
while rows are rendered and have no place in the schema.
-/
namespace TypedTemplate.Path

def isIdentifierStart (c : Char) : Bool := isAsciiLetter c || c == '_' || c == '$'

def isIdentifierChar (c : Char) : Bool := isIdentifierStart c || isAsciiDigit c

/-- A letter, underscore or dollar sign, then any of these and digits. -/
def isIdentifier : Text → Bool
  | [] => false
  | c :: rest => isIdentifierStart c && rest.all isIdentifierChar

/-- Identifiers joined with single dots. -/
def isChain (t : Text) : Bool := (Text.splitOn '.' t).all isIdentifier

/-- The text without one line break at its end, if it has one there. -/
def dropFinalBreak (t : Text) : Text := if t.getLast? = some '\n' then t.dropLast else t

/-- Whether a text is accepted as a path. A single line break may follow it. -/
def isValid (t : Text) : Bool := isChain (dropFinalBreak t)

/-- The mark of an array on a component. -/
def arrayMarker : Text := "[]"

/-- The names that exist only while rows are rendered. -/
def implicitNames : List Text := ["$index", "$page"]

/-- The part before the first dot, and the part after it if there is a dot. -/
def split (path : Text) : Text × Option Text := Text.cut '.' path

/-- The part before the first dot. -/
def root (path : Text) : Text := (split path).1

/-- The components between dots, empty ones left out. -/
def components (path : Text) : List Text := (Text.splitOn '.' path).filter (! ·.isEmpty)

/-- The name of a component, and whether it carries an array marker. -/
def splitMarker (part : Text) : Text × Bool :=
  if arrayMarker.isSuffixOf part then (part.take (part.length - 2), true) else (part, false)

/-- Whether a path begins with a name that exists only while rows are rendered. -/
def isImplicit (path : Text) : Bool := implicitNames.contains (root path)

/-- Checks a path as it is written in a template; the role names it in faults. -/
def check (path role : Text) : Except Fault Unit :=
  if path.isEmpty then .error (.grammar (.emptyPath role) none)
  else if path.trim != path then .error (.grammar (.surroundedPath role) (some path))
  else if !isValid path then .error (.grammar (.malformedPath role) (some path))
  else .ok ()

example : isValid "a.b\n" = true := by decide
example : isValid "a..b" = false := by decide
example : splitMarker "rows[][]" = ("rows[]".toList, true) := by decide

end TypedTemplate.Path
