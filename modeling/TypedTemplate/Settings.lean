import TypedTemplate.Instant.ZoneName
import TypedTemplate.Markup.Node
import TypedTemplate.Text.Case
import TypedTemplate.Value.Basic

/-!
# Settings

A template is compiled and rendered under two settings: the zone in which instants
are shown, and the delimiter of example lists. They are given by the caller, or
declared by meta elements of the template; the last declaration of a setting wins.
-/
namespace TypedTemplate

structure Settings where
  timezone : Text
  examplesDelimiter : Text
  deriving DecidableEq, Repr

namespace Settings

def defaults : Settings := ⟨"UTC", ";"⟩

def afterLastColon (t : Text) : Text := (t.reverse.takeWhile (· != ':')).reverse

/-- Parts words where a small letter or digit meets a capital, and before the last
capital of several that a small letter follows. -/
def partWords : Text → Text
  | [] => []
  | a :: rest =>
    let isSmall (c : Char) : Bool := 'a' ≤ c && c ≤ 'z'
    let isCapital (c : Char) : Bool := 'A' ≤ c && c ≤ 'Z'
    let parted :=
      match rest with
      | b :: more =>
        isCapital b && (isSmall a || isDecimal a || (isCapital a && more.head?.any isSmall))
      | [] => false
    if parted then a :: '_' :: partWords rest else a :: partWords rest

/-- The name of the field that a meta name sets: its last part in small letters, the
words parted by underscores. -/
def fieldName (metaName : Text) : Text :=
  Text.lower ((partWords (afterLastColon metaName)).map fun c => if c == '-' then '_' else c)

def metaNames : List Text := ["timezone", "semantic:examples-delimiter"]

/-- The settings declared so far, each with the meta name that declared it. -/
structure Declared where
  timezone : Option (Text × Text)
  examplesDelimiter : Option (Text × Text)

/-- Takes the declaration of one element, if it is one. -/
def Declared.take (d : Declared) (head : Head) : Declared :=
  let name := (head.valueOf "name").trim
  let content := (head.valueOf "content").trim
  if head.tag = "meta" ∧ metaNames.contains name ∧ ¬content.isEmpty then
    if fieldName name = "timezone" then { d with timezone := some (name, content) }
    else { d with examplesDelimiter := some (name, content) }
  else d

/-- The settings that are declared by elements, in document order. -/
def ofHeads (heads : List Head) : Except Fault Settings := do
  let declared := heads.foldl Declared.take ⟨none, none⟩
  let (zoneName, zone) := declared.timezone.getD ("timezone", defaults.timezone)
  let (delimiterName, delimiter) :=
    declared.examplesDelimiter.getD ("examples_delimiter", defaults.examplesDelimiter)
  unless ← ZoneName.isKnown zone do
    throw (.declaredSetting zoneName zone .timezone)
  if delimiter.isEmpty then
    throw (.declaredSetting delimiterName delimiter .examplesDelimiter)
  return ⟨zone, delimiter⟩

def ofTemplate (root : Node) : Except Fault Settings := ofHeads root.heads

/-- The text that a caller gives for a setting, if something is given. -/
def givenText (given : Value) (name : Text) (setting : Setting) (default : Text) :
    Except Fault Text :=
  match given.field? name with
  | none => .ok default
  | some (.text t) => .ok t
  | some _ => .error (.givenSetting setting)

/-- The settings that a caller gives as the fields of an object; what is not given has
its default. -/
def ofGiven (given : Value) : Except Fault Settings := do
  let zone ← givenText given "timezone" .timezone defaults.timezone
  unless ← ZoneName.isKnown zone do
    throw (.givenSetting .timezone)
  let delimiter ←
    givenText given "examples_delimiter" .examplesDelimiter defaults.examplesDelimiter
  if delimiter.isEmpty then
    throw (.givenSetting .examplesDelimiter)
  return ⟨zone, delimiter⟩

/-- The settings in force: those given, else those that the template declares. -/
def inForce (given : Option Settings) (root : Node) : Except Fault Settings :=
  match given with
  | some s => .ok s
  | none => ofTemplate root

example : fieldName "semantic:examples-delimiter" = "examples_delimiter".toList := by decide
example : fieldName "x:HTTPServer" = "http_server".toList := by decide

end Settings
end TypedTemplate
