import TypedTemplate.Text.Quoted
import TypedTemplate.Value.Basic

/-!
# Printed values

The form in which a whole value appears in text: lists in square brackets, objects
in braces with quoted keys, texts in quotes.
-/
namespace TypedTemplate.Value

mutual

def printed : Value → Text
  | .null => "None"
  | .bool b => if b then "True" else "False"
  | .number n => n.printed
  | .text t => Quoted.encode t
  | .list items => '[' :: Text.join ", " (printedItems items) ++ [']']
  | .object fields => '\x7b' :: Text.join ", " (printedFields fields) ++ ['\x7d']

def printedItems : List Value → List Text
  | [] => []
  | v :: rest => printed v :: printedItems rest

def printedFields : List (Text × Value) → List Text
  | [] => []
  | (k, v) :: rest => (Quoted.encode k ++ ": " ++ printed v) :: printedFields rest

end

example : printed (.list [.ofInt 1, .text "a", .null, .bool true]) =
    "[1, 'a', None, True]".toList := by decide
example : printed (.object [("a", .ofInt 1)]) = "\x7b'a': 1\x7d".toList := by decide

end TypedTemplate.Value
