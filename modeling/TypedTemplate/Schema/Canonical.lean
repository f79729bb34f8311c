import TypedTemplate.Fault
import TypedTemplate.Value.Order

/-!
# Canonical form

The canonical form of a schema sorts the keys of every object and the entries of every
`required` list, and keeps all other lists as they are. Keys and names are sorted by
code point. Other entries are sorted as far as they have an order; a list without one
has no canonical form, and `canonicalize` keeps it as it is.
-/
namespace TypedTemplate.Canonical

/-- Inserts an entry before the first one that comes after it. -/
def insert {α : Type} (le : α → α → Bool) (x : α) : List α → List α
  | [] => [x]
  | y :: rest => if le x y then x :: y :: rest else y :: insert le x rest

/-- Sorts a list; equal entries keep their order. -/
def sort {α : Type} (le : α → α → Bool) : List α → List α
  | [] => []
  | x :: rest => insert le x (sort le rest)

def sortFields (fields : List (Text × Value)) : List (Text × Value) :=
  sort (fun a b => Text.le a.1 b.1) fields

/-- The names that a list consists of, if it consists of names. -/
def names? : List Value → Option (List Text)
  | [] => some []
  | .text name :: rest => (name :: ·) <$> names? rest
  | _ :: _ => none

/-- The entries of a `required` list in order, if they have one. -/
def sortRequired? (entries : List Value) : Option (List Value) :=
  match names? entries with
  | some names => some ((sort Text.le names).map .text)
  | none => Value.sort? entries

/-- The entries of a `required` list in order. -/
def sortRequired (entries : List Value) : List Value := (sortRequired? entries).getD entries

mutual

def canonicalize : Value → Value
  | .list items => .list (canonicalizeItems items)
  | .object fields => .object (sortFields (canonicalizeFields fields))
  | v => v

def canonicalizeItems : List Value → List Value
  | [] => []
  | v :: rest => canonicalize v :: canonicalizeItems rest

def canonicalizeFields : List (Text × Value) → List (Text × Value)
  | [] => []
  | (key, v) :: rest => (key, canonicalizeField key v) :: canonicalizeFields rest

def canonicalizeField (key : Text) : Value → Value
  | .list items =>
    .list (if key = "required" then sortRequired items else canonicalizeItems items)
  | .object fields => .object (sortFields (canonicalizeFields fields))
  | v => v

end

mutual

/-- Whether a value has a canonical form: every `required` list in it has an order. -/
def isOrdered : Value → Bool
  | .list items => areItemsOrdered items
  | .object fields => areFieldsOrdered fields
  | _ => true

def areItemsOrdered : List Value → Bool
  | [] => true
  | v :: rest => isOrdered v && areItemsOrdered rest

def areFieldsOrdered : List (Text × Value) → Bool
  | [] => true
  | (key, v) :: rest => isFieldOrdered key v && areFieldsOrdered rest

def isFieldOrdered (key : Text) : Value → Bool
  | .list items =>
    if key = "required" then (sortRequired? items).isSome else areItemsOrdered items
  | .object fields => areFieldsOrdered fields
  | _ => true

end

def ofValue (v : Value) : Except Fault Value :=
  if isOrdered v then .ok (canonicalize v) else .error .unordered

theorem names?_map_text (names : List Text) : names? (names.map .text) = some names := by
  induction names with
  | nil => rfl
  | cons name rest ih => simp [names?, ih]

theorem sortRequired_map_text (names : List Text) :
    sortRequired (names.map .text) = (sort Text.le names).map .text := by
  simp [sortRequired, sortRequired?, names?_map_text]

end TypedTemplate.Canonical
