import TypedTemplate.Expression.Segments
import TypedTemplate.Markup.Allowed

/-!
# Template trees

A template is a tree of elements and texts. The head of an element holds its tag,
its attributes and the directives that the attributes state; a text holds its
segments.
-/
namespace TypedTemplate

structure Head where
  tag : Text
  attributes : Attributes
  iteration : Option Iteration
  condition : Option Text
  deriving DecidableEq, Repr

namespace Head

/-- The head of an element whose directives are read from its attributes. -/
def ofAttributes (tag : Text) (attributes : Attributes) : Except Fault Head :=
  match Directive.readAll attributes with
  | .ok (iteration, condition) => .ok { tag, attributes, iteration, condition }
  | .error .rowCountUnreadable => .error .elementUnreadable
  | .error fault => .error fault

/-- The value of an attribute, empty when it is absent. -/
def valueOf (h : Head) (name : Text) : Text := (Keyed.get? name h.attributes).getD []

def isVoid (h : Head) : Bool := Allowed.voidTags.contains h.tag

end Head

inductive Node where
  | element (head : Head) (children : List Node)
  | text (segments : List Segment)
  deriving Repr

namespace Node

mutual

/-- The heads of an element and of the elements in it, in document order. -/
def heads : Node → List Head
  | .element head children => head :: headsOfList children
  | .text _ => []

def headsOfList : List Node → List Head
  | [] => []
  | n :: rest => heads n ++ headsOfList rest

end

mutual

def decEq : (a b : Node) → Decidable (a = b)
  | .element h xs, .element k ys =>
    if hk : h = k then
      match decEqList xs ys with
      | isTrue e => isTrue (hk ▸ e ▸ rfl)
      | isFalse e => isFalse (by simp [e])
    else isFalse (by simp [hk])
  | .text s, .text t => if h : s = t then isTrue (h ▸ rfl) else isFalse (by simpa using h)
  | .element .., .text _ => isFalse nofun
  | .text _, .element .. => isFalse nofun

def decEqList : (xs ys : List Node) → Decidable (xs = ys)
  | [], [] => isTrue rfl
  | [], _ :: _ => isFalse nofun
  | _ :: _, [] => isFalse nofun
  | x :: xs, y :: ys => match decEq x y, decEqList xs ys with
    | isTrue h, isTrue h' => isTrue (h ▸ h' ▸ rfl)
    | isFalse h, _ => isFalse (by simp [h])
    | _, isFalse h => isFalse (by simp [h])

end

instance : DecidableEq Node := decEq

end Node
end TypedTemplate
