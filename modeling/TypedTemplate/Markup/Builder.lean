import TypedTemplate.Markup.Node
import TypedTemplate.Markup.Token

/-!
# Building template trees

Tokens are taken one by one into a draft of the tree. The draft keeps the open
elements, innermost first, and how deep the reader is inside a dropped element;
nothing is kept from inside a dropped element. An end tag closes the nearest open
element of its name with everything in it, and is passed over when there is none.
Directives are read last, from the innermost elements outwards.
-/
namespace TypedTemplate

/-- A part of the tree whose directives have not been read. -/
inductive Draft where
  | element (tag : Text) (attributes : Attributes) (children : List Draft)
  | text (segments : List Segment)
  deriving Repr

/-- An open element with its children so far, the last one first. -/
structure OpenElement where
  tag : Text
  attributes : Attributes
  children : List Draft
  deriving Repr

namespace OpenElement

def add (child : Draft) (e : OpenElement) : OpenElement :=
  { e with children := child :: e.children }

def close (e : OpenElement) : Draft := .element e.tag e.attributes e.children.reverse

end OpenElement

/-- The state of the builder: the open elements, innermost first, the closed parts at
the top level, the last one first, and the depth inside a dropped element. -/
structure Builder where
  stack : List OpenElement
  top : List Draft
  ignored : Nat
  deriving Repr

namespace Builder

def empty : Builder := ⟨[], [], 0⟩

def add (child : Draft) (b : Builder) : Builder :=
  match b.stack with
  | [] => { b with top := child :: b.top }
  | e :: rest => { b with stack := e.add child :: rest }

/-- Closes elements up to and including the nearest of a name. The first argument is
the element that was closed before. -/
def closeThrough (tag : Text) (inner : Option Draft) :
    List OpenElement → List Draft → List OpenElement × List Draft
  | [], top => ([], inner.toList ++ top)
  | e :: rest, top =>
    let e := match inner with
      | some child => e.add child
      | none => e
    if e.tag = tag then
      match rest with
      | [] => ([], e.close :: top)
      | parent :: others => (parent.add e.close :: others, top)
    else closeThrough tag (some e.close) rest top

def finish (tag : Text) (b : Builder) : Builder :=
  if 0 < b.ignored then { b with ignored := b.ignored - 1 }
  else if b.stack.any (·.tag == tag) then
    let (stack, top) := closeThrough tag none b.stack b.top
    { b with stack, top }
  else b

def start (tag : Text) (given : List (Text × Option Text)) (selfClosing : Bool) (b : Builder) :
    Builder :=
  let isVoid := selfClosing || Allowed.voidTags.contains tag
  if 0 < b.ignored then if isVoid then b else { b with ignored := b.ignored + 1 }
  else if !Allowed.tags.contains tag then if isVoid then b else { b with ignored := 1 }
  else
    let attributes := Allowed.filterAttributes given
    let source := (Keyed.get? "src" attributes).getD []
    if tag = "img" ∧ !"data:".toList.isPrefixOf source then b
    else if isVoid then b.add (.element tag attributes [])
    else { b with stack := ⟨tag, attributes, []⟩ :: b.stack }

/-- Takes a text. Blank texts are dropped. -/
def text (t : Text) (b : Builder) : Except Fault Builder :=
  if 0 < b.ignored || t.isBlank then .ok b
  else do
    let segments ← Segment.readAll t
    return if segments.isEmpty then b else b.add (.text segments)

def take (b : Builder) : Token → Except Fault Builder
  | .text t => b.text t
  | .start name attributes selfClosing => .ok (b.start name attributes selfClosing)
  | .finish name => .ok (b.finish name)
  | .malformed => .error .malformedSection

def takeAll : Builder → List Token → Except Fault Builder
  | b, [] => .ok b
  | b, token :: rest => do (← b.take token).takeAll rest

/-- The parts at the top level, once every open element is closed. -/
def closeAll (inner : Option Draft) : List OpenElement → List Draft → List Draft
  | [], top => (inner.toList ++ top).reverse
  | e :: rest, top =>
    closeAll (some (match inner with
      | some child => (e.add child).close
      | none => e.close)) rest top

/-- The parts at the top level, in document order. -/
def parts (b : Builder) : List Draft := closeAll none b.stack b.top

end Builder

namespace Draft

mutual

/-- The tree of a draft, its directives read. Those of the children come first. -/
def toNode : Draft → Except Fault Node
  | .element tag attributes children => do
    let children ← toNodes children
    let head ← Head.ofAttributes tag attributes
    return .element head children
  | .text segments => .ok (.text segments)

def toNodes : List Draft → Except Fault (List Node)
  | [] => .ok []
  | d :: rest => do
    let first ← toNode d
    let others ← toNodes rest
    return first :: others

end

/-- Whether a part is an element of a given name. -/
def isElement (name : Text) : Draft → Bool
  | .element tag .. => tag == name
  | .text _ => false

/-- The document among the parts at the top level: the first `html` element, or one
that holds them all. -/
def document (parts : List Draft) : Draft :=
  (parts.find? (·.isElement "html")).getD (.element "html" [] parts)

end Draft

def Node.ofMarkup (markup : Text) : Except Fault Node := do
  let b ← Builder.empty.takeAll (Token.readAll markup)
  (Draft.document b.parts).toNode

end TypedTemplate
