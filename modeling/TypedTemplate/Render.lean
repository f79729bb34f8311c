import TypedTemplate.Filter.Apply
import TypedTemplate.Markup.Reference
import TypedTemplate.Scope.Dynamic
import TypedTemplate.Settings

/-!
# Rendering

A template is rendered by walking its tree under a scope: iterations repeat their
element, conditions that are false leave it out, interpolations are looked up and
filtered, and every text is escaped. Meta elements are not shown. Between the pages
of an iteration stands a page break, unless the element states one itself.
-/
namespace TypedTemplate.Render

/-- The declaration of a page break after an element. -/
def pageBreakAfter : Text := "page-break-after:always"

/-- Whether an element states a page break after itself. -/
def hasBreakAfter (head : Head) : Bool :=
  !(head.valueOf "data-break-after").isEmpty
    || Text.occursIn "page-break-after" (Text.lower (head.valueOf "style"))

/-- The declarations of the style that is shown. -/
def styleParts (head : Head) (breakAfter : Bool) : List Text :=
  let stated (name lead : Text) : List Text :=
    let value := head.valueOf name
    if value.isEmpty then [] else [lead ++ value]
  stated "style" [] ++ stated "data-break-before" "page-break-before:"
    ++ stated "data-break-after" "page-break-after:"
    ++ if breakAfter then [pageBreakAfter] else []

/-- An attribute as it is written. -/
def writeAttribute (name value : Text) : Text :=
  name ++ "=\"" ++ Reference.escape value ++ "\""

/-- The attributes that are shown, the style last, each with a space before it. -/
def attributes (head : Head) (breakAfter : Bool) : Text :=
  let shown := head.attributes.filter fun (name, _) =>
    !Allowed.controlAttributes.contains name && name != "style".toList
  let style := styleParts head breakAfter
  let entries := shown.map (fun (name, value) => writeAttribute name value)
    ++ if style.isEmpty then [] else [writeAttribute "style" (Text.join "; " style)]
  entries.flatMap fun entry => ' ' :: entry

/-- A piece of text as it is shown. -/
def segment (zone : Text) (scope : DynamicScope) : Segment → Except Fault Text
  | .literal t => .ok (Reference.escape t)
  | .interpolation i => do
    let value ← Filter.applyAll ⟨some i.type, zone⟩ i.filters (scope.resolve i.path)
    return Reference.escape value.display

/-- The pieces of a text as they are shown. -/
def segments (zone : Text) (scope : DynamicScope) : List Segment → Except Fault Text
  | [] => .ok []
  | s :: rest => do
    let first ← segment zone scope s
    let others ← segments zone scope rest
    return first ++ others

/-- How many items of a list are taken. -/
def takenRows (iteration : Iteration) (items : List Value) : Nat :=
  match iteration.maxRows with
  | some n => min items.length n
  | none => items.length

/-- The items of the rows that are shown; rows beyond the items taken are empty
objects. -/
def rows (iteration : Iteration) (items : List Value) : List Value :=
  let taken := items.take (takenRows iteration items)
  taken ++ List.replicate (iteration.fixedRows.getD 0 - taken.length) (.object [])

/-- The rows of an iteration, each shown in a scope of its own. The number is that of
the first row. -/
def showRows (once : DynamicScope → Bool → Except Fault Text) (iteration : Iteration)
    (scope : DynamicScope) (injectBreak : Bool) (total : Nat) :
    Nat → List Value → Except Fault Text
  | _, [] => .ok []
  | index, item :: rest => do
    let inner ← scope.bind iteration.itemName item index total (iteration.kind == .page)
    let first ← once inner (injectBreak && index + 1 < total)
    let others ← showRows once iteration scope injectBreak total (index + 1) rest
    return first ++ others

/-- Whether an element is left out by its condition. -/
def isHidden (head : Head) (scope : DynamicScope) : Except Fault Bool :=
  match head.condition with
  | some path => (scope.resolve path).isFalsy
  | none => .ok false

/-- One showing of an element, given how its content is shown. -/
def showOnce (head : Head) (content : DynamicScope → Except Fault Text)
    (scope : DynamicScope) (breakAfter : Bool) : Except Fault Text := do
  let hidden ← isHidden head scope
  if hidden || head.tag = "meta" then
    return []
  let startTag := '<' :: head.tag ++ attributes head breakAfter ++ ['>']
  if head.isVoid then
    return startTag
  let body ← content scope
  return startTag ++ body ++ "</" ++ head.tag ++ ['>']

/-- An element with its iteration, given how its content is shown. -/
def showElement (head : Head) (content : DynamicScope → Except Fault Text)
    (scope : DynamicScope) : Except Fault Text :=
  match head.iteration with
  | none => showOnce head content scope false
  | some iteration =>
    match scope.resolve iteration.source with
    | .list items =>
      let all := rows iteration items
      let injectBreak := iteration.kind == .page && !hasBreakAfter head
      showRows (showOnce head content) iteration scope injectBreak all.length 0 all
    | _ => .ok []

mutual

/-- A part of a template as it is shown in a scope. -/
def node (zone : Text) : Node → DynamicScope → Except Fault Text
  | .text pieces, scope => segments zone scope pieces
  | .element head children, scope => showElement head (nodes zone children) scope

def nodes (zone : Text) : List Node → DynamicScope → Except Fault Text
  | [], _ => .ok []
  | n :: rest, scope => do
    let first ← node zone n scope
    let others ← nodes zone rest scope
    return first ++ others

end

/-- A template rendered with data, without a document type. -/
def template (given : Option Settings) (root : Node) (data : Value) : Except Fault Text := do
  let settings ← Settings.inForce given root
  node settings.timezone root (.ofData data)

end TypedTemplate.Render
