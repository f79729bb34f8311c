import TypedTemplate.Directive
import TypedTemplate.Style

/-!
# Allowed markup

Templates keep only known elements and attributes. Control attributes steer the
template and are never shown. Void elements have no content.
-/
namespace TypedTemplate.Allowed

def tags : List Text := [
  "html", "head", "body", "meta", "div", "section", "header", "footer", "main", "p", "span",
  "strong", "em", "small", "br", "hr", "table", "thead", "tbody", "tr", "th", "td", "colgroup",
  "ul", "ol", "li", "img"]

def voidTags : List Text := ["br", "hr", "img", "meta"]

def attributes : List Text := [
  "style", "class", "id", "lang", "dir", "src", "alt", "colspan", "rowspan", "name", "content"]

def controlAttributes : List Text := [
  "data-page", "data-repeat", "data-if", "data-format", "data-break-before",
  "data-break-after", "data-fixed-rows", "data-max-rows", "data-semantic-description",
  "data-semantic-instruction", "data-semantic-examples"]

/-- Keeps one attribute: unknown ones are dropped, and a style is reduced to its
allowed declarations and dropped when none is left. -/
def keepAttribute (kept : Attributes) (given : Text × Option Text) : Attributes :=
  let name := given.1
  let value := given.2.getD []
  if !attributes.contains name && !controlAttributes.contains name then kept
  else if name = "style" then
    let style := Style.sanitize value
    if style.isEmpty then kept else kept.set name style
  else kept.set name value

/-- The allowed attributes of a tag; a later one replaces an earlier one. -/
def filterAttributes (given : List (Text × Option Text)) : Attributes :=
  given.foldl keepAttribute []

end TypedTemplate.Allowed
