import TypedTemplate.Markup.Builder
import TypedTemplate.Render
import TypedTemplate.Schema.Compile
import TypedTemplate.Schema.Validate

/-!
# Templates

What the library offers: a template is read from markup once; from its tree come
the schema of the data it needs and, for given data, the document.
-/
namespace TypedTemplate.Template

/-- Reads a template. -/
def read (markup : Text) : Except Fault Node := Node.ofMarkup markup

/-- The schema of the data that a template needs. -/
def schema (markup : Text) : Except Fault Value := do
  Compile.schema none (← read markup)

/-- The document type that a complete document begins with. -/
def docType : Text := "<!doctype html>"

/-- The complete document of a template and its data. -/
def render (markup : Text) (data : Value) : Except Fault Text := do
  return docType ++ (← Render.template none (← read markup) data)

/-- Holds data against the schema of a template. -/
def validate (data schema : Value) : Except Fault Unit := Validate.data data schema

end TypedTemplate.Template
