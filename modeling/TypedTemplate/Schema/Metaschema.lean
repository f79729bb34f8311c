import TypedTemplate.Uri
import TypedTemplate.Value.Basic

/-!
# The schema of schemas

The dialect of the schemas here has a schema itself, which refers to one for each of its
vocabularies. Any schema can refer to them. Titles, comments and defaults, which say
nothing about data, are left out.
-/
namespace TypedTemplate.Metaschema

def identifier : Text := "https://json-schema.org/draft/2020-12/schema"

/-- The name of the dynamic anchor that all these schemas have. -/
def anchorName : Text := "meta"

def vocabularyIdentifier (name : Text) : Text := Uri.join identifier ("meta/" ++ name)

/-- What is a schema, as the dialect that is extended last says. -/
def anySchema : Value := .object [("$dynamicRef", .text ('#' :: anchorName))]

def referTo (target : Text) : Value := .object [("$ref", .text target)]

def ofType (type : Text) : Value := .object [("type", .text type)]

def tableOf (entry : Value) : Value :=
  .object [("type", .text "object"), ("additionalProperties", entry)]

/-- A schema with the anchor of these schemas, and what else it says. -/
def resource (identifier : Text) (rest : List (Text × Value)) : Value :=
  .object
    (("$schema", .text Metaschema.identifier) :: ("$id", .text identifier)
      :: ("$dynamicAnchor", .text anchorName) :: rest)

def objectOrBoolean : Text × Value := ("type", .list [.text "object", .text "boolean"])

/-- The schema of a vocabulary: what it says of its keywords, and the parts of that. -/
def vocabulary (name : Text) (keywords parts : List (Text × Value)) : Text × Value :=
  (vocabularyIdentifier name,
    resource (vocabularyIdentifier name)
      (objectOrBoolean :: ("properties", .object keywords)
        :: if parts.isEmpty then [] else [("$defs", .object parts)]))

/-- Identifiers, anchors and references. -/
def core : Text × Value :=
  vocabulary "core"
    [("$id", .object
      [("$ref", .text "#/$defs/uriReferenceString"), ("pattern", .text "^[^#]*#?$")]),
      ("$schema", referTo "#/$defs/uriString"),
      ("$ref", referTo "#/$defs/uriReferenceString"),
      ("$anchor", referTo "#/$defs/anchorString"),
      ("$dynamicRef", referTo "#/$defs/uriReferenceString"),
      ("$dynamicAnchor", referTo "#/$defs/anchorString"),
      ("$vocabulary", .object
        [("type", .text "object"), ("propertyNames", referTo "#/$defs/uriString"),
          ("additionalProperties", ofType "boolean")]),
      ("$comment", ofType "string"),
      ("$defs", tableOf anySchema)]
    [("anchorString", .object
      [("type", .text "string"), ("pattern", .text "^[A-Za-z_][-A-Za-z0-9._]*$")]),
      ("uriString", .object [("type", .text "string"), ("format", .text "uri")]),
      ("uriReferenceString", .object
        [("type", .text "string"), ("format", .text "uri-reference")])]

def applicator : Text × Value :=
  vocabulary "applicator"
    [("prefixItems", referTo "#/$defs/schemaArray"),
      ("items", anySchema), ("contains", anySchema), ("additionalProperties", anySchema),
      ("properties", tableOf anySchema),
      ("patternProperties", .object
        [("type", .text "object"), ("additionalProperties", anySchema),
          ("propertyNames", .object [("format", .text "regex")])]),
      ("dependentSchemas", tableOf anySchema),
      ("propertyNames", anySchema), ("if", anySchema), ("then", anySchema), ("else", anySchema),
      ("allOf", referTo "#/$defs/schemaArray"), ("anyOf", referTo "#/$defs/schemaArray"),
      ("oneOf", referTo "#/$defs/schemaArray"), ("not", anySchema)]
    [("schemaArray", .object
      [("type", .text "array"), ("minItems", .ofInt 1), ("items", anySchema)])]

def unevaluated : Text × Value :=
  vocabulary "unevaluated"
    [("unevaluatedItems", anySchema), ("unevaluatedProperties", anySchema)] []

def validation : Text × Value :=
  let count := referTo "#/$defs/nonNegativeInteger"
  let countFromZero := referTo "#/$defs/nonNegativeIntegerDefault0"
  vocabulary "validation"
    [("type", .object
      [("anyOf", .list
        [referTo "#/$defs/simpleTypes",
          .object
            [("type", .text "array"), ("items", referTo "#/$defs/simpleTypes"),
              ("minItems", .ofInt 1), ("uniqueItems", .bool true)]])]),
      ("const", .bool true),
      ("enum", .object [("type", .text "array"), ("items", .bool true)]),
      ("multipleOf", .object [("type", .text "number"), ("exclusiveMinimum", .ofInt 0)]),
      ("maximum", ofType "number"), ("exclusiveMaximum", ofType "number"),
      ("minimum", ofType "number"), ("exclusiveMinimum", ofType "number"),
      ("maxLength", count), ("minLength", countFromZero),
      ("pattern", .object [("type", .text "string"), ("format", .text "regex")]),
      ("maxItems", count), ("minItems", countFromZero), ("uniqueItems", ofType "boolean"),
      ("maxContains", count), ("minContains", count),
      ("maxProperties", count), ("minProperties", countFromZero),
      ("required", referTo "#/$defs/stringArray"),
      ("dependentRequired", tableOf (referTo "#/$defs/stringArray"))]
    [("nonNegativeInteger", .object [("type", .text "integer"), ("minimum", .ofInt 0)]),
      ("nonNegativeIntegerDefault0", count),
      ("simpleTypes", .object
        [("enum", .list
          [.text "array", .text "boolean", .text "integer", .text "null", .text "number",
            .text "object", .text "string"])]),
      ("stringArray", .object
        [("type", .text "array"), ("items", ofType "string"), ("uniqueItems", .bool true)])]

def metaData : Text × Value :=
  vocabulary "meta-data"
    [("title", ofType "string"), ("description", ofType "string"), ("default", .bool true),
      ("deprecated", ofType "boolean"), ("readOnly", ofType "boolean"),
      ("writeOnly", ofType "boolean"),
      ("examples", .object [("type", .text "array"), ("items", .bool true)])] []

def formatAnnotation : Text × Value :=
  vocabulary "format-annotation" [("format", ofType "string")] []

def content : Text × Value :=
  vocabulary "content"
    [("contentEncoding", ofType "string"), ("contentMediaType", ofType "string"),
      ("contentSchema", anySchema)] []

/-- The schema of schemas. It also speaks of keywords that the dialect no longer has. -/
def schema : Text × Value :=
  (identifier,
    resource identifier
      [("allOf", .list
        [referTo "meta/core", referTo "meta/applicator", referTo "meta/unevaluated",
          referTo "meta/validation", referTo "meta/meta-data", referTo "meta/format-annotation",
          referTo "meta/content"]),
        objectOrBoolean,
        ("properties", .object
          [("definitions", tableOf anySchema),
            ("dependencies", tableOf (.object
              [("anyOf", .list [anySchema, referTo "meta/validation#/$defs/stringArray"])])),
            ("$recursiveAnchor", referTo "meta/core#/$defs/anchorString"),
            ("$recursiveRef", referTo "meta/core#/$defs/uriReferenceString")])])

def resources : Keyed Value :=
  [schema, core, applicator, unevaluated, validation, metaData, formatAnnotation, content]

end TypedTemplate.Metaschema
