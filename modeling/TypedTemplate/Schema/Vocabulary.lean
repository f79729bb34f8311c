import TypedTemplate.Text.Basic

/-!
# Vocabulary

The keywords by which a schema says something about data. Any other field of a schema
says nothing by itself.
-/
namespace TypedTemplate

inductive Keyword where
  | type | enum | const
  | minimum | maximum | exclusiveMinimum | exclusiveMaximum | multipleOf
  | minLength | maxLength | pattern | format
  | items | prefixItems | contains | minItems | maxItems | uniqueItems
  | properties | patternProperties | additionalProperties | propertyNames
  | required | minProperties | maxProperties | dependentRequired | dependentSchemas
  | allOf | anyOf | oneOf | negation | condition
  | reference | dynamicReference | unevaluatedItems | unevaluatedProperties
  deriving DecidableEq, Repr

namespace Keyword

def name : Keyword → Text
  | .type => "type"
  | .enum => "enum"
  | .const => "const"
  | .minimum => "minimum"
  | .maximum => "maximum"
  | .exclusiveMinimum => "exclusiveMinimum"
  | .exclusiveMaximum => "exclusiveMaximum"
  | .multipleOf => "multipleOf"
  | .minLength => "minLength"
  | .maxLength => "maxLength"
  | .pattern => "pattern"
  | .format => "format"
  | .items => "items"
  | .prefixItems => "prefixItems"
  | .contains => "contains"
  | .minItems => "minItems"
  | .maxItems => "maxItems"
  | .uniqueItems => "uniqueItems"
  | .properties => "properties"
  | .patternProperties => "patternProperties"
  | .additionalProperties => "additionalProperties"
  | .propertyNames => "propertyNames"
  | .required => "required"
  | .minProperties => "minProperties"
  | .maxProperties => "maxProperties"
  | .dependentRequired => "dependentRequired"
  | .dependentSchemas => "dependentSchemas"
  | .allOf => "allOf"
  | .anyOf => "anyOf"
  | .oneOf => "oneOf"
  | .negation => "not"
  | .condition => "if"
  | .reference => "$ref"
  | .dynamicReference => "$dynamicRef"
  | .unevaluatedItems => "unevaluatedItems"
  | .unevaluatedProperties => "unevaluatedProperties"

def all : List Keyword :=
  [.type, .enum, .const, .minimum, .maximum, .exclusiveMinimum, .exclusiveMaximum,
    .multipleOf, .minLength, .maxLength, .pattern, .format, .items, .prefixItems, .contains,
    .minItems, .maxItems, .uniqueItems, .properties, .patternProperties,
    .additionalProperties, .propertyNames, .required, .minProperties, .maxProperties,
    .dependentRequired, .dependentSchemas, .allOf, .anyOf, .oneOf, .negation, .condition,
    .reference, .dynamicReference, .unevaluatedItems, .unevaluatedProperties]

def ofName? (t : Text) : Option Keyword := all.find? (·.name == t)

theorem ofName?_name (k : Keyword) : ofName? k.name = some k := by cases k <;> decide

theorem name_of_ofName? {t : Text} {k : Keyword} (h : ofName? t = some k) : k.name = t := by
  have := List.find?_some h
  simpa using this

end Keyword
end TypedTemplate
