import Conformance.Draft.Rules
/-!
# Keywords

The keywords of each draft with their rules, in the order in which a schema is looked
at, whatever the order in the document. A keyword that a draft does not list may have
any value.
-/

namespace Conformance.Draft

/-! ## Rules that many keywords share -/

namespace Rule

def ofType (name : String) : Rule := types [.named name]

def text : Rule := ofType "string"

def number : Rule := ofType "number"

def boolean : Rule := ofType "boolean"

def array : Rule := ofType "array"

def count : Rule := (ofType "integer").both atLeastZero

def positive : Rule := number.both aboveZero

def patternText : Rule := text.both pattern

def nodes : Rule := (array.both nonEmpty).both (items node)

def names : Rule := (array.both (items text)).both distinct

def namesNotEmpty : Rule := ((array.both (items text)).both nonEmpty).both distinct

def named (rule : Rule) : Rule := (ofType "object").both (entries rule)

def patternNodes : Rule := (named node).both patternKeys

def nodeOrNodes : Rule := node.either nodes

def simpleType : Rule :=
  oneOf ["array", "boolean", "integer", "null", "number", "object", "string"]

def typeNames : Rule :=
  simpleType.either (((array.both (items simpleType)).both nonEmpty).both distinct)

def distinctValues : Rule := (array.both nonEmpty).both distinct

end Rule

open Rule

/-- The bounds and lengths that the later drafts agree in. -/
def lengths : List (String × Rule) :=
  [("maxLength", count), ("minLength", count), ("pattern", patternText)]

def numericBounds : List (String × Rule) :=
  [("multipleOf", positive), ("maximum", number), ("exclusiveMaximum", number),
   ("minimum", number), ("exclusiveMinimum", number)]

def combinators : List (String × Rule) :=
  [("allOf", nodes), ("anyOf", nodes), ("oneOf", nodes), ("not", node)]

/-! ## Draft 3 -/

/-- Types by name or by schema. -/
def typesOrNodes : Rule :=
  ((types [.named "string", .named "array"]).both (items (types [.named "string", .node]))).both
    distinct

def nodeOrBoolean : Rule := types [.node, .named "boolean"]

def nodeOrList : Rule := (types [.node, .named "array"]).both (items node)

def keywordsOf3 : List (String × Rule) :=
  [("type", typesOrNodes),
   ("properties", named node),
   ("patternProperties", named node),
   ("additionalProperties", nodeOrBoolean),
   ("items", nodeOrList),
   ("additionalItems", nodeOrBoolean),
   ("required", boolean),
   ("dependencies", named ((types [.named "string", .named "array", .node]).both (items text))),
   ("minimum", number),
   ("maximum", number),
   ("exclusiveMinimum", boolean),
   ("exclusiveMaximum", boolean),
   ("minItems", count),
   ("maxItems", count),
   ("uniqueItems", boolean),
   ("pattern", patternText),
   ("minLength", count),
   ("maxLength", ofType "integer"),
   ("enum", distinctValues),
   ("title", text),
   ("description", text),
   ("format", text),
   ("divisibleBy", positive),
   ("disallow", typesOrNodes),
   ("extends", nodeOrList),
   ("id", text),
   ("$ref", text),
   ("$schema", text)]

/-! ## Draft 4 -/

def keywordsOf4 : List (String × Rule) :=
  [("id", text),
   ("$schema", text),
   ("title", text),
   ("description", text),
   ("multipleOf", positive),
   ("maximum", number),
   ("exclusiveMaximum", boolean),
   ("minimum", number),
   ("exclusiveMinimum", boolean)] ++ lengths ++
  [("additionalItems", boolean.either node),
   ("items", nodeOrNodes),
   ("maxItems", count),
   ("minItems", count),
   ("uniqueItems", boolean),
   ("maxProperties", count),
   ("minProperties", count),
   ("required", namesNotEmpty),
   ("additionalProperties", boolean.either node),
   ("definitions", named node),
   ("properties", named node),
   ("patternProperties", named node),
   ("dependencies", named (node.either namesNotEmpty)),
   ("enum", distinctValues),
   ("type", typeNames),
   ("format", text)] ++ combinators

/-! ## Drafts 6 and 7 -/

def keywordsOf7 : List (String × Rule) :=
  [("$id", text),
   ("$schema", text),
   ("$ref", text),
   ("$comment", text),
   ("title", text),
   ("description", text),
   ("readOnly", boolean),
   ("examples", array)] ++ numericBounds ++ lengths ++
  [("additionalItems", node),
   ("items", nodeOrNodes),
   ("maxItems", count),
   ("minItems", count),
   ("uniqueItems", boolean),
   ("contains", node),
   ("maxProperties", count),
   ("minProperties", count),
   ("required", names),
   ("additionalProperties", node),
   ("definitions", named node),
   ("properties", named node),
   ("patternProperties", patternNodes),
   ("dependencies", named (node.either names)),
   ("propertyNames", node),
   ("enum", array),
   ("type", typeNames),
   ("format", text),
   ("contentMediaType", text),
   ("contentEncoding", text),
   ("if", node),
   ("then", node),
   ("else", node)] ++ combinators

def addedIn7 : List String :=
  ["$comment", "readOnly", "contentMediaType", "contentEncoding", "if", "then", "else"]

def keywordsOf6 : List (String × Rule) := keywordsOf7.filter fun (k, _) => !addedIn7.contains k

/-! ## The drafts of 2019 and 2020

Their keywords come in vocabularies, which are looked at one after the other. -/

def conditionals : List (String × Rule) :=
  [("dependentSchemas", named node),
   ("propertyNames", node),
   ("if", node),
   ("then", node),
   ("else", node)] ++ combinators

def assertions : List (String × Rule) :=
  numericBounds ++ lengths ++
  [("maxItems", count),
   ("minItems", count),
   ("uniqueItems", boolean),
   ("maxContains", count),
   ("minContains", count),
   ("maxProperties", count),
   ("minProperties", count),
   ("required", names),
   ("dependentRequired", named names)]

def annotations : List (String × Rule) :=
  [("title", text),
   ("description", text),
   ("deprecated", boolean),
   ("readOnly", boolean),
   ("writeOnly", boolean),
   ("examples", array),
   ("format", text)]

/-- Keywords of earlier drafts. -/
def retained : List (String × Rule) :=
  [("definitions", named node), ("dependencies", named (node.either names))]

def keywordsOf2019 : List (String × Rule) :=
  [("$id", text.both (form .place)),
   ("$schema", text),
   ("$anchor", text.both (form .anchorOf2019)),
   ("$ref", text),
   ("$recursiveRef", text),
   ("$recursiveAnchor", boolean),
   ("$vocabulary", named boolean),
   ("$comment", text),
   ("$defs", named node),
   ("additionalItems", node),
   ("unevaluatedItems", node),
   ("items", nodeOrNodes),
   ("contains", node),
   ("additionalProperties", node),
   ("unevaluatedProperties", node),
   ("properties", named node),
   ("patternProperties", patternNodes)] ++ conditionals ++ assertions ++
  [("enum", array),
   ("type", typeNames)] ++ annotations ++
  [("contentMediaType", text),
   ("contentEncoding", text),
   ("contentSchema", node)] ++ retained

def keywordsOf2020 : List (String × Rule) :=
  [("$id", text.both (form .place)),
   ("$schema", text),
   ("$ref", text),
   ("$anchor", text.both (form .anchorOf2020)),
   ("$dynamicRef", text),
   ("$dynamicAnchor", text.both (form .anchorOf2020)),
   ("$vocabulary", named boolean),
   ("$comment", text),
   ("$defs", named node),
   ("prefixItems", nodes),
   ("items", node),
   ("contains", node),
   ("additionalProperties", node),
   ("properties", named node),
   ("patternProperties", patternNodes)] ++ conditionals ++
  [("unevaluatedItems", node),
   ("unevaluatedProperties", node),
   ("type", typeNames),
   ("enum", array)] ++ assertions ++ annotations ++
  [("contentEncoding", text),
   ("contentMediaType", text),
   ("contentSchema", node)] ++ retained ++
  [("$recursiveAnchor", text.both (form .anchorOf2020)),
   ("$recursiveRef", text)]

/-! ## All drafts -/

def keywords : Draft → List (String × Rule)
  | three => keywordsOf3
  | four => keywordsOf4
  | six => keywordsOf6
  | seven => keywordsOf7
  | of2019 => keywordsOf2019
  | of2020 => keywordsOf2020

/-- Keywords that need another one beside them: where an exclusive bound is a boolean,
it is about a bound. -/
def needs : Draft → List (String × String)
  | three => [("exclusiveMinimum", "minimum"), ("exclusiveMaximum", "maximum")]
  | four => [("exclusiveMaximum", "maximum"), ("exclusiveMinimum", "minimum")]
  | six | seven | of2019 | of2020 => []

end Conformance.Draft
