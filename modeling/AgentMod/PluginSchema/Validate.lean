import AgentMod.Library.Result
import AgentMod.PluginSchema.Tree

/-! Fail-closed bounded JSON and schema validation for plugin operations. -/

namespace AgentMod

/-- The most bytes of an encoded value. -/
def maxPluginValueBytes : Nat := 4 * 1024 * 1024

/-- The most bytes of a schema's text. -/
def maxPluginSchemaBytes : Nat := 65536

/-- The most levels below a value or a schema. -/
def maxPluginSchemaDepth : Nat := 32

/-- The most values in a tree. -/
def maxPluginSchemaNodes : Nat := 16384

/-- The keywords that a schema may use. -/
def supportedSchemaKeywords : List String :=
  ["type", "enum", "properties", "required", "additionalProperties", "items", "maxItems", "minLength",
    "maxLength", "minimum", "maximum"]

/-- The types that a schema may ask for. -/
def schemaTypes : List String :=
  ["null", "boolean", "number", "integer", "string", "array", "object"]

/-- Stable classification of schema validation failures. -/
inductive PluginSchemaValidationError where
  | invalidDeclaration
  | invalidValue
  deriving DecidableEq

/-- A check of a schema or of a value. -/
abbrev SchemaCheck := Except PluginSchemaValidationError

/-- The class of a failure, by what is checked. -/
def schemaValidationError (schema : Bool) : PluginSchemaValidationError :=
  if schema then .invalidDeclaration else .invalidValue

/-- Takes values from a stack, with the given number of them left to take, and puts what is below them
onto it. -/
def visitTree (schema : Bool) : Nat → List (Json × Nat) → SchemaCheck Unit
  | _, [] => .ok ()
  | 0, _ :: _ => .error (schemaValidationError schema)
  | remaining + 1, (value, depth) :: stack =>
    if depth > maxPluginSchemaDepth then .error (schemaValidationError schema)
    else
      let visited := maxPluginSchemaNodes - remaining
      if visited + stack.length + value.children.length > maxPluginSchemaNodes then
        .error (schemaValidationError schema)
      else
        visitTree schema remaining
          ((value.children.reverse.map fun child => (child, depth + 1)) ++ stack)

/-- Validates the number of values in a tree and their depths. -/
def validateTreeLimits (root : Json) (schema : Bool) : SchemaCheck Unit :=
  visitTree schema maxPluginSchemaNodes [(root, 0)]

/-- Counts a visited node. -/
def countNode (visited : Nat) (error : PluginSchemaValidationError) : SchemaCheck Nat := do
  refuseIf (visited + 1 > maxPluginSchemaNodes) error
  return visited + 1

/-- The members of a schema, which has supported keywords only. -/
def schemaMembers (schema : Json) : SchemaCheck (List (String × Json)) := do
  match schema with
  | .object members =>
    refuseIf ((keysOf members).any fun keyword => !supportedSchemaKeywords.contains keyword)
      .invalidDeclaration
    return members
  | _ => .error .invalidDeclaration

/-- The type that a schema asks for. -/
def expectedType (members : List (String × Json)) : SchemaCheck (Option String) :=
  match members.lookup "type" with
  | none => .ok none
  | some (.string name) => do
    refuseIf (!schemaTypes.contains name) .invalidDeclaration
    return some name
  | some _ => .error .invalidDeclaration

/-- Validates that keywords stand beside the type whose values they constrain. -/
def validateKeywordApplicability (members : List (String × Json)) (expected : Option String) :
    SchemaCheck Unit := do
  let uses (keywords : List String) : Bool := keywords.any fun keyword => (members.lookup keyword).isSome
  refuseIf (uses ["properties", "required", "additionalProperties"] ∧ expected ≠ some "object")
    .invalidDeclaration
  refuseIf (uses ["items", "maxItems"] ∧ expected ≠ some "array") .invalidDeclaration
  refuseIf (uses ["minLength", "maxLength"] ∧ expected ≠ some "string") .invalidDeclaration
  refuseIf (uses ["minimum", "maximum"] ∧ expected ≠ some "number" ∧ expected ≠ some "integer")
    .invalidDeclaration

/-- Whether a list of values holds two equal ones. -/
def repeatsValue : List Json → List Json → Bool
  | _, [] => false
  | earlier, candidate :: rest => earlier.any (·.equal candidate) || repeatsValue (earlier ++ [candidate]) rest

/-- The values that a schema allows, if it names them. -/
def allowedValues (members : List (String × Json)) : SchemaCheck (Option (List Json)) :=
  match members.lookup "enum" with
  | none => .ok none
  | some (.array allowed) => do
    refuseIf (allowed = [] ∨ repeatsValue [] allowed) .invalidDeclaration
    return some allowed
  | some _ => .error .invalidDeclaration

/-- The names that an array of distinct texts lists, behind those seen before. -/
def requiredFields (seen : List String) : List Json → SchemaCheck (List String)
  | [] => .ok seen
  | .string field :: rest => do
    refuseIf (field = "" ∨ seen.contains field) .invalidDeclaration
    requiredFields (seen ++ [field]) rest
  | _ :: _ => .error .invalidDeclaration

/-- The names that a list of required members has. -/
def validateRequired : Json → SchemaCheck (List String)
  | .array required => requiredFields [] required
  | _ => .error .invalidDeclaration

/-- The members of an object. -/
def objectMembers : Json → SchemaCheck (List (String × Json))
  | .object members => .ok members
  | _ => .error .invalidDeclaration

/-- The truth value that a keyword has. -/
def schemaBool : Json → SchemaCheck Bool
  | .bool value => .ok value
  | _ => .error .invalidDeclaration

/-- The number that a keyword has. -/
def asNumber : Json → SchemaCheck Number
  | .number value => .ok value
  | _ => .error .invalidDeclaration

/-- The count that a keyword has. -/
def schemaU64 (value : Json) : SchemaCheck Nat :=
  match value with
  | .number value => okOr value.asU64 .invalidDeclaration
  | _ => .error .invalidDeclaration

/-- Applies a check to the value of a keyword, where the schema uses it. -/
def checkKeyword {α : Type} (members : List (String × Json)) (keyword : String)
    (check : Json → SchemaCheck α) : SchemaCheck (Option α) :=
  match members.lookup keyword with
  | none => .ok none
  | some value => some <$> check value

variable [DoubleText]

/-- The bound that a keyword has. -/
def schemaNumber (value : Json) : SchemaCheck Number := do
  let number ← asNumber value
  refuseIf (schemaDecimal number.text.toList = none) .invalidDeclaration
  return number

/-- Visits the schemas of the properties that a schema declares. -/
def visitProperties (visit : Json → Nat → SchemaCheck Nat) (members : List (String × Json))
    (visited : Nat) : SchemaCheck Nat :=
  match members.lookup "properties" with
  | none => .ok visited
  | some properties => do
    let properties ← objectMembers properties
    properties.foldlM (fun visited property => visit property.2 visited) visited

/-- Visits the schema of the items that a schema declares. -/
def visitItems (visit : Json → Nat → SchemaCheck Nat) (members : List (String × Json))
    (visited : Nat) : SchemaCheck Nat :=
  match members.lookup "items" with
  | none => .ok visited
  | some items => visit items visited

/-- Validates a schema with the given number of levels left, and counts its nodes behind those visited. -/
def validateSchemaDeclaration : Nat → Json → Nat → SchemaCheck Nat
  | 0, _, _ => .error .invalidDeclaration
  | levels + 1, schema, visited => do
    let visited ← countNode visited .invalidDeclaration
    let members ← schemaMembers schema
    let expected ← expectedType members
    validateKeywordApplicability members expected
    let _ ← allowedValues members
    let visited ← visitProperties (validateSchemaDeclaration levels) members visited
    let _ ← checkKeyword members "required" validateRequired
    let _ ← checkKeyword members "additionalProperties" schemaBool
    let visited ← visitItems (validateSchemaDeclaration levels) members visited
    let _ ← checkKeyword members "maxItems" schemaU64
    let minLength ← checkKeyword members "minLength" schemaU64
    let maxLength ← checkKeyword members "maxLength" schemaU64
    refuseIf (minLength.any fun minimum => maxLength.any fun maximum => minimum > maximum)
      .invalidDeclaration
    let minimum ← checkKeyword members "minimum" schemaNumber
    let maximum ← checkKeyword members "maximum" schemaNumber
    refuseIf (minimum.any fun minimum => maximum.any fun maximum =>
      !(compareSchemaNumbers minimum maximum).any Ordering.isLE) .invalidDeclaration
    return visited

/-- Whether a value is of a type. -/
def valueMatchesType (expected : String) (value : Json) : Bool :=
  match value with
  | .null => expected == "null"
  | .bool _ => expected == "boolean"
  | .number number => expected == "number" ||
      (expected == "integer" && (number.asI64.isSome || number.asU64.isSome))
  | .string _ => expected == "string"
  | .array _ => expected == "array"
  | .object _ => expected == "object"

/-- Validates a number against the bounds of a schema. -/
def validateNumericBounds (members : List (String × Json)) (value : Number) : SchemaCheck Unit := do
  let minimum ← checkKeyword members "minimum" asNumber
  let maximum ← checkKeyword members "maximum" asNumber
  refuseIf (minimum.any (fun minimum => !(compareSchemaNumbers value minimum).any Ordering.isGE) ||
    maximum.any fun maximum => !(compareSchemaNumbers value maximum).any Ordering.isLE) .invalidValue

/-- Visits the value that an object has for a declared property. -/
def visitMember (visit : Json → Json → Nat → SchemaCheck Nat) (object : List (String × Json))
    (visited : Nat) (property : String × Json) : SchemaCheck Nat :=
  match object.lookup property.1 with
  | none => .ok visited
  | some nested => visit property.2 nested visited

/-- Validates an object against a schema, and visits the values of its declared properties. -/
def validateObject (visit : Json → Json → Nat → SchemaCheck Nat) (members object : List (String × Json))
    (visited : Nat) : SchemaCheck Nat := do
  let properties ← checkKeyword members "properties" objectMembers
  let required ← checkKeyword members "required" validateRequired
  refuseIf ((required.getD []).any fun field => (object.lookup field).isNone) .invalidValue
  let allowAdditional ← checkKeyword members "additionalProperties" schemaBool
  refuseIf (allowAdditional == some false &&
    (keysOf object).any fun key => ((properties.getD []).lookup key).isNone) .invalidValue
  (properties.getD []).foldlM (visitMember visit object) visited

/-- Validates an array against a schema, and visits its items. -/
def validateArray (visit : Json → Json → Nat → SchemaCheck Nat) (members : List (String × Json))
    (array : List Json) (visited : Nat) : SchemaCheck Nat := do
  let maxItems ← checkKeyword members "maxItems" schemaU64
  refuseIf (maxItems.any fun maximum => array.length > maximum) .invalidValue
  visitItems (fun items visited => array.foldlM (fun visited item => visit items item visited) visited)
    members visited

/-- Validates a text against the lengths of a schema. -/
def validateText (members : List (String × Json)) (text : String) : SchemaCheck Unit := do
  let minLength ← checkKeyword members "minLength" schemaU64
  let maxLength ← checkKeyword members "maxLength" schemaU64
  refuseIf (minLength.any (fun minimum => text.length < minimum) ||
    maxLength.any fun maximum => text.length > maximum) .invalidValue

/-- Validates what is particular to the kind of a value. -/
def validateKind (visit : Json → Json → Nat → SchemaCheck Nat) (members : List (String × Json))
    (value : Json) (visited : Nat) : SchemaCheck Nat :=
  match value with
  | .object object => validateObject visit members object visited
  | .array array => validateArray visit members array visited
  | .string text => do
    validateText members text
    return visited
  | .number number => do
    validateNumericBounds members number
    return visited
  | .null | .bool _ => .ok visited

/-- Validates a value against a schema with the given number of levels left, and counts its nodes behind
those visited. -/
def validateSchemaValue : Nat → Json → Json → Nat → SchemaCheck Nat
  | 0, _, _, _ => .error .invalidValue
  | levels + 1, schema, value, visited => do
    let visited ← countNode visited .invalidValue
    let members ← schemaMembers schema
    let expected ← expectedType members
    validateKeywordApplicability members expected
    refuseIf (expected.any fun expected => !valueMatchesType expected value) .invalidValue
    let allowed ← allowedValues members
    refuseIf (allowed.any fun allowed => !allowed.any (·.equal value)) .invalidValue
    validateKind (validateSchemaValue levels) members value visited

/-- Validates that a value stays within the depth, node and byte ceilings. -/
def validateBoundedJson (value : Json) : SchemaCheck Unit := do
  validateTreeLimits value false
  refuseIf (value.encodedLength > maxPluginValueBytes) .invalidValue

/-- The parser of schema texts. -/
class SchemaText where
  /-- `serde_json::from_str`. -/
  fromStr : String → Option JsonValue

/-- Validates a value against the closed, bounded JSON Schema subset. -/
def validateJsonSchema [SchemaText] (schema : String) (value : JsonValue) : SchemaCheck Unit := do
  refuseIf (schema.utf8ByteSize > maxPluginSchemaBytes) .invalidDeclaration
  let schema ← okOr (SchemaText.fromStr schema) .invalidDeclaration
  validateTreeLimits schema.json true
  validateBoundedJson value.json
  let _ ← validateSchemaDeclaration (maxPluginSchemaDepth + 1) schema.json 0
  let _ ← validateSchemaValue (maxPluginSchemaDepth + 1) schema.json value.json 0

end AgentMod
