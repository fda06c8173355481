import AgentMod.PluginSchema.Validate

/-! What the schemas of the supported subset mean, and the second validator, which checks the outputs of plugin nodes. -/

namespace AgentMod

/-- A JSON number that is an unsigned integer. -/
def IsCount (value : Json) (count : Nat) : Prop :=
  ∃ number : Number, value = .number number ∧ number.asU64 = some count

/-- A value is of a type. -/
inductive HasType : String → Json → Prop where
  | null : HasType "null" .null
  | boolean {value : Bool} : HasType "boolean" (.bool value)
  | number {value : Number} : HasType "number" (.number value)
  | natural {value : Number} {count : Nat} (count : value.asU64 = some count) :
      HasType "integer" (.number value)
  | integer {value : Number} {integer : Int} (integer : value.asI64 = some integer) :
      HasType "integer" (.number value)
  | string {value : String} : HasType "string" (.string value)
  | array {items : List Json} : HasType "array" (.array items)
  | object {entries : List (String × Json)} : HasType "object" (.object entries)

/-- A keyword stands beside one of the types whose values it constrains. -/
def Applies (members : List (String × Json)) (keyword : String) (types : List String) : Prop :=
  (members.lookup keyword).isSome → ∃ type ∈ types, members.lookup "type" = some (.string type)

variable [DoubleText]

/-- A number is at most another one. -/
def AtMost (left right : Number) : Prop := (compareSchemaNumbers left right).any Ordering.isLE

/-- A number is at least another one. -/
def AtLeast (left right : Number) : Prop := (compareSchemaNumbers left right).any Ordering.isGE

/-- A number that can be compared. -/
def Comparable (number : Number) : Prop := ∃ decimal, schemaDecimal number.text.toList = some decimal

/-- The keywords of a schema are well-formed, whatever schemas they nest. -/
structure Declaration (members : List (String × Json)) : Prop where
  keywords : ∀ keyword ∈ keysOf members, keyword ∈ supportedSchemaKeywords
  type : ∀ value, members.lookup "type" = some value → ∃ name ∈ schemaTypes, value = .string name
  onObjects : ∀ keyword ∈ ["properties", "required", "additionalProperties"],
    Applies members keyword ["object"]
  onArrays : ∀ keyword ∈ ["items", "maxItems"], Applies members keyword ["array"]
  onStrings : ∀ keyword ∈ ["minLength", "maxLength"], Applies members keyword ["string"]
  onNumbers : ∀ keyword ∈ ["minimum", "maximum"], Applies members keyword ["number", "integer"]
  enum : ∀ value, members.lookup "enum" = some value → ∃ allowed, value = .array allowed ∧
    allowed ≠ [] ∧ allowed.Pairwise fun first second => ¬ first.equal second
  properties : ∀ value, members.lookup "properties" = some value → ∃ entries, value = .object entries
  required : ∀ value, members.lookup "required" = some value → ∃ fields : List String,
    value = .array (fields.map .string) ∧ fields.Nodup ∧ "" ∉ fields
  additional : ∀ value, members.lookup "additionalProperties" = some value →
    ∃ allow, value = .bool allow
  counts : ∀ keyword ∈ ["maxItems", "minLength", "maxLength"], ∀ value,
    members.lookup keyword = some value → ∃ count, IsCount value count
  lengths : ∀ least most minimum maximum, members.lookup "minLength" = some least →
    members.lookup "maxLength" = some most → IsCount least minimum → IsCount most maximum →
    minimum ≤ maximum
  bounds : ∀ keyword ∈ ["minimum", "maximum"], ∀ value, members.lookup keyword = some value →
    ∃ number, value = .number number ∧ Comparable number
  ordered : ∀ minimum maximum, members.lookup "minimum" = some (.number minimum) →
    members.lookup "maximum" = some (.number maximum) → AtMost minimum maximum

/-- A well-formed declaration of the supported subset, at every level. -/
inductive Declares : Json → Prop where
  | intro {members : List (String × Json)} (declaration : Declaration members)
      (properties : ∀ entries, members.lookup "properties" = some (.object entries) →
        ∀ entry ∈ entries, Declares entry.2)
      (items : ∀ value, members.lookup "items" = some value → Declares value) :
      Declares (.object members)

/-- What the keywords of a schema ask of the values of each kind. -/
def ConstrainsKind (members : List (String × Json)) : Json → Prop
  | .object entries =>
    (∀ fields, members.lookup "required" = some (.array fields) → ∀ field, .string field ∈ fields →
      field ∈ keysOf entries) ∧
    (members.lookup "additionalProperties" = some (.bool false) → ∀ key ∈ keysOf entries,
      ∃ properties, members.lookup "properties" = some (.object properties) ∧ key ∈ keysOf properties)
  | .array items =>
    ∀ most maximum, members.lookup "maxItems" = some most → IsCount most maximum → items.length ≤ maximum
  | .string text =>
    (∀ least minimum, members.lookup "minLength" = some least → IsCount least minimum →
      minimum ≤ text.length) ∧
    (∀ most maximum, members.lookup "maxLength" = some most → IsCount most maximum →
      text.length ≤ maximum)
  | .number number =>
    (∀ minimum, members.lookup "minimum" = some (.number minimum) → AtLeast number minimum) ∧
    (∀ maximum, members.lookup "maximum" = some (.number maximum) → AtMost number maximum)
  | .null | .bool _ => True

/-- A value satisfies the keywords of a schema, whatever values are below it. -/
structure Conforms (members : List (String × Json)) (value : Json) : Prop where
  type : ∀ name, members.lookup "type" = some (.string name) → HasType name value
  enum : ∀ allowed, members.lookup "enum" = some (.array allowed) →
    ∃ candidate ∈ allowed, candidate.equal value
  kind : ConstrainsKind members value

/-- A value satisfies a schema: every keyword constrains the values of its kind, at every level. -/
inductive Satisfies : Json → Json → Prop where
  | intro {members : List (String × Json)} {value : Json} (conforms : Conforms members value)
      (properties : ∀ properties entries, members.lookup "properties" = some (.object properties) →
        value = .object entries → ∀ key schema nested, properties.lookup key = some schema →
        entries.lookup key = some nested → Satisfies schema nested)
      (items : ∀ schema array, members.lookup "items" = some schema → value = .array array →
        ∀ item ∈ array, Satisfies schema item) :
      Satisfies (.object members) value

/-- A tree stays within the depth and node ceilings. -/
structure TreeBounded (value : Json) : Prop where
  nodes : value.nodes ≤ maxPluginSchemaNodes
  height : value.height ≤ maxPluginSchemaDepth

/-- The most bytes of an output. -/
def maxPluginOutcomeBytes : Nat := 1024 * 1024

/-- The deepest level of a schema that the outcome validator looks at. -/
def maxOutcomeSchemaDepth : Nat := 32

/-- What the outcome validator makes of a schema or of an output. -/
inductive PluginNodeOutcomeValidationError where
  | invalidSchema
  deriving DecidableEq

/-- A check of the outcome validator. -/
abbrev OutcomeCheck := Except PluginNodeOutcomeValidationError

/-- Visits the value that an object has for a declared property. -/
def visitOutcomeMember (visit : Json → Json → OutcomeCheck Unit) (object : List (String × Json))
    (property : String × Json) : OutcomeCheck Unit :=
  match object.lookup property.1 with
  | some nested => visit property.2 nested
  | none => .ok ()

/-- The members of an output against a schema, and the values of its declared properties. -/
def validateOutcomeObject (visit : Json → Json → OutcomeCheck Unit) (schema : Json)
    (object : List (String × Json)) : OutcomeCheck Unit := do
  let required := (schema.get? "required").bind Json.asArray?
  refuseIf (required.any fun required =>
    (required.filterMap Json.asStr?).any fun field => (object.lookup field).isNone) .invalidSchema
  let properties := (schema.get? "properties").bind Json.asObject?
  refuseIf ((schema.get? "additionalProperties").any (·.equal (.bool false)) &&
    (keysOf object).any fun key => properties.all fun properties => (properties.lookup key).isNone) .invalidSchema
  forM (properties.getD []) (visitOutcomeMember visit object)

/-- Visits the items of an array, where the schema declares a schema for them. -/
def visitOutcomeItems (visit : Json → Json → OutcomeCheck Unit) (schema : Json) (values : List Json) :
    OutcomeCheck Unit :=
  match schema.get? "items" with
  | some items => forM values (visit items)
  | none => .ok ()

/-- What is below a value, and what is asked of the members of an object. -/
def validateOutcomeKind (visit : Json → Json → OutcomeCheck Unit) (schema value : Json) : OutcomeCheck Unit :=
  match value with
  | .object object => validateOutcomeObject visit schema object
  | .array values => visitOutcomeItems visit schema values
  | .null | .bool _ | .number _ | .string _ => .ok ()

/-- The outcome validator's own `validate_schema_value`, with the given number of levels left. -/
def validateOutcomeValue : Nat → Json → Json → OutcomeCheck Unit
  | 0, _, _ => .error .invalidSchema
  | levels + 1, schema, value => do
    let expected := (schema.get? "type").bind Json.asStr?
    refuseIf (expected.any fun expected => !valueMatchesType expected value) .invalidSchema
    let allowed := (schema.get? "enum").bind Json.asArray?
    refuseIf (allowed.any fun allowed => !allowed.any (·.equal value)) .invalidSchema
    validateOutcomeKind (validateOutcomeValue levels) schema value

/-- The outcome validator's own `validate_json_schema`. -/
def validateOutcomeSchema [SchemaText] (schema : String) (value : JsonValue) : OutcomeCheck Unit := do
  let schema ← okOr (SchemaText.fromStr schema) .invalidSchema
  validateOutcomeValue (maxOutcomeSchemaDepth + 1) schema.json value.json

/-- What the keywords of a schema ask of values, wherever a schema and a value meet. -/
inductive Throughout (asks : List (String × Json) → Json → Prop) : Json → Json → Prop where
  | intro {members : List (String × Json)} {value : Json} (here : asks members value)
      (properties : ∀ properties entries, members.lookup "properties" = some (.object properties) →
        value = .object entries → ∀ key schema nested, properties.lookup key = some schema →
        entries.lookup key = some nested → Throughout asks schema nested)
      (items : ∀ schema array, members.lookup "items" = some schema → value = .array array →
        ∀ item ∈ array, Throughout asks schema item) :
      Throughout asks (.object members) value

/-- A value has the type, is among the values, and has the members that the keywords of a schema ask for. -/
structure Fits (members : List (String × Json)) (value : Json) : Prop where
  type : ∀ name, members.lookup "type" = some (.string name) → HasType name value
  enum : ∀ allowed, members.lookup "enum" = some (.array allowed) →
    ∃ candidate ∈ allowed, candidate.equal value
  required : ∀ entries fields, value = .object entries → members.lookup "required" = some (.array fields) →
    ∀ field, .string field ∈ fields → field ∈ keysOf entries
  additional : ∀ entries, value = .object entries → members.lookup "additionalProperties" = some (.bool false) →
    ∀ key ∈ keysOf entries,
      ∃ properties, members.lookup "properties" = some (.object properties) ∧ key ∈ keysOf properties

variable [DoubleText]

/-- A value is within the lengths and bounds that the keywords of a schema ask for. -/
structure InRange (members : List (String × Json)) (value : Json) : Prop where
  items : ∀ array most maximum, value = .array array → members.lookup "maxItems" = some most →
    IsCount most maximum → array.length ≤ maximum
  least : ∀ text least minimum, value = .string text → members.lookup "minLength" = some least →
    IsCount least minimum → minimum ≤ text.length
  most : ∀ text most maximum, value = .string text → members.lookup "maxLength" = some most →
    IsCount most maximum → text.length ≤ maximum
  minimum : ∀ number minimum, value = .number number → members.lookup "minimum" = some (.number minimum) →
    AtLeast number minimum
  maximum : ∀ number maximum, value = .number number → members.lookup "maximum" = some (.number maximum) →
    AtMost number maximum

end AgentMod
