import AgentMod.Verified.PluginSchema.Failures
import AgentMod.Verified.PluginSchema.Order
import AgentMod.Verified.PluginSchema.Tree

/-! A value is valid exactly when it satisfies a well-formed schema, within the ceilings. -/

namespace AgentMod

open Json

section Outcome

theorem TreeBounded.reordered {value other : Json} (bounded : TreeBounded value) (reorders : Reorders value other)
    (keyed : value.Keyed) (keyed' : other.Keyed) : TreeBounded other where
  nodes := (reorders.nodes keyed keyed').symm ▸ bounded.nodes
  height := reorders.height_le (fun _ _ => Eq.symm) keyed keyed' bounded.height

variable [DoubleText]

/-- A schema that is a well-formed declaration of the supported subset, within the ceilings. -/
structure WellFormedSchema (schema : Json) : Prop where
  bounded : TreeBounded schema
  declares : Declares schema

/-- A value within the depth, node and byte ceilings. -/
structure BoundedValue (value : Json) : Prop where
  bounded : TreeBounded value
  encoded : value.encodedLength ≤ maxPluginValueBytes

variable {schema value other : Json}

theorem validateBoundedJson_fails : FailsWith .invalidValue (validateBoundedJson value) :=
  .bind visitTree_fails fun _ _ => .refuseIf

theorem validateBoundedJson_eq_ok : validateBoundedJson value = .ok () ↔ BoundedValue value := by
  rw [validateBoundedJson, bind_eq_ok, exists_unit, validateTreeLimits_eq_ok, refuseIf_eq_ok, not_lt]
  exact ⟨fun ⟨bounded, encoded⟩ => ⟨bounded, encoded⟩, fun ⟨bounded, encoded⟩ => ⟨bounded, encoded⟩⟩

theorem validateSchemaDeclaration_isOk (bounded : TreeBounded schema) :
    (∃ counted, validateSchemaDeclaration (maxPluginSchemaDepth + 1) schema 0 = .ok counted) ↔
      Declares schema := by
  constructor
  · rintro ⟨counted, accepted⟩
    exact declares_of_ok accepted
  · intro declares
    have nodes := bounded.nodes
    obtain ⟨counted, -, accepted⟩ := ok_of_declares declares (Nat.lt_succ_of_le bounded.height)
      (show 0 + schema.nodes ≤ maxPluginSchemaNodes by omega)
    exact ⟨counted, accepted⟩

theorem validateSchemaValue_isOk (keyed : schema.Keyed) (declares : Declares schema)
    (bounded : TreeBounded value) :
    (∃ counted, validateSchemaValue (maxPluginSchemaDepth + 1) schema value 0 = .ok counted) ↔
      Satisfies schema value := by
  constructor
  · rintro ⟨counted, accepted⟩
    exact satisfies_of_ok declares accepted
  · intro satisfies
    have nodes := bounded.nodes
    obtain ⟨counted, -, accepted⟩ := ok_of_satisfies declares keyed satisfies
      (Nat.lt_succ_of_le bounded.height) (show 0 + value.nodes ≤ maxPluginSchemaNodes by omega)
    exact ⟨counted, accepted⟩

theorem BoundedValue.reordered (bounded : BoundedValue value) (reorders : Reorders value other)
    (keyed : value.Keyed) (keyed' : other.Keyed) : BoundedValue other where
  bounded := bounded.bounded.reordered reorders keyed keyed'
  encoded := (reorders.encodedLength keyed keyed').symm ▸ bounded.encoded

theorem validateJsonSchema_eq_ok [SchemaText] {text : String} {value : JsonValue} :
    validateJsonSchema text value = .ok () ↔ text.utf8ByteSize ≤ maxPluginSchemaBytes ∧
      ∃ schema, SchemaText.fromStr text = some schema ∧ WellFormedSchema schema.json ∧
        BoundedValue value.json ∧ Satisfies schema.json value.json := by
  simp only [validateJsonSchema, bind_eq_ok, exists_unit, refuseIf_eq_ok, okOr_eq_ok, not_lt,
    validateTreeLimits_eq_ok, validateBoundedJson_eq_ok, pure_eq_ok, and_true]
  constructor
  · rintro ⟨short, schema, parsed, bounded, within, counted, declared, counted', accepted⟩
    have declares := (validateSchemaDeclaration_isOk bounded).mp ⟨counted, declared⟩
    exact ⟨short, schema, parsed, ⟨bounded, declares⟩, within,
      (validateSchemaValue_isOk schema.keyed declares within.bounded).mp ⟨counted', accepted⟩⟩
  · rintro ⟨short, schema, parsed, ⟨bounded, declares⟩, within, satisfies⟩
    obtain ⟨counted, declared⟩ := (validateSchemaDeclaration_isOk bounded).mpr declares
    obtain ⟨counted', accepted⟩ := (validateSchemaValue_isOk schema.keyed declares within.bounded).mpr
      satisfies
    exact ⟨short, schema, parsed, bounded, within, counted, declared, counted', accepted⟩

/-- What is checked of a parsed schema and a value. -/
def validateParsed (schema value : Json) : SchemaCheck Unit := do
  validateTreeLimits schema true
  validateBoundedJson value
  let _ ← validateSchemaDeclaration (maxPluginSchemaDepth + 1) schema 0
  let _ ← validateSchemaValue (maxPluginSchemaDepth + 1) schema value 0

theorem validateJsonSchema_eq [SchemaText] {text : String} {schema value : JsonValue}
    (short : text.utf8ByteSize ≤ maxPluginSchemaBytes) (parsed : SchemaText.fromStr text = some schema) :
    validateJsonSchema text value = validateParsed schema.json value.json := by
  have fits : refuseIf (text.utf8ByteSize > maxPluginSchemaBytes)
      PluginSchemaValidationError.invalidDeclaration = .ok () := refuseIf_eq_ok.mpr short.not_gt
  rw [validateJsonSchema, fits, parsed]
  rfl

theorem validateParsed_reordered {schema' value' : Json} (reorders : Reorders schema schema')
    (reorders' : Reorders value value') (keyed : schema.Keyed) (keyed' : schema'.Keyed)
    (keyedValue : value.Keyed) (keyedValue' : value'.Keyed) :
    validateParsed schema value = validateParsed schema' value' := by
  refine FailsWith.bind_congr visitTree_fails visitTree_fails ?_ fun _ _ limited limited' => ?_
  · rw [exists_unit, exists_unit, validateTreeLimits_eq_ok, validateTreeLimits_eq_ok]
    exact ⟨fun bounded => bounded.reordered reorders keyed keyed',
      fun bounded => bounded.reordered reorders.reversed keyed' keyed⟩
  rw [validateTreeLimits_eq_ok] at limited limited'
  refine FailsWith.bind_congr validateBoundedJson_fails validateBoundedJson_fails ?_
    fun _ _ within within' => ?_
  · rw [exists_unit, exists_unit, validateBoundedJson_eq_ok, validateBoundedJson_eq_ok]
    exact ⟨fun bounded => bounded.reordered reorders' keyedValue keyedValue',
      fun bounded => bounded.reordered reorders'.reversed keyedValue' keyedValue⟩
  rw [validateBoundedJson_eq_ok] at within within'
  refine FailsWith.bind_congr validateSchemaDeclaration_fails validateSchemaDeclaration_fails ?_
    fun counted counted' declared declared' => ?_
  · rw [validateSchemaDeclaration_isOk limited, validateSchemaDeclaration_isOk limited']
    exact ⟨fun declares => declares.reordered reorders keyed keyed',
      fun declares => declares.reordered reorders.reversed keyed' keyed⟩
  have declares := declares_of_ok declared
  have declares' := declares_of_ok declared'
  refine FailsWith.bind_congr (validateSchemaValue_fails declares) (validateSchemaValue_fails declares') ?_
    fun _ _ _ _ => rfl
  rw [validateSchemaValue_isOk keyed declares within.bounded,
    validateSchemaValue_isOk keyed' declares' within'.bounded]
  exact ⟨fun satisfies => satisfies.reordered reorders reorders' keyed keyed' keyedValue keyedValue',
    fun satisfies => satisfies.reordered reorders.reversed reorders'.reversed keyed' keyed keyedValue'
      keyedValue⟩

/-- A value is valid exactly when the text of the schema is short enough for a schema that is a well-formed
declaration within the ceilings, and the value is within them and satisfies it; and neither the order of the
members of the schema nor that of the value matters. -/
theorem json_schema_validation [SchemaText] (text : String) (value : JsonValue) :
    (validateJsonSchema text value = .ok () ↔ text.utf8ByteSize ≤ maxPluginSchemaBytes ∧
      ∃ schema, SchemaText.fromStr text = some schema ∧ WellFormedSchema schema.json ∧
        BoundedValue value.json ∧ Satisfies schema.json value.json) ∧
    ∀ (text' : String) (schema schema' value' : JsonValue), text.utf8ByteSize ≤ maxPluginSchemaBytes →
      text'.utf8ByteSize ≤ maxPluginSchemaBytes → SchemaText.fromStr text = some schema →
      SchemaText.fromStr text' = some schema' → Reorders schema.json schema'.json →
      Reorders value.json value'.json → validateJsonSchema text value = validateJsonSchema text' value' := by
  refine ⟨validateJsonSchema_eq_ok, ?_⟩
  intro text' schema schema' value' short short' parsed parsed' reorders reorders'
  rw [validateJsonSchema_eq short parsed, validateJsonSchema_eq short' parsed']
  exact validateParsed_reordered reorders reorders' schema.keyed schema'.keyed value.keyed value'.keyed

end Outcome

section Sample

/-- A formatter of doubles, of which none is used. -/
local instance : DoubleText := ⟨fun _ => "0.0"⟩

/-- A schema without keywords. -/
def anySchema : JsonValue := ⟨.object [], .object List.nodup_nil nofun⟩

/-- A schema with a keyword outside of the supported subset. -/
def constSchema : JsonValue :=
  ⟨.object [("const", .null)], .object (by decide) (by simp [Keyed.null])⟩

/-- A schema of the null value. -/
def nullSchema : JsonValue :=
  ⟨.object [("type", .string "null"), ("enum", .array [.null])],
    .object (by decide) (by simp [Keyed.null, Keyed.string, Keyed.array])⟩

/-- The same schema with its members in the other order. -/
def nullSchemaReordered : JsonValue :=
  ⟨.object [("enum", .array [.null]), ("type", .string "null")],
    .object (by decide) (by simp [Keyed.null, Keyed.string, Keyed.array])⟩

/-- A parser of the texts of these schemas. -/
local instance : SchemaText where
  fromStr text := [("\x7b\x7d", anySchema), ("\x7b\"const\":null\x7d", constSchema),
    ("\x7b\"type\":\"null\",\"enum\":[null]\x7d", nullSchema),
    ("\x7b\"enum\":[null],\"type\":\"null\"\x7d", nullSchemaReordered)].lookup text

/-- A text of a letter that is repeated. -/
def repeatedText (count : Nat) : JsonValue := ⟨.string (String.ofList (List.replicate count 'a')), .string⟩

theorem repeatedText_bounded (count : Nat) : TreeBounded (repeatedText count).json where
  nodes := show 1 ≤ maxPluginSchemaNodes by decide
  height := Nat.zero_le _

theorem repeatedText_encoded (count : Nat) : (repeatedText count).json.encodedLength = 2 + count := by
  have single : encodedCharLength 'a' = 1 := by decide
  simp [repeatedText, encodedLength, encodedTextLength, single]

theorem satisfies_anySchema (value : Json) : Satisfies anySchema.json value := by
  refine .intro ⟨by simp, by simp, ?_⟩ (by simp) (by simp)
  cases value <;> simp [ConstrainsKind]

/-- A long text within the depth and node ceilings satisfies a schema that refuses it, and a constant is no
keyword of the supported subset. -/
theorem not_json_schema_validation :
    ¬ (∀ (text : String) (schema value : JsonValue), SchemaText.fromStr text = some schema →
      WellFormedSchema schema.json → TreeBounded value.json → Satisfies schema.json value.json →
        validateJsonSchema text value = .ok ()) ∧
    validateJsonSchema "\x7b\"const\":null\x7d" ⟨.null, .null⟩ = .error .invalidDeclaration := by
  refine ⟨fun claim => ?_, by decide⟩
  have declares : Declares anySchema.json := by
    have accepted : validateSchemaDeclaration 1 anySchema.json 0 = .ok 1 := by decide
    exact declares_of_ok accepted
  have accepted := claim "\x7b\x7d" anySchema (repeatedText maxPluginValueBytes)
    rfl ⟨⟨by decide, by decide⟩, declares⟩ (repeatedText_bounded _) (satisfies_anySchema _)
  obtain ⟨-, -, -, -, within, -⟩ := validateJsonSchema_eq_ok.mp accepted
  have encoded := within.encoded
  rw [repeatedText_encoded] at encoded
  omega

/-- The two orders of a schema's members accept the null value, with the same answer. -/
theorem json_schema_validation_nullSchema :
    validateJsonSchema "\x7b\"type\":\"null\",\"enum\":[null]\x7d" ⟨.null, .null⟩ =
      validateJsonSchema "\x7b\"enum\":[null],\"type\":\"null\"\x7d" ⟨.null, .null⟩ := by
  refine (json_schema_validation _ ⟨.null, .null⟩).2 _ nullSchema nullSchemaReordered ⟨.null, .null⟩
    (by decide) (by decide) rfl rfl ?_ .null
  refine .object (List.Perm.swap _ _ _) fun key item other found finds => ?_
  by_cases type : key = "type"
  · subst type
    cases found
    cases finds
    exact .string
  · rw [List.lookup_cons, beq_eq_false_iff_ne.mpr type] at found
    have same : some item = some other := by
      rw [← found, ← finds, List.lookup_cons, List.lookup_cons, List.lookup_cons, beq_eq_false_iff_ne.mpr type]
    rw [Option.some.inj same]
    exact .refl (fun _ => rfl) other

end Sample

end AgentMod
