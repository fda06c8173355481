import AgentMod.PluginSchema.Semantics
import AgentMod.Verified.PluginSchema.Validation

/-! Where the two validators of plugin outputs agree, and where they do not. -/

namespace AgentMod

section Keywords

variable {members : List (String × Json)}

theorem array_iff {keyword : String} {items : List Json} :
    ((Json.object members).get? keyword).bind Json.asArray? = some items ↔
      members.lookup keyword = some (.array items) := by
  rw [Json.get?]
  cases members.lookup keyword with
  | none => simp
  | some value => cases value <;> simp [Json.asArray?]

theorem text_iff {keyword text : String} :
    ((Json.object members).get? keyword).bind Json.asStr? = some text ↔
      members.lookup keyword = some (.string text) := by
  rw [Json.get?]
  cases members.lookup keyword with
  | none => simp
  | some value => cases value <;> simp [Json.asStr?]

theorem object_iff {keyword : String} {entries : List (String × Json)} :
    ((Json.object members).get? keyword).bind Json.asObject? = some entries ↔
      members.lookup keyword = some (.object entries) := by
  rw [Json.get?]
  cases members.lookup keyword with
  | none => simp
  | some value => cases value <;> simp [Json.asObject?]

theorem equalFalse_iff {keyword : String} : ((Json.object members).get? keyword).any (·.equal (.bool false)) = true ↔
    members.lookup keyword = some (.bool false) := by
  rw [Json.get?]
  cases members.lookup keyword with
  | none => simp
  | some value => cases value <;> simp [Json.equal]

theorem mem_texts {fields : List Json} {field : String} :
    field ∈ fields.filterMap Json.asStr? ↔ .string field ∈ fields := by
  rw [List.mem_filterMap]
  constructor
  · rintro ⟨value, inside, isText⟩
    cases value with
    | string text =>
      cases isText
      exact inside
    | _ => cases isText
  · exact fun inside => ⟨_, inside, rfl⟩

end Keywords

section Levels

variable [DoubleText] {members : List (String × Json)} {schema value : Json}

theorem conforms_iff : Conforms members value ↔ Fits members value ∧ InRange members value := by
  constructor
  · intro conforms
    have kind := conforms.kind
    refine ⟨⟨conforms.type, conforms.enum, ?_, ?_⟩, ?_, ?_, ?_, ?_, ?_⟩
    · rintro entries fields rfl
      exact kind.1 fields
    · rintro entries rfl
      exact kind.2
    · rintro array most maximum rfl
      exact kind most maximum
    · rintro text least minimum rfl
      exact kind.1 least minimum
    · rintro text most maximum rfl
      exact kind.2 most maximum
    · rintro number minimum rfl
      exact kind.1 minimum
    · rintro number maximum rfl
      exact kind.2 maximum
  · rintro ⟨fits, range⟩
    refine ⟨fits.type, fits.enum, ?_⟩
    cases value with
    | object entries => exact ⟨fun fields => fits.required entries fields rfl, fits.additional entries rfl⟩
    | array items => exact fun most maximum => range.items items most maximum rfl
    | string text =>
      exact ⟨fun least minimum => range.least text least minimum rfl,
        fun most maximum => range.most text most maximum rfl⟩
    | number number =>
      exact ⟨fun minimum => range.minimum number minimum rfl, fun maximum => range.maximum number maximum rfl⟩
    | null | bool _ => trivial

theorem satisfies_iff : Satisfies schema value ↔ Throughout Fits schema value ∧ Throughout InRange schema value := by
  constructor
  · intro satisfies
    induction satisfies with
    | intro conforms _ _ properties items =>
      have both := conforms_iff.mp conforms
      constructor
      · exact .intro both.1
          (fun declared entries found same key schema nested declares finds =>
            (properties declared entries found same key schema nested declares finds).1)
          fun schema array found same item inside => (items schema array found same item inside).1
      · exact .intro both.2
          (fun declared entries found same key schema nested declares finds =>
            (properties declared entries found same key schema nested declares finds).2)
          fun schema array found same item inside => (items schema array found same item inside).2
  · rintro ⟨fits, range⟩
    induction fits with
    | intro here _ _ properties items =>
      obtain ⟨within, nestedProperties, nestedItems⟩ := range
      refine .intro (conforms_iff.mpr ⟨here, within⟩) ?_ ?_
      · intro declared entries found same key schema nested declares finds
        exact properties declared entries found same key schema nested declares finds
          (nestedProperties declared entries found same key schema nested declares finds)
      · intro schema array found same item inside
        exact items schema array found same item inside (nestedItems schema array found same item inside)

theorem Declaration.asObject (declaration : Declaration members) :
    (((Json.object members).get? "properties").bind Json.asObject?).getD [] = declaredProperties members := by
  rw [Json.get?, declaredProperties]
  cases found : members.lookup "properties" with
  | none => rfl
  | some properties =>
    obtain ⟨entries, rfl⟩ := declaration.properties properties found
    rfl

/-- The nested values that the outcome validator visits. -/
def Visits (visit : Json → Json → OutcomeCheck Unit) (members : List (String × Json)) : Json → Prop
  | .object object => ∀ property ∈ declaredProperties members, ∀ nested,
      object.lookup property.1 = some nested → visit property.2 nested = .ok ()
  | .array array => ∀ items, members.lookup "items" = some items → ∀ item ∈ array, visit items item = .ok ()
  | _ => True

/-- The outcome validator accepts an object that fits, when it accepts the values of its properties. -/
theorem validateOutcomeObject_eq_ok (declaration : Declaration members) {visit : Json → Json → OutcomeCheck Unit}
    {object : List (String × Json)} : validateOutcomeObject visit (.object members) object = .ok () ↔
      (∀ fields, members.lookup "required" = some (.array fields) → ∀ field, .string field ∈ fields →
        field ∈ keysOf object) ∧
      (members.lookup "additionalProperties" = some (.bool false) → ∀ key ∈ keysOf object,
        ∃ properties, members.lookup "properties" = some (.object properties) ∧ key ∈ keysOf properties) ∧
      Visits visit members (.object object) := by
  have absent : ∀ field, (object.lookup field).isNone = true ↔ field ∉ keysOf object := fun field => by
    rw [Option.isNone_iff_eq_none, lookup_eq_none]
  have required : ((((Json.object members).get? "required").bind Json.asArray?).any fun required =>
      (required.filterMap Json.asStr?).any fun field => (object.lookup field).isNone) = false ↔
      ∀ fields, members.lookup "required" = some (.array fields) → ∀ field, .string field ∈ fields →
        field ∈ keysOf object := by
    simp only [Option.any_eq_false, array_iff, List.any_eq_false, mem_texts, absent, not_not]
  have closed : (((Json.object members).get? "additionalProperties").any (·.equal (.bool false)) &&
      (keysOf object).any fun key => (((Json.object members).get? "properties").bind Json.asObject?).all
        fun properties => (properties.lookup key).isNone) = false ↔
      (members.lookup "additionalProperties" = some (.bool false) → ∀ key ∈ keysOf object,
        ∃ properties, members.lookup "properties" = some (.object properties) ∧ key ∈ keysOf properties) := by
    rw [Bool.and_eq_false_imp, equalFalse_iff]
    refine imp_congr_right fun _ => ?_
    simp only [List.any_eq_false, Bool.not_eq_true, Option.all_eq_false, object_iff,
      Option.isNone_eq_false_iff, lookup_isSome, Option.isSome_iff_exists]
  have visits : forM ((((Json.object members).get? "properties").bind Json.asObject?).getD [])
      (visitOutcomeMember visit object) = .ok () ↔ Visits visit members (.object object) := by
    rw [declaration.asObject, forM_eq_ok, Visits]
    refine forall₂_congr fun property _ => ?_
    rw [visitOutcomeMember]
    cases object.lookup property.1 <;> simp
  rw [← required, ← closed, ← visits, validateOutcomeObject]
  simp only [bind_eq_ok, exists_unit, refuseIf_eq_ok, Bool.not_eq_true]

theorem validateOutcomeKind_eq_ok (declaration : Declaration members) {visit : Json → Json → OutcomeCheck Unit} :
    validateOutcomeKind visit (.object members) value = .ok () ↔
      (∀ entries fields, value = .object entries → members.lookup "required" = some (.array fields) →
        ∀ field, .string field ∈ fields → field ∈ keysOf entries) ∧
      (∀ entries, value = .object entries → members.lookup "additionalProperties" = some (.bool false) →
        ∀ key ∈ keysOf entries,
          ∃ properties, members.lookup "properties" = some (.object properties) ∧ key ∈ keysOf properties) ∧
      Visits visit members value := by
  cases value with
  | object object =>
    rw [validateOutcomeKind, validateOutcomeObject_eq_ok declaration]
    constructor
    · rintro ⟨required, additional, below⟩
      refine ⟨?_, ?_, below⟩
      · rintro entries fields ⟨⟩
        exact required fields
      · rintro entries ⟨⟩
        exact additional
    · rintro ⟨required, additional, below⟩
      exact ⟨fun fields => required object fields rfl, additional object rfl, below⟩
  | array array =>
    rw [validateOutcomeKind, visitOutcomeItems, Json.get?, Visits]
    cases found : members.lookup "items" <;> simp [forM_eq_ok]
  | null | bool _ | number _ | string _ => simp [validateOutcomeKind, Visits]

theorem validateOutcomeValue_succ (declaration : Declaration members) {levels : Nat} :
    validateOutcomeValue (levels + 1) (.object members) value = .ok () ↔
      Fits members value ∧ Visits (validateOutcomeValue levels) members value := by
  have typed : ((((Json.object members).get? "type").bind Json.asStr?).any fun expected =>
      !valueMatchesType expected value) = false ↔
      ∀ name, members.lookup "type" = some (.string name) → HasType name value := by
    simp only [Option.any_eq_false, text_iff, Bool.not_eq_false', valueMatchesType_iff]
  have listed : ((((Json.object members).get? "enum").bind Json.asArray?).any fun allowed =>
      !allowed.any (·.equal value)) = false ↔
      ∀ allowed, members.lookup "enum" = some (.array allowed) → ∃ candidate ∈ allowed, candidate.equal value := by
    simp only [Option.any_eq_false, array_iff, Bool.not_eq_false', List.any_eq_true]
  rw [validateOutcomeValue]
  simp only [bind_eq_ok, exists_unit, refuseIf_eq_ok, Bool.not_eq_true, typed, listed,
    validateOutcomeKind_eq_ok declaration]
  constructor
  · rintro ⟨type, enum, required, additional, below⟩
    exact ⟨⟨type, enum, required, additional⟩, below⟩
  · rintro ⟨fits, below⟩
    exact ⟨fits.type, fits.enum, fits.required, fits.additional, below⟩

/-- The outcome validator accepts the values that fit a well-formed declaration at every level, as long as it has
levels left for all of its schemas. -/
theorem validateOutcomeValue_eq_ok {levels : Nat} (keyed : schema.Keyed) (declares : Declares schema)
    (shallow : schema.height < levels) :
    validateOutcomeValue levels schema value = .ok () ↔ Throughout Fits schema value := by
  induction levels generalizing schema value with
  | zero => cases shallow
  | succ levels ih =>
    obtain ⟨declaration, properties, items⟩ := declares
    rename_i members
    have below := Json.height_le_iff.mp (Nat.le_of_lt_succ shallow)
    -- The schemas of properties lie two levels below, and that of the items lies one level below.
    have deeper : ∀ entries, members.lookup "properties" = some (.object entries) → ∀ key nested,
        entries.lookup key = some nested → nested.height < levels := by
      intro entries found key nested declares
      have outer := below _ (Json.mem_children_of_lookup found)
      have inner := Json.height_lt (Json.mem_children_of_lookup declares)
      omega
    rw [validateOutcomeValue_succ declaration]
    constructor
    · rintro ⟨fits, visits⟩
      refine .intro fits ?_ ?_
      · rintro declared object found rfl key nestedSchema nested declares finds
        have listed := mem_of_lookup declares
        have same : declaredProperties members = declared := by rw [declaredProperties, found]
        exact (ih ((keyed.lookup found).lookup declares) (properties declared found _ listed)
          (deeper declared found key nestedSchema declares)).mp (visits _ (same ▸ listed) nested finds)
      · rintro itemSchema array found rfl item inside
        have inner := below _ (Json.mem_children_of_lookup found)
        exact (ih (keyed.lookup found) (items itemSchema found) (by omega)).mp (visits itemSchema found item inside)
    · rintro ⟨fits, nestedProperties, nestedItems⟩
      refine ⟨fits, ?_⟩
      cases value with
      | object object =>
        intro property inside nested finds
        rw [declaredProperties] at inside
        split at inside
        · rename_i entries found
          have declared := keyed.lookup found
          have listed := lookup_of_mem declared.distinct (show (property.1, property.2) ∈ entries from inside)
          exact (ih (declared.lookup listed) (properties entries found property inside)
            (deeper entries found property.1 property.2 listed)).mpr
            (nestedProperties entries object found rfl property.1 property.2 nested listed finds)
        · cases inside
      | array array =>
        intro itemSchema found item inside
        have inner := below _ (Json.mem_children_of_lookup found)
        exact (ih (keyed.lookup found) (items itemSchema found) (by omega)).mpr
          (nestedItems itemSchema array found rfl item inside)
      | null | bool _ | number _ | string _ => trivial

theorem validateOutcomeSchema_eq_ok [SchemaText] {text : String} {schema value : JsonValue}
    (parsed : SchemaText.fromStr text = some schema) (wellFormed : WellFormedSchema schema.json) :
    validateOutcomeSchema text value = .ok () ↔ Throughout Fits schema.json value.json := by
  rw [validateOutcomeSchema, parsed]
  exact validateOutcomeValue_eq_ok schema.keyed wellFormed.declares (Nat.lt_succ_of_le wellFormed.bounded.height)

/-- The two validators agree on an output exactly when it does not fit the declaration, or stays within the depth and
node ceilings and in all ranges that the declaration asks for. -/
theorem outcome_validators_agree [SchemaText] (text : String) (schema value : JsonValue)
    (short : text.utf8ByteSize ≤ maxPluginSchemaBytes) (parsed : SchemaText.fromStr text = some schema)
    (wellFormed : WellFormedSchema schema.json) (small : value.json.encodedLength ≤ maxPluginOutcomeBytes) :
    (validateOutcomeSchema text value = .ok () ↔ validateJsonSchema text value = .ok ()) ↔
      (Throughout Fits schema.json value.json →
        TreeBounded value.json ∧ Throughout InRange schema.json value.json) := by
  have shared : validateJsonSchema text value = .ok () ↔
      TreeBounded value.json ∧ Satisfies schema.json value.json := by
    rw [validateJsonSchema_eq_ok]
    constructor
    · rintro ⟨-, other, again, -, within, satisfies⟩
      cases parsed.symm.trans again
      exact ⟨within.bounded, satisfies⟩
    · rintro ⟨bounded, satisfies⟩
      exact ⟨short, schema, parsed, wellFormed, ⟨bounded, small.trans (by decide)⟩, satisfies⟩
  rw [validateOutcomeSchema_eq_ok parsed wellFormed, shared, satisfies_iff]
  constructor
  · intro agree fits
    obtain ⟨bounded, -, range⟩ := agree.mp fits
    exact ⟨bounded, range⟩
  · intro within
    exact ⟨fun fits => ⟨(within fits).1, fits, (within fits).2⟩, fun both => both.2.1⟩

end Levels

section Sample

/-- A formatter of doubles, of which none is used. -/
local instance unusedDoubles : DoubleText := ⟨fun _ => "0.0"⟩

/-- The text of a schema of texts with one character at most. -/
def letterText : String := "\x7b\"type\":\"string\",\"maxLength\":1\x7d"

/-- A schema of texts with one character at most. -/
def letterSchema : JsonValue :=
  ⟨.object [("type", .string "string"), ("maxLength", .number (.posInt 1 one_lt_word))],
    .object (by decide) (by simp [Json.Keyed.string, Json.Keyed.number])⟩

/-- A parser of that text. -/
local instance letterParser : SchemaText where
  fromStr text := if text = letterText then some letterSchema else none

theorem wellFormed_letterSchema : WellFormedSchema letterSchema.json := by
  have accepted : validateSchemaDeclaration 1 letterSchema.json 0 = .ok 1 := by decide
  exact ⟨⟨by decide, by decide⟩, declares_of_ok accepted⟩

/-- A text of two characters is accepted as an output of a plugin node, although its schema allows one only. -/
theorem not_outcome_validators_agree : ¬ ∀ (text : String) (schema value : JsonValue),
    text.utf8ByteSize ≤ maxPluginSchemaBytes → SchemaText.fromStr text = some schema →
    WellFormedSchema schema.json → value.json.encodedLength ≤ maxPluginOutcomeBytes →
    (validateOutcomeSchema text value = .ok () ↔ validateJsonSchema text value = .ok ()) := by
  intro agree
  have both := agree letterText letterSchema ⟨.string "ab", .string⟩ (by decide) (if_pos rfl)
    wellFormed_letterSchema (by decide)
  have accepted : validateOutcomeSchema letterText ⟨.string "ab", .string⟩ = .ok () := by decide
  have refused : validateJsonSchema letterText ⟨.string "ab", .string⟩ = .error .invalidValue := by decide
  rw [both.mp accepted] at refused
  cases refused

/-- The validators agree on a text of one character. -/
theorem outcome_validators_agree_letter :
    (validateOutcomeSchema letterText ⟨.string "a", .string⟩ = .ok () ↔
      validateJsonSchema letterText ⟨.string "a", .string⟩ = .ok ()) ↔
    (Throughout Fits letterSchema.json (.string "a") →
      TreeBounded (.string "a") ∧ Throughout InRange letterSchema.json (.string "a")) :=
  outcome_validators_agree letterText letterSchema ⟨.string "a", .string⟩ (by decide) (if_pos rfl)
    wellFormed_letterSchema (by decide)

end Sample

end AgentMod
