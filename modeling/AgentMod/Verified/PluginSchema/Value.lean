import AgentMod.Verified.PluginSchema.Declaration

/-! A value is accepted exactly when it satisfies a well-formed declaration. -/

namespace AgentMod

/-- The properties that a schema declares. -/
def declaredProperties (members : List (String × Json)) : List (String × Json) :=
  match members.lookup "properties" with
  | some (.object entries) => entries
  | _ => []

section Kinds

variable {members : List (String × Json)} {value : Json} {visited counted : Nat}

theorem valueMatchesType_iff {name : String} : valueMatchesType name value ↔ HasType name value := by
  constructor
  · intro matched
    cases value with
    | number number =>
      simp only [valueMatchesType, Bool.or_eq_true, beq_iff_eq, Bool.and_eq_true,
        Option.isSome_iff_exists] at matched
      rcases matched with rfl | ⟨rfl, ⟨integer, found⟩ | ⟨count, found⟩⟩
      · exact .number
      · exact .integer found
      · exact .natural found
    | null => exact (beq_iff_eq.mp matched) ▸ .null
    | bool => exact (beq_iff_eq.mp matched) ▸ .boolean
    | string => exact (beq_iff_eq.mp matched) ▸ .string
    | array => exact (beq_iff_eq.mp matched) ▸ .array
    | object => exact (beq_iff_eq.mp matched) ▸ .object
  · intro typed
    cases typed with
    | natural count => simp [valueMatchesType, count]
    | integer integer => simp [valueMatchesType, integer]
    | _ => simp [valueMatchesType]

theorem checkKeyword_of {α : Type} {keyword : String} {check : Json → SchemaCheck α}
    {property : Json → α → Prop} (spec : ∀ value checked, check value = .ok checked ↔ property value checked)
    (passes : ∀ value, members.lookup keyword = some value → ∃ checked, property value checked) :
    ∃ result, checkKeyword members keyword check = .ok result ∧ ∀ checked, result = some checked ↔
      ∃ value, members.lookup keyword = some value ∧ property value checked := by
  obtain ⟨result, checked⟩ := @checkKeyword_isOk members keyword α check fun value found => by
    obtain ⟨checked, holds⟩ := passes value found
    exact ⟨checked, (spec value checked).mpr holds⟩
  refine ⟨result, checked, fun other => ?_⟩
  simpa only [spec] using (checkKeyword_eq_ok.mp checked).2 other

variable [DoubleText]

theorem Declaration.count (declaration : Declaration members) (keyword : String)
    (counting : keyword ∈ ["maxItems", "minLength", "maxLength"]) (exceeds : Nat → Bool) :
    ∃ result, checkKeyword members keyword schemaU64 = .ok result ∧
      (result.any exceeds = false ↔ ∀ value count, members.lookup keyword = some value →
        IsCount value count → exceeds count = false) := by
  obtain ⟨result, checked, same⟩ := checkKeyword_of (fun _ _ => schemaU64_eq_ok)
    (declaration.counts keyword counting)
  refine ⟨result, checked, ?_⟩
  rw [Option.any_eq_false]
  constructor
  · intro within value count found isCount
    simpa using within count ((same count).mpr ⟨value, found, isCount⟩)
  · intro within count holds
    obtain ⟨value, found, isCount⟩ := (same count).mp holds
    simpa using within value count found isCount

theorem Declaration.bound (declaration : Declaration members) (keyword : String)
    (bounding : keyword ∈ ["minimum", "maximum"]) (exceeds : Number → Bool) :
    ∃ result, checkKeyword members keyword asNumber = .ok result ∧
      (result.any exceeds = false ↔ ∀ number, members.lookup keyword = some (.number number) →
        exceeds number = false) := by
  have numbers : ∀ value, members.lookup keyword = some value → ∃ number, value = .number number := by
    intro value found
    obtain ⟨number, rfl, -⟩ := declaration.bounds keyword bounding value found
    exact ⟨number, rfl⟩
  obtain ⟨result, checked, same⟩ := checkKeyword_of (fun _ _ => asNumber_eq_ok) numbers
  refine ⟨result, checked, ?_⟩
  rw [Option.any_eq_false]
  constructor
  · intro within number found
    simpa using within number ((same number).mpr ⟨_, found, rfl⟩)
  · intro within number holds
    obtain ⟨value, found, rfl⟩ := (same number).mp holds
    simpa using within number found

theorem validateText_eq_ok (declaration : Declaration members) {text : String} :
    validateText members text = .ok () ↔
      (∀ least minimum, members.lookup "minLength" = some least → IsCount least minimum →
        minimum ≤ text.length) ∧
      ∀ most maximum, members.lookup "maxLength" = some most → IsCount most maximum →
        text.length ≤ maximum := by
  obtain ⟨least, leasts, long⟩ :=
    declaration.count "minLength" (by simp) fun minimum => text.length < minimum
  obtain ⟨most, mosts, short⟩ :=
    declaration.count "maxLength" (by simp) fun maximum => text.length > maximum
  simp only [decide_eq_false_iff_not, not_lt] at long short
  rw [← long, ← short, validateText, leasts, mosts]
  change refuseIf _ _ = _ ↔ _
  rw [refuseIf_eq_ok, Bool.or_eq_true, not_or, Bool.not_eq_true, Bool.not_eq_true]

theorem validateNumericBounds_eq_ok (declaration : Declaration members) {number : Number} :
    validateNumericBounds members number = .ok () ↔
      (∀ minimum, members.lookup "minimum" = some (.number minimum) → AtLeast number minimum) ∧
      ∀ maximum, members.lookup "maximum" = some (.number maximum) → AtMost number maximum := by
  obtain ⟨minimum, lows, high⟩ := declaration.bound "minimum" (by simp) fun minimum =>
    !(compareSchemaNumbers number minimum).any Ordering.isGE
  obtain ⟨maximum, highs, low⟩ := declaration.bound "maximum" (by simp) fun maximum =>
    !(compareSchemaNumbers number maximum).any Ordering.isLE
  simp only [Bool.not_eq_false'] at high low
  simp only [AtLeast, AtMost]
  rw [← high, ← low, validateNumericBounds, lows, highs]
  change refuseIf _ _ = _ ↔ _
  rw [refuseIf_eq_ok, Bool.or_eq_true, not_or, Bool.not_eq_true, Bool.not_eq_true]

theorem validateArray_eq_ok (declaration : Declaration members)
    {visit : Json → Json → Nat → SchemaCheck Nat} {array : List Json} :
    validateArray visit members array visited = .ok counted ↔
      (∀ most maximum, members.lookup "maxItems" = some most → IsCount most maximum →
        array.length ≤ maximum) ∧
      visitItems (fun items visited =>
        array.foldlM (fun visited item => visit items item visited) visited) members visited =
          .ok counted := by
  obtain ⟨most, mosts, short⟩ :=
    declaration.count "maxItems" (by simp) fun maximum => array.length > maximum
  simp only [decide_eq_false_iff_not, not_lt] at short
  rw [← short, validateArray, mosts]
  change (refuseIf _ _ >>= fun _ => visitItems _ _ _) = _ ↔ _
  rw [bind_eq_ok, exists_unit, refuseIf_eq_ok, Bool.not_eq_true]

theorem Declaration.declared (declaration : Declaration members) : ∃ result,
    checkKeyword members "properties" objectMembers = .ok result ∧
      result.getD [] = declaredProperties members := by
  rw [checkKeyword, declaredProperties]
  split
  · rename_i missing
    exact ⟨none, rfl, by rw [missing]; rfl⟩
  · rename_i value found
    obtain ⟨entries, rfl⟩ := declaration.properties value found
    exact ⟨some entries, rfl, by rw [found]; rfl⟩

/-- An object is accepted exactly when it has the required fields, only declared ones where no others may
be, and accepted values in those. -/
theorem validateObject_eq_ok (declaration : Declaration members)
    {visit : Json → Json → Nat → SchemaCheck Nat} {object : List (String × Json)} :
    validateObject visit members object visited = .ok counted ↔
      (∀ fields, members.lookup "required" = some (.array fields) → ∀ field, .string field ∈ fields →
        field ∈ keysOf object) ∧
      (members.lookup "additionalProperties" = some (.bool false) → ∀ key ∈ keysOf object,
        key ∈ keysOf (declaredProperties members)) ∧
      (declaredProperties members).foldlM (visitMember visit object) visited = .ok counted := by
  obtain ⟨properties, declares, same⟩ := declaration.declared
  obtain ⟨required, requires, fields⟩ := checkKeyword_of (fun _ _ => validateRequired_eq_ok)
    declaration.required
  obtain ⟨additional, adds, allows⟩ := checkKeyword_of (fun _ _ => schemaBool_eq_ok) declaration.additional
  have present : (required.getD []).any (fun field => (object.lookup field).isNone) = false ↔
      ∀ fields, members.lookup "required" = some (.array fields) → ∀ field, .string field ∈ fields →
        field ∈ keysOf object := by
    have missing : ∀ field, (object.lookup field).isNone ↔ field ∉ keysOf object := fun field => by
      rw [Option.isNone_iff_eq_none, lookup_eq_none]
    simp only [List.any_eq_false, missing, not_not]
    constructor
    · intro each values found field inside
      obtain ⟨names, same, distinct, absent⟩ := declaration.required _ found
      cases same
      have chosen := (fields names).mpr ⟨_, found, rfl, distinct, absent⟩
      obtain ⟨name, listed, equal⟩ := List.mem_map.mp inside
      cases equal
      exact each field (by rwa [chosen])
    · intro each field inside
      cases chosen : required with
      | none =>
        rw [chosen] at inside
        cases inside
      | some names =>
        rw [chosen] at inside
        obtain ⟨_, found, rfl, -, -⟩ := (fields names).mp chosen
        exact each _ found field (List.mem_map.mpr ⟨field, inside, rfl⟩)
  have allowed : (additional == some false &&
      (keysOf object).any fun key => ((properties.getD []).lookup key).isNone) = false ↔
      (members.lookup "additionalProperties" = some (.bool false) → ∀ key ∈ keysOf object,
        key ∈ keysOf (declaredProperties members)) := by
    have missing : ∀ key, ((properties.getD []).lookup key).isNone ↔
        key ∉ keysOf (declaredProperties members) := fun key => by
      rw [Option.isNone_iff_eq_none, lookup_eq_none, same]
    have closed : additional = some false ↔
        members.lookup "additionalProperties" = some (.bool false) := by
      simp [allows]
    simp only [Bool.and_eq_false_imp, beq_iff_eq, closed, List.any_eq_false, missing, not_not]
  rw [← present, ← allowed, ← same, validateObject, declares, requires, adds]
  change (refuseIf _ _ >>= fun _ => refuseIf _ _ >>= fun _ => _) = _ ↔ _
  simp only [bind_eq_ok, exists_unit, refuseIf_eq_ok, Bool.not_eq_true]

/-- What a value that is accepted for its kind makes of the count of visited nodes. -/
def KindVisited (visit : Json → Json → Nat → SchemaCheck Nat) (members : List (String × Json))
    (value : Json) (visited counted : Nat) : Prop :=
  match value with
  | .object object =>
    (declaredProperties members).foldlM (visitMember visit object) visited = .ok counted
  | .array array => visitItems (fun items visited =>
      array.foldlM (fun visited item => visit items item visited) visited) members visited = .ok counted
  | _ => visited = counted

/-- A value is accepted for its kind exactly when the keywords for that allow it and what is below it is
accepted. -/
theorem validateKind_eq_ok (declaration : Declaration members)
    {visit : Json → Json → Nat → SchemaCheck Nat} :
    validateKind visit members value visited = .ok counted ↔
      ConstrainsKind members value ∧ KindVisited visit members value visited counted := by
  cases value with
  | object object =>
    have declared : ∀ key, (∃ properties, members.lookup "properties" = some (.object properties) ∧
        key ∈ keysOf properties) ↔ key ∈ keysOf (declaredProperties members) := by
      intro key
      rw [declaredProperties]
      split
      · rename_i entries found
        simp [found]
      · rename_i missing
        simpa using fun properties found => absurd found (missing properties)
    simp only [ConstrainsKind, declared, and_assoc]
    exact validateObject_eq_ok declaration
  | array array => exact validateArray_eq_ok declaration
  | string text =>
    simp only [validateKind, bind_eq_ok, exists_unit, pure_eq_ok, validateText_eq_ok declaration,
      ConstrainsKind, KindVisited]
  | number number =>
    simp only [validateKind, bind_eq_ok, exists_unit, pure_eq_ok, validateNumericBounds_eq_ok declaration,
      ConstrainsKind, KindVisited]
  | _ => simp [validateKind, ConstrainsKind, KindVisited]

/-- A value is accepted by a schema with well-formed keywords exactly when it satisfies those and what is
below it is accepted. -/
theorem validateSchemaValue_eq_ok {levels : Nat} (declaration : Declaration members) :
    validateSchemaValue (levels + 1) (.object members) value visited = .ok counted ↔
      visited < maxPluginSchemaNodes ∧ Conforms members value ∧
        KindVisited (validateSchemaValue levels) members value (visited + 1) counted := by
  obtain ⟨expected, expects⟩ := expectedType_isOk declaration.type
  have typed := (expectedType_eq_ok.mp expects).2
  obtain ⟨allowed, allows⟩ := allowedValues_isOk declaration.enum
  have listed := (allowedValues_eq_ok.mp allows).2
  have applies := (validateKeywordApplicability_eq_ok typed).mpr
    ⟨declaration.onObjects, declaration.onArrays, declaration.onStrings, declaration.onNumbers⟩
  have isObject := schemaMembers_eq_ok.mpr ⟨rfl, declaration.keywords⟩
  have matched : expected.any (fun expected => !valueMatchesType expected value) = false ↔
      ∀ name, members.lookup "type" = some (.string name) → HasType name value := by
    simp only [Option.any_eq_false, typed, Bool.not_eq_false', valueMatchesType_iff]
  have found : allowed.any (fun allowed => !allowed.any (·.equal value)) = false ↔
      ∀ allowed, members.lookup "enum" = some (.array allowed) →
        ∃ candidate ∈ allowed, candidate.equal value := by
    simp only [Option.any_eq_false, listed, Bool.not_eq_false', List.any_eq_true]
  simp only [validateSchemaValue, bind_eq_ok, countNode_eq_ok, isObject, expects, applies, allows,
    refuseIf_eq_ok, exists_unit, Except.ok.injEq, exists_eq_left', Bool.not_eq_true, matched, found,
    validateKind_eq_ok declaration, true_and]
  constructor
  · rintro ⟨_, ⟨room, rfl⟩, type, enum, kind, below⟩
    exact ⟨room, ⟨type, enum, kind⟩, below⟩
  · rintro ⟨room, ⟨type, enum, kind⟩, below⟩
    exact ⟨_, ⟨room, rfl⟩, type, enum, kind, below⟩

end Kinds

section Values

variable [DoubleText] {schema value : Json} {levels visited counted : Nat}

theorem satisfies_of_ok (declares : Declares schema)
    (accepted : validateSchemaValue levels schema value visited = .ok counted) :
    Satisfies schema value := by
  induction levels generalizing schema value visited counted with
  | zero => cases accepted
  | succ levels ih =>
    obtain ⟨declaration, properties, items⟩ := declares
    rename_i members
    obtain ⟨-, conforms, below⟩ := (validateSchemaValue_eq_ok declaration).mp accepted
    refine .intro conforms ?_ ?_
    · rintro declared object found rfl key nestedSchema nested declares finds
      have listed := mem_of_lookup declares
      have same : declaredProperties members = declared := by rw [declaredProperties, found]
      rw [KindVisited, same] at below
      obtain ⟨before, after, visits⟩ := exists_of_foldlM_eq_ok below listed
      rw [visitMember, finds] at visits
      exact ih (properties declared found _ listed) visits
    · rintro itemSchema array found rfl item inside
      rcases visitItems_eq_ok.mp below with ⟨missing, -⟩ | ⟨_, finds, visits⟩
      · cases missing.symm.trans found
      · cases finds.symm.trans found
        obtain ⟨before, after, visits⟩ := exists_of_foldlM_eq_ok visits inside
        exact ih (items itemSchema found) visits

/-- A value that satisfies a well-formed declaration and stays within the ceilings is accepted, and counts
no node twice. -/
theorem ok_of_satisfies (declares : Declares schema) (keyed : schema.Keyed)
    (satisfies : Satisfies schema value) (shallow : value.height < levels)
    (room : visited + value.nodes ≤ maxPluginSchemaNodes) :
    ∃ counted ≤ visited + value.nodes,
      validateSchemaValue levels schema value visited = .ok counted := by
  induction levels generalizing schema value visited with
  | zero => cases shallow
  | succ levels ih =>
    obtain ⟨declaration, properties, items⟩ := declares
    rename_i members
    obtain ⟨conforms, nestedProperties, nestedItems⟩ := satisfies
    have below := Json.height_le_iff.mp (Nat.le_of_lt_succ shallow)
    have positive := value.nodes_pos
    obtain ⟨counted, counts, visits⟩ : ∃ counted ≤ visited + value.nodes,
        KindVisited (validateSchemaValue levels) members value (visited + 1) counted := by
      cases value with
      | object object =>
        have total : (Json.object object).nodes = 1 + (object.map fun entry => entry.2.nodes).sum := by
          rw [Json.nodes, Json.entryNodes_eq]
        have distinct : (keysOf (declaredProperties members)).Nodup := by
          rw [declaredProperties]
          split
          · rename_i entries found
            exact (keyed.lookup found).distinct
          · exact List.nodup_nil
        -- The declared properties have distinct keys, so each value is visited for one of them at most.
        have each := @sum_lookup_le String Json _ object (keysOf (declaredProperties members)) distinct
          Json.nodes
        rw [List.map_map] at each
        obtain ⟨counted, counts, folded⟩ := @exists_foldlM_le _ _
          (visitMember (validateSchemaValue levels) object) (declaredProperties members)
          ((fun key => (object.lookup key).elim 0 Json.nodes) ∘ Prod.fst) (visited + 1)
          maxPluginSchemaNodes (by omega) fun property inside before room => by
            rw [visitMember]
            cases found : object.lookup property.1 with
            | none => exact ⟨before, by omega, rfl⟩
            | some nested =>
              rw [Function.comp_apply, found, Option.elim_some] at room ⊢
              rw [declaredProperties] at inside
              split at inside
              · rename_i entries finds
                have declared := keyed.lookup finds
                have listed := lookup_of_mem declared.distinct
                  (show (property.1, property.2) ∈ entries from inside)
                have lower := below nested (Json.mem_children_of_lookup found)
                exact ih (properties entries finds property inside) (declared.lookup listed)
                  (nestedProperties entries object finds rfl property.1 property.2 nested listed found)
                  (by omega) room
              · cases inside
        exact ⟨counted, by omega, folded⟩
      | array array =>
        have total : (Json.array array).nodes = 1 + (array.map Json.nodes).sum := by
          rw [Json.nodes, Json.itemNodes_eq]
        cases found : members.lookup "items" with
        | none => exact ⟨visited + 1, by omega, visitItems_eq_ok.mpr (.inl ⟨found, rfl⟩)⟩
        | some itemSchema =>
          obtain ⟨counted, counts, folded⟩ := @exists_foldlM_le _ _
            (fun visited item => validateSchemaValue levels itemSchema item visited) array Json.nodes
            (visited + 1) maxPluginSchemaNodes (by omega) fun item inside before room => by
              have lower := below item inside
              exact ih (items itemSchema found) (keyed.lookup found)
                (nestedItems itemSchema array found rfl item inside) (by omega) room
          exact ⟨counted, by omega, visitItems_eq_ok.mpr (.inr ⟨itemSchema, found, folded⟩)⟩
      | _ => exact ⟨visited + 1, by omega, rfl⟩
    exact ⟨counted, counts, (validateSchemaValue_eq_ok declaration).mpr ⟨by omega, conforms, visits⟩⟩

end Values

end AgentMod
