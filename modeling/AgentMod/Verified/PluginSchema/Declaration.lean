import AgentMod.Verified.PluginSchema.Tree

/-! A schema is accepted exactly when it is a well-formed declaration. -/

namespace AgentMod

section Keywords

variable {members : List (String × Json)} {schema value : Json} {keyword : String}
variable {expected : Option String}

theorem countNode_eq_ok {visited counted : Nat} {error : PluginSchemaValidationError} :
    countNode visited error = .ok counted ↔ visited < maxPluginSchemaNodes ∧ counted = visited + 1 := by
  simp only [countNode, bind_eq_ok, refuseIf_eq_ok, exists_unit, pure_eq_ok]
  omega

theorem schemaMembers_eq_ok : schemaMembers schema = .ok members ↔
    schema = .object members ∧ ∀ keyword ∈ keysOf members, keyword ∈ supportedSchemaKeywords := by
  cases schema with
  | object entries =>
    simp only [schemaMembers, bind_eq_ok, refuseIf_eq_ok, exists_unit, pure_eq_ok, Json.object.injEq]
    constructor
    · rintro ⟨supported, rfl⟩
      exact ⟨rfl, by simpa using supported⟩
    · rintro ⟨rfl, supported⟩
      exact ⟨by simpa using supported, rfl⟩
  | _ => simp [schemaMembers]

theorem expectedType_eq_ok : expectedType members = .ok expected ↔
    (∀ value, members.lookup "type" = some value → ∃ name ∈ schemaTypes, value = .string name) ∧
    ∀ name, expected = some name ↔ members.lookup "type" = some (.string name) := by
  rw [expectedType]
  split
  · rename_i missing
    simp only [missing, reduceCtorEq, false_implies, implies_true, true_and, iff_false,
      Except.ok.injEq]
    exact ⟨fun same => by simp [← same], fun none_ => (Option.eq_none_iff_forall_ne_some.mpr none_).symm⟩
  · rename_i name found
    simp only [bind_eq_ok, refuseIf_eq_ok, exists_unit, pure_eq_ok, found, Option.some.injEq]
    constructor
    · rintro ⟨known, rfl⟩
      refine ⟨fun value same => ⟨name, by simpa using known, same.symm⟩, fun other => by simp⟩
    · rintro ⟨known, same⟩
      obtain ⟨other, inside, equal⟩ := known _ rfl
      cases equal
      exact ⟨by simpa using inside, ((same name).mpr rfl).symm⟩
  · rename_i value other found
    simp only [found, reduceCtorEq, false_iff, not_and]
    intro known
    obtain ⟨name, -, rfl⟩ := known value rfl
    exact absurd rfl (other name)

/-- A check of a keyword succeeds where the schema lacks the keyword or passes the check, and finds what
the check does. -/
theorem checkKeyword_eq_ok {α : Type} {check : Json → SchemaCheck α} {result : Option α} :
    checkKeyword members keyword check = .ok result ↔
      (∀ value, members.lookup keyword = some value → ∃ checked, check value = .ok checked) ∧
      ∀ checked, result = some checked ↔
        ∃ value, members.lookup keyword = some value ∧ check value = .ok checked := by
  rw [checkKeyword]
  split
  · rename_i missing
    simp only [missing, reduceCtorEq, false_implies, implies_true, true_and, false_and, exists_false,
      iff_false, Except.ok.injEq]
    exact ⟨fun same => by simp [← same], fun none_ => (Option.eq_none_iff_forall_ne_some.mpr none_).symm⟩
  · rename_i value found
    simp only [map_eq_ok, found, Option.some.injEq, forall_eq', exists_eq_left']
    constructor
    · rintro ⟨checked, returned, rfl⟩
      refine ⟨⟨checked, returned⟩, fun other => ?_⟩
      rw [Option.some.injEq, returned, Except.ok.injEq]
    · rintro ⟨⟨checked, returned⟩, same⟩
      exact ⟨checked, returned, ((same checked).mpr returned).symm⟩

theorem checkKeyword_isOk {α : Type} {check : Json → SchemaCheck α}
    (passes : ∀ value, members.lookup keyword = some value → ∃ checked, check value = .ok checked) :
    ∃ result, checkKeyword members keyword check = .ok result := by
  rw [checkKeyword]
  split
  · exact ⟨none, rfl⟩
  · rename_i value found
    obtain ⟨checked, returned⟩ := passes value found
    exact ⟨some checked, by rw [returned]; rfl⟩

theorem expectedType_isOk (type : ∀ value, members.lookup "type" = some value →
    ∃ name ∈ schemaTypes, value = .string name) : ∃ expected, expectedType members = .ok expected := by
  cases found : members.lookup "type" with
  | none => exact ⟨none, by rw [expectedType, found]⟩
  | some value =>
    obtain ⟨name, known, rfl⟩ := type value found
    refine ⟨some name, expectedType_eq_ok.mpr ⟨type, fun other => ?_⟩⟩
    rw [found]
    simp

theorem applies_iff {keywords types : List String}
    (typed : ∀ name, expected = some name ↔ members.lookup "type" = some (.string name)) :
    ¬ ((keywords.any fun keyword => (members.lookup keyword).isSome) ∧
        ∀ type ∈ types, expected ≠ some type) ↔
      ∀ keyword ∈ keywords, Applies members keyword types := by
  simp only [List.any_eq_true, not_and, not_forall, not_not, Applies, ← typed, forall_exists_index,
    and_imp, exists_prop]

theorem validateKeywordApplicability_eq_ok
    (typed : ∀ name, expected = some name ↔ members.lookup "type" = some (.string name)) :
    validateKeywordApplicability members expected = .ok () ↔
      (∀ keyword ∈ ["properties", "required", "additionalProperties"],
        Applies members keyword ["object"]) ∧
      (∀ keyword ∈ ["items", "maxItems"], Applies members keyword ["array"]) ∧
      (∀ keyword ∈ ["minLength", "maxLength"], Applies members keyword ["string"]) ∧
      ∀ keyword ∈ ["minimum", "maximum"], Applies members keyword ["number", "integer"] := by
  rw [← applies_iff typed, ← applies_iff typed, ← applies_iff typed, ← applies_iff typed]
  simp only [validateKeywordApplicability, bind_eq_ok, refuseIf_eq_ok, exists_unit, List.mem_cons,
    List.not_mem_nil, or_false, forall_eq, forall_eq_or_imp]

theorem repeatsValue_eq_false {earlier values : List Json} :
    repeatsValue earlier values = false ↔
      (∀ first ∈ earlier, ∀ second ∈ values, ¬ first.equal second) ∧
      values.Pairwise fun first second => ¬ first.equal second := by
  induction values generalizing earlier with
  | nil => simp [repeatsValue]
  | cons value rest ih =>
    rw [repeatsValue, Bool.or_eq_false_iff, ih, List.pairwise_cons]
    simp only [List.any_eq_false, List.mem_append, List.mem_cons, List.not_mem_nil, or_false]
    constructor
    · rintro ⟨apart, others, later⟩
      refine ⟨fun first inside second there => ?_, fun second there => others value (.inr rfl) second there,
        later⟩
      rcases there with rfl | there
      · exact apart first inside
      · exact others first (.inl inside) second there
    · rintro ⟨apart, others, later⟩
      refine ⟨fun first inside => apart first inside value (.inl rfl), fun first inside second there => ?_,
        later⟩
      rcases inside with inside | rfl
      · exact apart first inside second (.inr there)
      · exact others second there

theorem allowedValues_eq_ok {allowed : Option (List Json)} : allowedValues members = .ok allowed ↔
    (∀ value, members.lookup "enum" = some value → ∃ allowed, value = .array allowed ∧ allowed ≠ [] ∧
      allowed.Pairwise fun first second => ¬ first.equal second) ∧
    ∀ values, allowed = some values ↔ members.lookup "enum" = some (.array values) := by
  rw [allowedValues]
  split
  · rename_i missing
    simp only [missing, reduceCtorEq, false_implies, implies_true, true_and, iff_false,
      Except.ok.injEq]
    exact ⟨fun same => by simp [← same], fun none_ => (Option.eq_none_iff_forall_ne_some.mpr none_).symm⟩
  · rename_i values found
    simp only [bind_eq_ok, refuseIf_eq_ok, exists_unit, pure_eq_ok, found, Option.some.injEq, not_or,
      Bool.not_eq_true, repeatsValue_eq_false]
    constructor
    · rintro ⟨⟨nonempty, -, apart⟩, rfl⟩
      refine ⟨?_, fun other => by simp⟩
      rintro _ rfl
      exact ⟨values, rfl, nonempty, apart⟩
    · rintro ⟨known, same⟩
      obtain ⟨others, equal, nonempty, apart⟩ := known _ rfl
      cases equal
      exact ⟨⟨nonempty, by simp, apart⟩, ((same values).mpr rfl).symm⟩
  · rename_i value other found
    simp only [found, reduceCtorEq, false_iff, not_and]
    intro known
    obtain ⟨values, rfl, -⟩ := known value rfl
    exact absurd rfl (other values)

theorem allowedValues_isOk (enum : ∀ value, members.lookup "enum" = some value →
    ∃ allowed, value = .array allowed ∧ allowed ≠ [] ∧
      allowed.Pairwise fun first second => ¬ first.equal second) :
    ∃ allowed, allowedValues members = .ok allowed := by
  cases found : members.lookup "enum" with
  | none => exact ⟨none, by rw [allowedValues, found]⟩
  | some value =>
    obtain ⟨values, rfl, -⟩ := enum value found
    refine ⟨some values, allowedValues_eq_ok.mpr ⟨enum, fun other => ?_⟩⟩
    rw [found]
    simp

/-- Required fields are distinct texts with something in them. -/
theorem requiredFields_eq_ok {seen fields : List String} {required : List Json} (distinct : seen.Nodup) :
    requiredFields seen required = .ok fields ↔ ∃ names : List String,
      required = names.map .string ∧ fields = seen ++ names ∧ (seen ++ names).Nodup ∧ "" ∉ names := by
  induction required generalizing seen with
  | nil =>
    simp only [requiredFields, Except.ok.injEq, List.nil_eq, List.map_eq_nil_iff, exists_eq_left,
      List.append_nil, distinct, List.not_mem_nil, not_false_eq_true, and_true]
    exact eq_comm
  | cons value rest ih =>
    cases value with
    | string field =>
      simp only [requiredFields, bind_eq_ok, refuseIf_eq_ok, exists_unit, not_or]
      constructor
      · rintro ⟨⟨named, fresh⟩, taken⟩
        have fresh' : field ∉ seen := by simpa using fresh
        have distinct' : (seen ++ [field]).Nodup := by
          rw [List.nodup_append]
          exact ⟨distinct, List.nodup_singleton _, fun first inside second last same =>
            fresh' (List.mem_singleton.mp last ▸ same ▸ inside)⟩
        obtain ⟨names, rfl, rfl, apart, absent⟩ := (ih distinct').mp taken
        exact ⟨field :: names, rfl, by simp, by simpa using apart, by
          simp only [List.mem_cons, not_or]
          exact ⟨Ne.symm named, absent⟩⟩
      · rintro ⟨names, same, rfl, apart, absent⟩
        cases names with
        | nil => cases same
        | cons name names =>
          rw [List.map_cons, List.cons.injEq, Json.string.injEq] at same
          obtain ⟨rfl, rfl⟩ := same
          rw [List.mem_cons, not_or] at absent
          have apart' : (seen ++ [field] ++ names).Nodup := by simpa using apart
          have distinct' := List.Nodup.of_append_left apart'
          refine ⟨⟨Ne.symm absent.1, ?_⟩, (ih distinct').mpr ⟨names, rfl, by simp, apart', absent.2⟩⟩
          have fresh := (List.nodup_append.mp distinct').2.2
          simpa using fun inside => fresh field inside field (by simp) rfl
    | _ =>
      simp only [requiredFields, reduceCtorEq, false_iff, not_exists, not_and]
      intro names same
      cases names <;> cases same

theorem objectMembers_eq_ok : objectMembers value = .ok members ↔ value = .object members := by
  cases value <;> simp [objectMembers]

theorem schemaBool_eq_ok {allow : Bool} : schemaBool value = .ok allow ↔ value = .bool allow := by
  cases value <;> simp [schemaBool]

theorem asNumber_eq_ok {number : Number} : asNumber value = .ok number ↔ value = .number number := by
  cases value <;> simp [asNumber]

theorem schemaU64_eq_ok {count : Nat} : schemaU64 value = .ok count ↔ IsCount value count := by
  cases value <;> simp [schemaU64, IsCount]

theorem validateRequired_eq_ok {fields : List String} : validateRequired value = .ok fields ↔
    value = .array (fields.map .string) ∧ fields.Nodup ∧ "" ∉ fields := by
  cases value with
  | array items =>
    rw [validateRequired, requiredFields_eq_ok List.nodup_nil]
    constructor
    · rintro ⟨names, rfl, rfl, distinct, absent⟩
      exact ⟨by simp, distinct, by simpa using absent⟩
    · rintro ⟨same, distinct, absent⟩
      exact ⟨fields, Json.array.inj same, rfl, distinct, absent⟩
  | _ => simp [validateRequired]

end Keywords

section Declarations

variable {members : List (String × Json)} {schema value : Json}
variable {levels visited counted : Nat}

theorem visitProperties_eq_ok {visit : Json → Nat → SchemaCheck Nat} :
    visitProperties visit members visited = .ok counted ↔
      (members.lookup "properties" = none ∧ visited = counted) ∨
      ∃ entries, members.lookup "properties" = some (.object entries) ∧
        entries.foldlM (fun visited property => visit property.2 visited) visited = .ok counted := by
  rw [visitProperties]
  split
  · rename_i missing
    simp [missing]
  · rename_i value found
    simp only [bind_eq_ok, objectMembers_eq_ok, found, reduceCtorEq, false_and, false_or,
      Option.some.injEq]

theorem visitItems_eq_ok {visit : Json → Nat → SchemaCheck Nat} :
    visitItems visit members visited = .ok counted ↔
      (members.lookup "items" = none ∧ visited = counted) ∨
      ∃ items, members.lookup "items" = some items ∧ visit items visited = .ok counted := by
  rw [visitItems]
  split
  · rename_i missing
    simp [missing]
  · rename_i value found
    simp [found]

variable [DoubleText]

theorem schemaNumber_eq_ok {number : Number} :
    schemaNumber value = .ok number ↔ value = .number number ∧ Comparable number := by
  simp only [schemaNumber, bind_eq_ok, asNumber_eq_ok, refuseIf_eq_ok, exists_unit, pure_eq_ok,
    Comparable, ← Option.ne_none_iff_exists']
  constructor
  · rintro ⟨_, same, comparable, rfl⟩
    exact ⟨same, comparable⟩
  · rintro ⟨same, comparable⟩
    exact ⟨number, same, comparable, rfl⟩

/-- A schema is accepted exactly when its keywords are well-formed and the schemas that it nests are
accepted. -/
theorem validateSchemaDeclaration_eq_ok :
    validateSchemaDeclaration (levels + 1) schema visited = .ok counted ↔
    ∃ members, schema = .object members ∧ Declaration members ∧ visited < maxPluginSchemaNodes ∧
      ∃ between, visitProperties (validateSchemaDeclaration levels) members (visited + 1) = .ok between ∧
        visitItems (validateSchemaDeclaration levels) members between = .ok counted := by
  simp only [validateSchemaDeclaration, bind_eq_ok, pure_eq_ok, countNode_eq_ok, schemaMembers_eq_ok]
  constructor
  · rintro ⟨_, ⟨room, rfl⟩, members, ⟨isObject, keywords⟩, expected, expects, _, applies, _, allows, between,
      properties, _, requires, _, adds, last, items, _, limits, least, leasts, most, mosts, _, lengths,
      low, lows, high, highs, _, ordered, rfl⟩
    obtain ⟨type, typed⟩ := expectedType_eq_ok.mp expects
    obtain ⟨onObjects, onArrays, onStrings, onNumbers⟩ :=
      (validateKeywordApplicability_eq_ok typed).mp applies
    obtain ⟨enum, -⟩ := allowedValues_eq_ok.mp allows
    obtain ⟨required, -⟩ := checkKeyword_eq_ok.mp requires
    obtain ⟨additional, -⟩ := checkKeyword_eq_ok.mp adds
    obtain ⟨maxItems, -⟩ := checkKeyword_eq_ok.mp limits
    obtain ⟨minLength, isLeast⟩ := checkKeyword_eq_ok.mp leasts
    obtain ⟨maxLength, isMost⟩ := checkKeyword_eq_ok.mp mosts
    obtain ⟨minimum, isLow⟩ := checkKeyword_eq_ok.mp lows
    obtain ⟨maximum, isHigh⟩ := checkKeyword_eq_ok.mp highs
    simp only [schemaU64_eq_ok, schemaNumber_eq_ok, validateRequired_eq_ok, schemaBool_eq_ok] at *
    refine ⟨members, isObject, ?_, room, between, properties, items⟩
    exact {
      keywords, type, onObjects, onArrays, onStrings, onNumbers, enum, required, additional
      properties := by
        intro value found
        rcases visitProperties_eq_ok.mp properties with ⟨missing, -⟩ | ⟨entries, finds, -⟩
        · cases missing.symm.trans found
        · exact ⟨entries, Option.some.inj (found.symm.trans finds)⟩
      counts := by
        intro keyword inside value found
        simp only [List.mem_cons, List.not_mem_nil, or_false] at inside
        rcases inside with rfl | rfl | rfl
        · exact maxItems value found
        · exact minLength value found
        · exact maxLength value found
      lengths := by
        intro value value' minimum maximum found found' count count'
        rw [(isLeast minimum).mpr ⟨value, found, count⟩, (isMost maximum).mpr ⟨value', found', count'⟩]
          at lengths
        simpa using lengths
      bounds := by
        intro keyword inside value found
        simp only [List.mem_cons, List.not_mem_nil, or_false] at inside
        rcases inside with rfl | rfl
        · exact minimum value found
        · exact maximum value found
      ordered := by
        intro bound bound' found found'
        obtain ⟨_, same, comparable⟩ := minimum _ found
        obtain ⟨_, same', comparable'⟩ := maximum _ found'
        cases same
        cases same'
        rw [(isLow bound).mpr ⟨_, found, rfl, comparable⟩,
          (isHigh bound').mpr ⟨_, found', rfl, comparable'⟩] at ordered
        simpa [AtMost] using ordered }
  · rintro ⟨members, isObject, declaration, room, between, properties, items⟩
    obtain ⟨expected, expects⟩ := expectedType_isOk declaration.type
    have typed := (expectedType_eq_ok.mp expects).2
    obtain ⟨allowed, allows⟩ := allowedValues_isOk declaration.enum
    have applies := (validateKeywordApplicability_eq_ok typed).mpr
      ⟨declaration.onObjects, declaration.onArrays, declaration.onStrings, declaration.onNumbers⟩
    obtain ⟨required, requires⟩ : ∃ result, checkKeyword members "required" validateRequired = .ok result :=
      checkKeyword_isOk fun value found => by
        simpa only [validateRequired_eq_ok] using declaration.required value found
    obtain ⟨additional, adds⟩ :
        ∃ result, checkKeyword members "additionalProperties" schemaBool = .ok result :=
      checkKeyword_isOk fun value found => by
        simpa only [schemaBool_eq_ok] using declaration.additional value found
    have counting : ∀ keyword ∈ ["maxItems", "minLength", "maxLength"],
        ∃ result, checkKeyword members keyword schemaU64 = .ok result := fun keyword inside =>
      checkKeyword_isOk fun value found => by
        simpa only [schemaU64_eq_ok] using declaration.counts keyword inside value found
    have bounding : ∀ keyword ∈ ["minimum", "maximum"],
        ∃ result, checkKeyword members keyword schemaNumber = .ok result := fun keyword inside =>
      checkKeyword_isOk fun value found => by
        simpa only [schemaNumber_eq_ok] using declaration.bounds keyword inside value found
    obtain ⟨limit, limits⟩ := counting "maxItems" (by simp)
    obtain ⟨least, leasts⟩ := counting "minLength" (by simp)
    obtain ⟨most, mosts⟩ := counting "maxLength" (by simp)
    obtain ⟨low, lows⟩ := bounding "minimum" (by simp)
    obtain ⟨high, highs⟩ := bounding "maximum" (by simp)
    refine ⟨_, ⟨room, rfl⟩, members, ⟨isObject, declaration.keywords⟩, expected, expects, (), applies,
      allowed, allows, between, properties, required, requires, additional, adds, counted, items, limit,
      limits, least, leasts, most, mosts, (), ?_, low, lows, high, highs, (), ?_, rfl⟩
    · -- The lengths are in order.
      rw [refuseIf_eq_ok, Option.any_eq_true]
      rintro ⟨minimum, rfl, exceeds⟩
      obtain ⟨maximum, rfl, beyond⟩ := (Option.any_eq_true _ _).mp exceeds
      obtain ⟨value, found, count⟩ := ((checkKeyword_eq_ok.mp leasts).2 minimum).mp rfl
      obtain ⟨value', found', count'⟩ := ((checkKeyword_eq_ok.mp mosts).2 maximum).mp rfl
      have ordered := declaration.lengths value value' minimum maximum found found'
        (schemaU64_eq_ok.mp count) (schemaU64_eq_ok.mp count')
      simp only [gt_iff_lt, decide_eq_true_eq] at beyond
      omega
    · -- The bounds are in order.
      rw [refuseIf_eq_ok, Option.any_eq_true]
      rintro ⟨minimum, rfl, exceeds⟩
      obtain ⟨maximum, rfl, beyond⟩ := (Option.any_eq_true _ _).mp exceeds
      obtain ⟨value, found, bound⟩ := ((checkKeyword_eq_ok.mp lows).2 minimum).mp rfl
      obtain ⟨value', found', bound'⟩ := ((checkKeyword_eq_ok.mp highs).2 maximum).mp rfl
      obtain ⟨rfl, -⟩ := schemaNumber_eq_ok.mp bound
      obtain ⟨rfl, -⟩ := schemaNumber_eq_ok.mp bound'
      have ordered : (compareSchemaNumbers minimum maximum).any Ordering.isLE :=
        declaration.ordered minimum maximum found found'
      rw [ordered] at beyond
      cases beyond

theorem declares_of_ok (accepted : validateSchemaDeclaration levels schema visited = .ok counted) :
    Declares schema := by
  induction levels generalizing schema visited counted with
  | zero => cases accepted
  | succ levels ih =>
    obtain ⟨members, rfl, declaration, -, between, properties, items⟩ :=
      validateSchemaDeclaration_eq_ok.mp accepted
    refine .intro declaration (fun entries found entry inside => ?_) fun value found => ?_
    · rcases visitProperties_eq_ok.mp properties with ⟨missing, -⟩ | ⟨_, finds, visits⟩
      · cases missing.symm.trans found
      · cases finds.symm.trans found
        obtain ⟨_, _, visited⟩ := exists_of_foldlM_eq_ok visits inside
        exact ih visited
    · rcases visitItems_eq_ok.mp items with ⟨missing, -⟩ | ⟨_, finds, visits⟩
      · cases missing.symm.trans found
      · cases finds.symm.trans found
        exact ih visits

/-- A well-formed declaration that stays within the ceilings is accepted, and counts no node twice. -/
theorem ok_of_declares (declares : Declares schema) (shallow : schema.height < levels)
    (room : visited + schema.nodes ≤ maxPluginSchemaNodes) :
    ∃ counted ≤ visited + schema.nodes,
      validateSchemaDeclaration levels schema visited = .ok counted := by
  induction levels generalizing schema visited with
  | zero => cases shallow
  | succ levels ih =>
    obtain ⟨declaration, properties, items⟩ := declares
    rename_i members
    -- The properties and the items are different members, so their nodes are counted apart.
    have apart := @sum_lookup_le String Json _ members ["properties", "items"] (by decide) Json.nodes
    rw [← Json.entryNodes_eq] at apart
    simp only [List.map_cons, List.map_nil, List.sum_cons, List.sum_nil, add_zero] at apart
    have total : (Json.object members).nodes = 1 + Json.entryNodes members := rfl
    have below := Json.height_le_iff.mp (Nat.le_of_lt_succ shallow)
    obtain ⟨between, counts, visitsProperties⟩ : ∃ between ≤
        visited + 1 + (members.lookup "properties").elim 0 Json.nodes,
        visitProperties (validateSchemaDeclaration levels) members (visited + 1) = .ok between := by
      cases found : members.lookup "properties" with
      | none => exact ⟨visited + 1, le_rfl, visitProperties_eq_ok.mpr (.inl ⟨found, rfl⟩)⟩
      | some value =>
        obtain ⟨entries, rfl⟩ := declaration.properties value found
        have weight : (Json.object entries).nodes = 1 + (entries.map fun entry => entry.2.nodes).sum := by
          rw [Json.nodes, Json.entryNodes_eq]
        rw [found, Option.elim_some, weight] at apart
        have high := below _ (Json.mem_children_of_lookup found)
        obtain ⟨between, counts, folded⟩ := @exists_foldlM_le _ _
          (fun visited property => validateSchemaDeclaration levels property.2 visited) entries
          (fun entry => entry.2.nodes) (visited + 1) maxPluginSchemaNodes (by omega)
          fun entry inside before room => by
            have nested : entry.2 ∈ (Json.object entries).children :=
              List.mem_map.mpr ⟨entry, inside, rfl⟩
            have higher := Json.height_lt nested
            exact ih (properties entries found entry inside) (by omega) room
        refine ⟨between, ?_, visitProperties_eq_ok.mpr (.inr ⟨entries, found, folded⟩)⟩
        rw [Option.elim_some, weight]
        omega
    obtain ⟨counted, counting, visits⟩ : ∃ counted ≤ between + (members.lookup "items").elim 0 Json.nodes,
        visitItems (validateSchemaDeclaration levels) members between = .ok counted := by
      cases found : members.lookup "items" with
      | none => exact ⟨between, le_rfl, visitItems_eq_ok.mpr (.inl ⟨found, rfl⟩)⟩
      | some value =>
        rw [found, Option.elim_some] at apart
        have high := below _ (Json.mem_children_of_lookup found)
        obtain ⟨counted, counting, visits⟩ := ih (items value found) (by omega)
          (show between + value.nodes ≤ maxPluginSchemaNodes by omega)
        exact ⟨counted, counting, visitItems_eq_ok.mpr (.inr ⟨value, found, visits⟩)⟩
    exact ⟨counted, by omega, validateSchemaDeclaration_eq_ok.mpr
      ⟨members, rfl, declaration, by omega, between, visitsProperties, visits⟩⟩

end Declarations

end AgentMod
