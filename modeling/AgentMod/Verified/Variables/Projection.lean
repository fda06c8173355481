import AgentMod.Library.Result
import Mathlib.Data.List.Induction
import AgentMod.Variables.Value

/-! What expressions see of a value determines it, for the type that it was validated for. -/

namespace AgentMod

open CanonicalVariableValue

variable {classification : SecurityClassification} {writer : VariableWriter}
  {limits : VariableEnvironmentLimits}

theorem asI64?_ofI64 {value : Int} (bounded : -2 ^ 63 ≤ value ∧ value < 2 ^ 63) :
    (Json.number (.ofI64 value)).asI64? = some value := by
  rw [Number.ofI64]
  split
  · rfl
  · next positive =>
    have small : value.toNat % 2 ^ 64 = value.toNat := Nat.mod_eq_of_lt (by omega)
    simp only [Json.asI64?, small]
    rw [if_pos (by omega), Int.toNat_of_nonneg (by omega)]

theorem asU64?_ofU64 {value : Nat} (bounded : value < 2 ^ 64) :
    (Json.number (.ofU64 value)).asU64? = some value := by
  simp only [Number.ofU64, Json.asU64?]
  rw [Nat.mod_eq_of_lt bounded]

theorem approvalResultOf_text {value : CanonicalApprovalResult} :
    approvalResultOf (some value.text) = .ok value := by
  cases value <;> rfl

theorem insertEntry_append {key : String} {value : CanonicalVariableValue}
    {entries : List (String × CanonicalVariableValue)}
    (last : ∀ entry ∈ entries, compare entry.1 key = .lt) :
    insertEntry key value entries = entries ++ [(key, value)] := by
  induction entries with
  | nil => rfl
  | cons entry rest ih =>
    obtain ⟨before, others⟩ := List.forall_mem_cons.mp last
    have behind : compare key entry.1 = .gt := Std.OrientedCmp.gt_of_lt before
    rw [insertEntry, behind, ih others]
    rfl

theorem foldl_insertEntry {entries : List (String × CanonicalVariableValue)}
    (sorted : (entries.map Prod.fst).Pairwise (compare · · = .lt)) :
    entries.foldl (fun map entry => insertEntry entry.1 entry.2 map) [] = entries := by
  induction entries using List.reverseRecOn with
  | nil => rfl
  | append_singleton earlier entry ih =>
    rw [List.map_append, List.pairwise_append] at sorted
    rw [List.foldl_append, ih sorted.1]
    refine insertEntry_append fun other listed => ?_
    exact sorted.2.2 _ (List.mem_map_of_mem listed) _ List.mem_cons_self

/-- A value that holds no others is read back. -/
theorem canonicalValueFromJson_scalar {value : CanonicalVariableValue} {expected : VariableValueType}
    (withinType : value.WithinType) (accepted : validateScalar writer limits value expected = .ok ()) :
    canonicalValueFromJson value.expressionValue expected = .ok value := by
  unfold validateScalar at accepted
  split at accepted
  · rfl
  · -- An integer has 64 bits.
    rw [WithinType] at withinType
    rw [expressionValue, canonicalValueFromJson, asI64?_ofI64 withinType]
    rfl
  · rfl
  · rw [expressionValue, canonicalValueFromJson, Json.asStr?, approvalResultOf_text]
    rfl
  · -- A decimal is its own canonical text.
    simp only [bind_eq_ok, exists_unit, refuseIf_eq_ok, not_not] at accepted
    obtain ⟨_, canonical, isCanonical, rfl⟩ := accepted
    rw [expressionValue, canonicalValueFromJson, Json.asStr?]
    simp only [okOr, bind, Except.bind, isCanonical]
    rfl
  · rfl
  · rfl
  · rfl
  · rfl
  · rfl
  · rfl
  · rfl
  · rfl
  · rw [WithinType] at withinType
    rw [expressionValue, canonicalValueFromJson, asI64?_ofI64 withinType]
    rfl
  · rw [WithinType] at withinType
    rw [expressionValue, canonicalValueFromJson, asU64?_ofU64 withinType]
    rfl
  · cases accepted

theorem validateValueType_list {values : List CanonicalVariableValue} {expected : VariableValueType}
    {depth itemCount counted : Nat}
    (accepted : validateValueType classification writer limits (.list values) expected depth itemCount =
      .ok counted) : ∃ itemType maxItems before, expected = .list itemType maxItems ∧
        validateItems classification writer limits values itemType (depth + 1) before = .ok counted := by
  unfold validateValueType at accepted
  rw [bind_eq_ok] at accepted
  obtain ⟨_, _, accepted⟩ := accepted
  split at accepted
  · simp only [bind_eq_ok, exists_unit] at accepted
    obtain ⟨_, before, _, items⟩ := accepted
    exact ⟨_, _, before, rfl, items⟩
  · cases accepted

theorem validateValueType_map {entries : List (String × CanonicalVariableValue)}
    {expected : VariableValueType} {depth itemCount counted : Nat}
    (accepted : validateValueType classification writer limits (.map entries) expected depth itemCount =
      .ok counted) : ∃ entryType maxEntries before, expected = .map entryType maxEntries ∧
        validateEntries classification writer limits entries entryType (depth + 1) before =
          .ok counted := by
  unfold validateValueType at accepted
  rw [bind_eq_ok] at accepted
  obtain ⟨_, _, accepted⟩ := accepted
  split at accepted
  · simp only [bind_eq_ok, exists_unit] at accepted
    obtain ⟨_, before, _, others⟩ := accepted
    exact ⟨_, _, before, rfl, others⟩
  · cases accepted

theorem validateScalar_of_validateValueType {value : CanonicalVariableValue}
    {expected : VariableValueType} {depth itemCount counted : Nat}
    (isList : ∀ values, value ≠ .list values) (isMap : ∀ entries, value ≠ .map entries)
    (accepted : validateValueType classification writer limits value expected depth itemCount =
      .ok counted) : validateScalar writer limits value expected = .ok () := by
  unfold validateValueType at accepted
  split at accepted
  · exact absurd rfl (isList _)
  · exact absurd rfl (isMap _)
  · simp only [bind_eq_ok, exists_unit] at accepted
    exact accepted.2.1

mutual

/-- A value that its type accepts is read back from what expressions see of it. -/
theorem canonicalValueFromJson_expressionValue : ∀ (value : CanonicalVariableValue)
    (expected : VariableValueType) (depth itemCount counted : Nat), value.WithinType →
    validateValueType classification writer limits value expected depth itemCount = .ok counted →
    canonicalValueFromJson value.expressionValue expected = .ok value
  | .list values, expected, depth, itemCount, counted, withinType, accepted => by
    obtain ⟨itemType, maxItems, before, rfl, items⟩ := validateValueType_list accepted
    rw [WithinType] at withinType
    rw [expressionValue, canonicalValueFromJson]
    simp only [Json.asArray?, okOr, bind, Except.bind]
    rw [mapM_expressionItems values itemType _ _ _ withinType items]
    rfl
  | .map entries, expected, depth, itemCount, counted, withinType, accepted => by
    obtain ⟨entryType, maxEntries, before, rfl, others⟩ := validateValueType_map accepted
    rw [WithinType] at withinType
    rw [expressionValue, canonicalValueFromJson]
    simp only [Json.asObject?, okOr, bind, Except.bind]
    rw [mapM_expressionEntries entries entryType _ _ _ withinType.2 others]
    simp only [foldl_insertEntry withinType.1]
    rfl
  | .boolean _, expected, _, _, _, withinType, accepted
  | .integer _, expected, _, _, _, withinType, accepted
  | .decimal _, expected, _, _, _, withinType, accepted
  | .string _, expected, _, _, _, withinType, accepted
  | .enum _, expected, _, _, _, withinType, accepted
  | .sessionId _, expected, _, _, _, withinType, accepted
  | .childId _, expected, _, _, _, withinType, accepted
  | .taskId _, expected, _, _, _, withinType, accepted
  | .artifactReference _, expected, _, _, _, withinType, accepted
  | .secretReference _, expected, _, _, _, withinType, accepted
  | .toolResultReference _, expected, _, _, _, withinType, accepted
  | .approvalResult _, expected, _, _, _, withinType, accepted
  | .nodeResultReference _, expected, _, _, _, withinType, accepted
  | .timestampMillis _, expected, _, _, _, withinType, accepted
  | .durationMillis _, expected, _, _, _, withinType, accepted =>
    canonicalValueFromJson_scalar withinType
      (validateScalar_of_validateValueType (fun _ same => by cases same) (fun _ same => by cases same)
        accepted)

theorem mapM_expressionItems : ∀ (values : List CanonicalVariableValue)
    (itemType : VariableValueType) (depth itemCount counted : Nat), ItemsWithinType values →
    validateItems classification writer limits values itemType depth itemCount = .ok counted →
    (expressionItems values).mapM (canonicalValueFromJson · itemType) = .ok values
  | [], _, _, _, _, _, _ => rfl
  | value :: rest, itemType, depth, itemCount, counted, withinType, accepted => by
    rw [validateItems, bind_eq_ok] at accepted
    obtain ⟨middle, first, others⟩ := accepted
    rw [ItemsWithinType] at withinType
    rw [expressionItems, List.mapM_cons,
      canonicalValueFromJson_expressionValue value itemType depth itemCount middle withinType.1 first]
    simp only [bind, Except.bind]
    rw [mapM_expressionItems rest itemType depth middle counted withinType.2 others]
    rfl

theorem mapM_expressionEntries : ∀ (entries : List (String × CanonicalVariableValue))
    (entryType : VariableValueType) (depth itemCount counted : Nat), EntriesWithinType entries →
    validateEntries classification writer limits entries entryType depth itemCount = .ok counted →
    (expressionEntries entries).mapM (fun entry =>
      (entry.1, ·) <$> canonicalValueFromJson entry.2 entryType) = .ok entries
  | [], _, _, _, _, _, _ => rfl
  | (key, value) :: rest, entryType, depth, itemCount, counted, withinType, accepted => by
    rw [validateEntries] at accepted
    simp only [bind_eq_ok, exists_unit] at accepted
    obtain ⟨_, middle, first, others⟩ := accepted
    rw [EntriesWithinType] at withinType
    rw [expressionEntries, List.mapM_cons,
      canonicalValueFromJson_expressionValue value entryType depth itemCount middle withinType.1 first]
    simp only [bind, Except.bind, Functor.map, Except.map]
    have behind := mapM_expressionEntries rest entryType depth middle counted withinType.2 others
    simp only [Functor.map, Except.map] at behind
    rw [behind]
    rfl

end

/-- The type accepts the value, in some declaration and from some writer. -/
def AcceptsValue (expected : VariableValueType) (value : CanonicalVariableValue) : Prop :=
  ∃ classification writer limits depth itemCount counted,
    validateValueType classification writer limits value expected depth itemCount = .ok counted

/-- A value that its type accepts is read back from what expressions see of it, so that two such values
that expressions see as one are the same. -/
theorem projection_round_trip {left right : CanonicalVariableValue} {expected : VariableValueType}
    (leftRange : left.WithinType) (rightRange : right.WithinType) (acceptsLeft : AcceptsValue expected left)
    (acceptsRight : AcceptsValue expected right) :
    canonicalValueFromJson left.expressionValue expected = .ok left ∧
      (left.expressionValue = right.expressionValue → left = right) := by
  obtain ⟨_, _, _, _, _, _, validatesLeft⟩ := acceptsLeft
  obtain ⟨_, _, _, _, _, _, validatesRight⟩ := acceptsRight
  have readsLeft := canonicalValueFromJson_expressionValue left _ _ _ _ leftRange validatesLeft
  have readsRight := canonicalValueFromJson_expressionValue right _ _ _ _ rightRange validatesRight
  refine ⟨readsLeft, fun same => ?_⟩
  rw [same, readsRight] at readsLeft
  exact (Except.ok.inj readsLeft).symm

section Sample

/-- A map of lists of integers. -/
def sampleMap : CanonicalVariableValue :=
  .map [("a", .list [.integer (-1), .integer 2]), ("b", .list [])]

/-- The type of the sample. -/
def sampleMapType : VariableValueType := .map (.list .integer 4) 4

/-- The type of the sample accepts it. -/
instance sampleMap_validated : Fact (returns (validateValueType .public_ .runtime .default sampleMap
    sampleMapType 0 0) (fun _ => true) = true) where
  out := by decide +kernel

/-- The sample is read back from what expressions see of it. -/
theorem projection_round_trip_sample :
    canonicalValueFromJson sampleMap.expressionValue sampleMapType = .ok sampleMap := by
  have withinType : sampleMap.WithinType := by
    simp only [sampleMap, WithinType, EntriesWithinType, ItemsWithinType]
    decide
  obtain ⟨counted, validates, _⟩ := returns_eq_true.mp sampleMap_validated.out
  have accepts : AcceptsValue sampleMapType sampleMap := ⟨_, _, _, _, _, _, validates⟩
  exact (projection_round_trip withinType withinType accepts accepts).1

end Sample

end AgentMod
