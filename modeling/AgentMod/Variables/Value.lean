import AgentMod.Variables.Declaration

/-! Canonical variable values: their order, their validation, and how those of branches merge. -/

namespace AgentMod

/-- Closed canonical approval result. -/
inductive CanonicalApprovalResult where
  | approved
  | denied
  | cancelled
  | expired
  deriving DecidableEq

/-- A bounded value without external handles or floats. -/
inductive CanonicalVariableValue where
  | boolean (value : Bool)
  | integer (value : Int)
  | decimal (value : String)
  | string (value : String)
  | enum (value : String)
  | list (values : List CanonicalVariableValue)
  /-- A `BTreeMap`, as its entries in the order of their distinct keys. -/
  | map (entries : List (String × CanonicalVariableValue))
  | sessionId (value : String)
  | childId (value : String)
  | taskId (value : String)
  | artifactReference (value : String)
  | secretReference (value : String)
  | toolResultReference (value : String)
  | approvalResult (value : CanonicalApprovalResult)
  | nodeResultReference (value : String)
  | timestampMillis (value : Int)
  | durationMillis (value : Nat)
  deriving Inhabited

namespace CanonicalVariableValue

/-- The position of a value's variant. -/
def variant : CanonicalVariableValue → Nat
  | .boolean _ => 0
  | .integer _ => 1
  | .decimal _ => 2
  | .string _ => 3
  | .enum _ => 4
  | .list _ => 5
  | .map _ => 6
  | .sessionId _ => 7
  | .childId _ => 8
  | .taskId _ => 9
  | .artifactReference _ => 10
  | .secretReference _ => 11
  | .toolResultReference _ => 12
  | .approvalResult _ => 13
  | .nodeResultReference _ => 14
  | .timestampMillis _ => 15
  | .durationMillis _ => 16

mutual

/-- The derived order of values: by their variants, then by what these hold. -/
def order : CanonicalVariableValue → CanonicalVariableValue → Ordering
  | .boolean left, .boolean right => compare left right
  | .integer left, .integer right => compare left right
  | .decimal left, .decimal right => compare left right
  | .string left, .string right => compare left right
  | .enum left, .enum right => compare left right
  | .list left, .list right => orderItems left right
  | .map left, .map right => orderEntries left right
  | .sessionId left, .sessionId right => compare left right
  | .childId left, .childId right => compare left right
  | .taskId left, .taskId right => compare left right
  | .artifactReference left, .artifactReference right => compare left right
  | .secretReference left, .secretReference right => compare left right
  | .toolResultReference left, .toolResultReference right => compare left right
  | .approvalResult left, .approvalResult right => compare left.ctorIdx right.ctorIdx
  | .nodeResultReference left, .nodeResultReference right => compare left right
  | .timestampMillis left, .timestampMillis right => compare left right
  | .durationMillis left, .durationMillis right => compare left right
  | left, right => compare left.variant right.variant

/-- Orders lists item by item. -/
def orderItems : List CanonicalVariableValue → List CanonicalVariableValue → Ordering
  | [], [] => .eq
  | [], _ :: _ => .lt
  | _ :: _, [] => .gt
  | left :: lefts, right :: rights => (order left right).then (orderItems lefts rights)

/-- Orders maps entry by entry. -/
def orderEntries : List (String × CanonicalVariableValue) →
    List (String × CanonicalVariableValue) → Ordering
  | [], [] => .eq
  | [], _ :: _ => .lt
  | _ :: _, [] => .gt
  | (leftKey, left) :: lefts, (rightKey, right) :: rights =>
    ((compare leftKey rightKey).then (order left right)).then (orderEntries lefts rights)

end

mutual

theorem order_eq_eq : ∀ left right : CanonicalVariableValue,
    order left right = .eq ↔ left = right
  | .list lefts, right => by
    cases right <;> simp [order, variant, orderItems_eq_eq lefts]
  | .map lefts, right => by
    cases right <;> simp [order, variant, orderEntries_eq_eq lefts]
  | .approvalResult left, right => by
    cases right <;> simp [order, variant]
    next right => cases left <;> cases right <;> simp [CanonicalApprovalResult.ctorIdx]
  | .boolean _, right | .integer _, right | .decimal _, right | .string _, right | .enum _, right
  | .sessionId _, right | .childId _, right | .taskId _, right | .artifactReference _, right
  | .secretReference _, right | .toolResultReference _, right | .nodeResultReference _, right
  | .timestampMillis _, right | .durationMillis _, right => by
    cases right <;> simp [order, variant]

theorem orderItems_eq_eq : ∀ lefts rights : List CanonicalVariableValue,
    orderItems lefts rights = .eq ↔ lefts = rights
  | [], rights => by cases rights <;> simp [orderItems]
  | left :: lefts, [] => by simp [orderItems]
  | left :: lefts, right :: rights => by
    simp [orderItems, Ordering.then_eq_eq, order_eq_eq left right, orderItems_eq_eq lefts rights]

theorem orderEntries_eq_eq : ∀ lefts rights : List (String × CanonicalVariableValue),
    orderEntries lefts rights = .eq ↔ lefts = rights
  | [], rights => by cases rights <;> simp [orderEntries]
  | (leftKey, left) :: lefts, [] => by simp [orderEntries]
  | (leftKey, left) :: lefts, (rightKey, right) :: rights => by
    simp [orderEntries, Ordering.then_eq_eq, order_eq_eq left right,
      orderEntries_eq_eq lefts rights]

end

instance : DecidableEq CanonicalVariableValue := fun left right =>
  decidable_of_iff _ (order_eq_eq left right)

end CanonicalVariableValue

/-- The canonical text of a decimal, without needless zeros. -/
def canonicalDecimal (input : String) : VariableCheck String := do
  let text := input.toList
  refuseIf (text = [] ∨ input.utf8ByteSize > 128 ∨ text.any ['e', 'E', '+'].contains)
    .invalidDecimal
  let negative := text.head? == some '-'
  let parts := (if negative then text.tail else text).splitOn '.'
  let integer := parts.headD []
  let fraction := parts[1]?
  refuseIf (parts.length > 2 ∨ integer = [] ∨ !integer.all isAsciiDigit ∨
    fraction.any fun digits => digits.isEmpty || !digits.all isAsciiDigit) .invalidDecimal
  let trimmed := integer.dropWhile (· == '0')
  let integer := if trimmed = [] then ['0'] else trimmed
  let fraction := ((fraction.getD []).reverse.dropWhile (· == '0')).reverse
  let zero := integer == ['0'] && fraction.isEmpty
  let sign := if negative && !zero then ['-'] else []
  if fraction = [] then return .ofList (sign ++ integer)
  else return .ofList (sign ++ integer ++ '.' :: fraction)

/-- Validates a reference to an identity. -/
def validateReference (value : String) (limits : VariableEnvironmentLimits) : VariableCheck Unit :=
  refuseIf (value.isEmpty ∨ value.utf8ByteSize > limits.maxReferenceBytes ∨
    value.toList.any isControl) .invalidReference

/-- Counts the items of a collection. -/
def addItems (current added : Nat) (limits : VariableEnvironmentLimits) : VariableCheck Nat := do
  refuseIf (wordBound ≤ current + added) .valueItemLimitExceeded
  refuseIf (current + added > limits.maxValueItems) .valueItemLimitExceeded
  return current + added

/-- Whether the runtime itself records what a writer writes. -/
def VariableWriter.recordsRuntimeValues : VariableWriter → Bool
  | .runtime | .runtimeRecorded _ _ => true
  | .node _ _ => false

/-- Whether a value is a reference to a secret. -/
def CanonicalVariableValue.isSecretReference : CanonicalVariableValue → Bool
  | .secretReference _ => true
  | _ => false

section Types

variable (classification : SecurityClassification) (writer : VariableWriter)
  (limits : VariableEnvironmentLimits)

/-- Validates what every value must meet at its depth, whatever its type. -/
def validateValueHead (value : CanonicalVariableValue) (depth : Nat) : VariableCheck Unit := do
  refuseIf (depth > limits.maxValueDepth) .valueDepthExceeded
  refuseIf (classification = .secretReference ∧ !value.isSecretReference) .securityViolation
  refuseIf (classification ≠ .secretReference ∧ value.isSecretReference) .securityViolation

/-- Validates a value that holds no other values against its type. -/
def validateScalar : CanonicalVariableValue → VariableValueType → VariableCheck Unit
  | .boolean _, .boolean | .integer _, .integer | .string _, .string
  | .approvalResult _, .approvalResult => .ok ()
  | .decimal value, .decimal => do
    refuseIf (value.utf8ByteSize > limits.maxDecimalBytes) .invalidDecimal
    let canonical ← canonicalDecimal value
    refuseIf (canonical ≠ value) .invalidDecimal
  | .enum value, .enum values => refuseIf (!values.contains value) .invalidEnum
  | .sessionId value, .sessionId | .childId value, .childId | .taskId value, .taskId
  | .artifactReference value, .artifactReference | .secretReference value, .secretReference
  | .toolResultReference value, .toolResultReference
  | .nodeResultReference value, .nodeResultReference => validateReference value limits
  | .timestampMillis _, .timestamp | .durationMillis _, .duration =>
    refuseIf (!writer.recordsRuntimeValues) .runtimeRecordedValueRequired
  | _, _ => .error .typeMismatch

/-- Validates a key of a map value. -/
def validateMapKey (key : String) : VariableCheck Unit :=
  refuseIf (key.isEmpty ∨ key.utf8ByteSize > limits.maxMapKeyBytes ∨ key.toList.any isControl)
    .invalidMapKey

mutual

/-- Validates a value against its type, and counts its items behind those counted before. -/
def validateValueType : CanonicalVariableValue → VariableValueType → Nat → Nat → VariableCheck Nat
  | .list values, expected, depth, itemCount => do
    validateValueHead classification limits (.list values) depth
    match expected with
    | .list itemType maxItems =>
      refuseIf (values.length > maxItems) .collectionBoundExceeded
      let counted ← addItems itemCount values.length limits
      validateItems values itemType (depth + 1) counted
    | _ => .error .typeMismatch
  | .map entries, expected, depth, itemCount => do
    validateValueHead classification limits (.map entries) depth
    match expected with
    | .map valueType maxEntries =>
      refuseIf (entries.length > maxEntries) .collectionBoundExceeded
      let counted ← addItems itemCount entries.length limits
      validateEntries entries valueType (depth + 1) counted
    | _ => .error .typeMismatch
  | value, expected, depth, itemCount => do
    validateValueHead classification limits value depth
    validateScalar writer limits value expected
    return itemCount

/-- Validates the items of a list. -/
def validateItems : List CanonicalVariableValue → VariableValueType → Nat → Nat → VariableCheck Nat
  | [], _, _, itemCount => return itemCount
  | value :: rest, itemType, depth, itemCount => do
    let counted ← validateValueType value itemType depth itemCount
    validateItems rest itemType depth counted

/-- Validates the keys and the values of a map. -/
def validateEntries : List (String × CanonicalVariableValue) → VariableValueType → Nat → Nat →
    VariableCheck Nat
  | [], _, _, itemCount => return itemCount
  | (key, value) :: rest, valueType, depth, itemCount => do
    validateMapKey limits key
    let counted ← validateValueType value valueType depth itemCount
    validateEntries rest valueType depth counted

end

end Types

mutual

/-- The artifacts that a value refers to, on top of those already known. -/
def collectArtifactReferences : CanonicalVariableValue → StringSet → StringSet
  | .artifactReference reference, references => references.insert reference
  | .list values, references => collectItemReferences values references
  | .map entries, references => collectEntryReferences entries references
  | _, references => references

/-- The artifacts that the items of a list refer to. -/
def collectItemReferences : List CanonicalVariableValue → StringSet → StringSet
  | [], references => references
  | value :: rest, references =>
    collectItemReferences rest (collectArtifactReferences value references)

/-- The artifacts that the values of a map refer to. -/
def collectEntryReferences : List (String × CanonicalVariableValue) → StringSet → StringSet
  | [], references => references
  | (_, value) :: rest, references =>
    collectEntryReferences rest (collectArtifactReferences value references)

end

/-- The artifacts that a value refers to. -/
def artifactReferences (value : CanonicalVariableValue) : StringSet :=
  collectArtifactReferences value ∅

/-- One branch's contribution to a merge. -/
structure BranchVariableValue where
  branchId : String
  stableOrder : Nat
  value : CanonicalVariableValue
  deriving DecidableEq

/-- Inserts an entry into a map, or replaces the one with its key. -/
def insertEntry (key : String) (value : CanonicalVariableValue) :
    List (String × CanonicalVariableValue) → List (String × CanonicalVariableValue)
  | [] => [(key, value)]
  | (other, held) :: rest =>
    match compare key other with
    | .lt => (key, value) :: (other, held) :: rest
    | .eq => (key, value) :: rest
    | .gt => (other, held) :: insertEntry key value rest

/-- Inserts a value into a `BTreeSet`, listed in the order of the values. -/
def insertValue (value : CanonicalVariableValue) :
    List CanonicalVariableValue → List CanonicalVariableValue
  | [] => [value]
  | other :: rest =>
    match value.order other with
    | .lt => value :: other :: rest
    | .eq => other :: rest
    | .gt => other :: insertValue value rest

mutual

/-- Merges the entries of a map into another map; different values of a key conflict. -/
def deepMerge (target : List (String × CanonicalVariableValue)) :
    List (String × CanonicalVariableValue) →
      VariableCheck (List (String × CanonicalVariableValue))
  | [] => return target
  | (key, value) :: rest => do
    let merged ← deepMergeValue (target.lookup key) value
    deepMerge (insertEntry key merged target) rest

/-- Merges a value with the one that the target holds for its key. -/
def deepMergeValue : Option CanonicalVariableValue → CanonicalVariableValue →
    VariableCheck CanonicalVariableValue
  | none, value => return value
  | some existing, .map source =>
    match existing with
    | .map target => .map <$> deepMerge target source
    | _ => .error .mergeConflict
  | some existing, value => if existing = value then return existing else .error .mergeConflict

end

/-- The items of a branch's list. -/
def branchItems (branch : BranchVariableValue) : VariableCheck (List CanonicalVariableValue) :=
  match branch.value with
  | .list values => .ok values
  | _ => .error .invalidMergeValue

/-- The entries of a branch's map. -/
def branchEntries (branch : BranchVariableValue) :
    VariableCheck (List (String × CanonicalVariableValue)) :=
  match branch.value with
  | .map entries => .ok entries
  | _ => .error .invalidMergeValue

/-- Merges the values of the branches in their order. -/
def mergeValues (policy : VariableMergePolicy) (branches : List BranchVariableValue) :
    VariableCheck CanonicalVariableValue :=
  match policy with
  | .append => do
    let merged ← branches.foldlM (fun merged branch => do
      return merged ++ (← branchItems branch)) []
    return .list merged
  | .union => do
    let merged ← branches.foldlM (fun merged branch => do
      return (← branchItems branch).foldl (fun merged value => insertValue value merged) merged) []
    return .list merged
  | .deepMerge => do
    let merged ← branches.foldlM (fun merged branch => do
      deepMerge merged (← branchEntries branch)) []
    return .map merged
  | .firstBranch => (okOr branches.head? .emptyMerge).map BranchVariableValue.value

/-- The JSON number of an `i64`. -/
def Number.ofI64 (value : Int) : Number :=
  if negative : -2 ^ 63 ≤ value ∧ value < 0 then .negInt value negative
  else .posInt (value.toNat % 2 ^ 64) (Nat.mod_lt _ (by decide))

theorem mod_word_lt (value : Nat) : value % 2 ^ 64 < 2 ^ 64 := Nat.mod_lt _ (by decide)

/-- The JSON number of a `u64`. -/
def Number.ofU64 (value : Nat) : Number := .posInt (value % 2 ^ 64) (mod_word_lt value)

/-- The text of an approval result. -/
def CanonicalApprovalResult.text : CanonicalApprovalResult → String
  | .approved => "approved"
  | .denied => "denied"
  | .cancelled => "cancelled"
  | .expired => "expired"

namespace CanonicalVariableValue

mutual

/-- The value as expressions see it. -/
def expressionValue : CanonicalVariableValue → Json
  | .boolean value => .bool value
  | .integer value | .timestampMillis value => .number (.ofI64 value)
  | .decimal value | .string value | .enum value | .sessionId value | .childId value | .taskId value
  | .artifactReference value | .secretReference value | .toolResultReference value
  | .nodeResultReference value => .string value
  | .list values => .array (expressionItems values)
  | .map entries => .object (expressionEntries entries)
  | .approvalResult value => .string value.text
  | .durationMillis value => .number (.ofU64 value)

/-- The items of a list as expressions see them. -/
def expressionItems : List CanonicalVariableValue → List Json
  | [] => []
  | value :: rest => expressionValue value :: expressionItems rest

/-- The entries of a map as expressions see them. -/
def expressionEntries : List (String × CanonicalVariableValue) → List (String × Json)
  | [] => []
  | (key, value) :: rest => (key, expressionValue value) :: expressionEntries rest

end

end CanonicalVariableValue

/-- `Value::as_bool`. -/
def Json.asBool? : Json → Option Bool
  | bool value => some value
  | _ => none

/-- A text, as the value that a constructor makes of it. -/
def stringValue (value : Json) (constructor : String → CanonicalVariableValue) :
    VariableCheck CanonicalVariableValue :=
  okOr (value.asStr?.map constructor) .typeMismatch

/-- The approval result that a text names. -/
def approvalResultOf : Option String → VariableCheck CanonicalApprovalResult
  | some "approved" => .ok .approved
  | some "denied" => .ok .denied
  | some "cancelled" => .ok .cancelled
  | some "expired" => .ok .expired
  | _ => .error .typeMismatch

/-- Converts a JSON value into the canonical one of a declared type. -/
def canonicalValueFromJson (value : Json) (valueType : VariableValueType) :
    VariableCheck CanonicalVariableValue :=
  match valueType with
  | .boolean => okOr (value.asBool?.map .boolean) .typeMismatch
  | .integer => okOr (value.asI64?.map .integer) .typeMismatch
  | .decimal => do
    let text ← okOr value.asStr? .typeMismatch
    .decimal <$> canonicalDecimal text
  | .string => stringValue value .string
  | .enum _ => stringValue value .enum
  | .list itemType _ => do
    let items ← okOr value.asArray? .typeMismatch
    .list <$> items.mapM (canonicalValueFromJson · itemType)
  | .map entryType _ => do
    let entries ← okOr value.asObject? .typeMismatch
    let converted ← entries.mapM fun entry =>
      (entry.1, ·) <$> canonicalValueFromJson entry.2 entryType
    return .map (converted.foldl (fun map entry => insertEntry entry.1 entry.2 map) [])
  | .sessionId => stringValue value .sessionId
  | .childId => stringValue value .childId
  | .taskId => stringValue value .taskId
  | .artifactReference => stringValue value .artifactReference
  | .secretReference => stringValue value .secretReference
  | .toolResultReference => stringValue value .toolResultReference
  | .approvalResult => .approvalResult <$> approvalResultOf value.asStr?
  | .nodeResultReference => stringValue value .nodeResultReference
  | .timestamp => okOr (value.asI64?.map .timestampMillis) .typeMismatch
  | .duration => okOr (value.asU64?.map .durationMillis) .typeMismatch

namespace CanonicalVariableValue

mutual

/-- The value is one of its types: integers have 64 bits, and maps list distinct keys in their order. -/
def WithinType : CanonicalVariableValue → Prop
  | .integer value | .timestampMillis value => -2 ^ 63 ≤ value ∧ value < 2 ^ 63
  | .durationMillis value => value < 2 ^ 64
  | .list values => ItemsWithinType values
  | .map entries => (entries.map Prod.fst).Pairwise (compare · · = .lt) ∧ EntriesWithinType entries
  | _ => True

/-- The items of a list are values of their types. -/
def ItemsWithinType : List CanonicalVariableValue → Prop
  | [] => True
  | value :: rest => WithinType value ∧ ItemsWithinType rest

/-- The values of a map are values of their types. -/
def EntriesWithinType : List (String × CanonicalVariableValue) → Prop
  | [] => True
  | (_, value) :: rest => WithinType value ∧ EntriesWithinType rest

end

end CanonicalVariableValue

end AgentMod
