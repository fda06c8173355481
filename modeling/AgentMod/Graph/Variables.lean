import AgentMod.Expression.Parser
import AgentMod.Graph.Configuration
import AgentMod.Graph.Structure

/-! Validation of variable declarations and of every access to variables. -/

namespace AgentMod

section Declarations

variable (limits : CompilerLimits)

/-- Validates the bounds of a variable's type, whose nesting starts at the given depth. -/
def validateVariableType (variableName : String) : VariableValueType → Nat → Compiled Unit
  | .enum values, depth => do
    rejectIf (depth > limits.maxValueDepth) (.variableTypeTooDeep variableName limits.maxValueDepth)
    rejectIf (values.isEmpty ∨ values.size > limits.maxConfigurationItems)
      (.invalidVariableType variableName
        "enum values must be non-empty and within the collection bound")
    forM values.toList fun value => validateName "enum value" value limits.maxNameBytes
  | .list itemType maxItems, depth => do
    rejectIf (depth > limits.maxValueDepth) (.variableTypeTooDeep variableName limits.maxValueDepth)
    rejectIf (maxItems = 0 ∨ maxItems > limits.maxConfigurationItems)
      (.invalidVariableType variableName "list max_items must be within the collection bound")
    validateVariableType variableName itemType (depth + 1)
  | .map valueType maxEntries, depth => do
    rejectIf (depth > limits.maxValueDepth) (.variableTypeTooDeep variableName limits.maxValueDepth)
    rejectIf (maxEntries = 0 ∨ maxEntries > limits.maxConfigurationItems)
      (.invalidVariableType variableName "map max_entries must be within the collection bound")
    validateVariableType variableName valueType (depth + 1)
  | _, depth =>
    rejectIf (depth > limits.maxValueDepth) (.variableTypeTooDeep variableName limits.maxValueDepth)

/-- Validates that secret references are classified as such, and nothing else is. -/
def validateVariableSecurity (declaration : VariableDeclaration) : Compiled Unit :=
  let isSecretReference := declaration.valueType == .secretReference
  let isSecretClassification := declaration.securityClassification == .secretReference
  rejectIf (isSecretReference ≠ isSecretClassification)
    (.invalidVariableSecurityClassification declaration.name)

/-- Whether a merge policy can merge values of a type. -/
def VariableMergePolicy.isCompatible : VariableMergePolicy → VariableValueType → Bool
  | .append, .list _ _ | .union, .list _ _ | .deepMerge, .map _ _ | .firstBranch, _ => true
  | _, _ => false

/-- The debug text of a merge policy. -/
def VariableMergePolicy.toDebug : VariableMergePolicy → String
  | .append => "Append"
  | .union => "Union"
  | .deepMerge => "DeepMerge"
  | .firstBranch => "FirstBranch"

/-- Validates a declared merge policy against the variable's type. -/
def validateVariableMergePolicy (declaration : VariableDeclaration) : Compiled Unit := do
  match declaration.mergePolicy with
  | none => return ()
  | some policy =>
    rejectIf (declaration.mutability ≠ .mutable)
      (.invalidVariableMergePolicy declaration.name "a merged variable must be mutable")
    rejectIf (!policy.isCompatible declaration.valueType)
      (.invalidVariableMergePolicy declaration.name ("merge policy \x60" ++ policy.toDebug ++
        "\x60 is incompatible with the declared value type"))

/-- The members of the branches in front of their common join, where these hold the producer. -/
def branchesWithProducer (graph : StringMap (List String)) (nodes : StringMap NodeDefinition)
    (producer : String) (parallel : NodeDefinition) : Compiled (List StringSet) := do
  let branches := neighbours graph parallel.id
  match ← commonJoin branches graph nodes with
  | none => return []
  | some join =>
    let members ← branches.mapM fun branch => branchMembers branch join graph
    return members.filter fun region => region.contains producer

/-- The regions in front of their common join in which a branch-scoped variable is produced. -/
def producerRegions (definition : GraphDefinition) (nodes : StringMap NodeDefinition)
    (producer : String) : Compiled (List StringSet) := do
  let parallels := nodes.values.filter fun node => node.kind == .parallelBranch
  return (← parallels.mapM (branchesWithProducer (adjacency definition) nodes producer)).flatten

/-- The smallest of the regions in which a branch-scoped variable is produced. -/
def scopeRegion (definition : GraphDefinition) (nodes : StringMap NodeDefinition)
    (producer : String) : Compiled (Option StringSet) := do
  let regions ← producerRegions definition nodes producer
  return (regions.insertionSort fun left right => left.size ≤ right.size).head?

/-- Validates that a variable is consumed only inside its scope. -/
def validateVariableScope (definition : GraphDefinition) (nodes : StringMap NodeDefinition)
    (declaration : VariableDeclaration) : Compiled Unit := do
  match declaration.scope with
  | .run | .session => return ()
  | .node =>
    let valid :=
      if declaration.producer = "runtime" then declaration.consumers.size == 1
      else declaration.consumers.toList.all fun consumer => consumer == declaration.producer
    rejectIf (!valid) (.invalidVariableScope declaration.name
      "node-scoped values may be consumed only by their producing node")
  | .branch =>
    rejectIf (declaration.producer = "runtime") (.invalidVariableScope declaration.name
      "branch-scoped values require a graph-node producer")
    let smallest ← scopeRegion definition nodes declaration.producer
    rejectIf (!(smallest.any fun region => declaration.consumers.toList.all region.contains))
      (.invalidVariableScope declaration.name
        "branch-scoped values cannot escape their innermost parallel branch")

/-- Validates what a variable with merge contributors must declare. -/
def validateMergeContributorRequirements (declaration : VariableDeclaration) : Compiled Unit := do
  let invalid (detail : String) : GraphError :=
    .invalidVariableMergeContributors declaration.name detail
  if !declaration.mergeContributors.isEmpty then
    rejectIf (declaration.producer = "runtime")
      (invalid "parallel merge contributors require one graph-node producer")
    rejectIf (declaration.mutability ≠ .mutable)
      (invalid "parallel merge contributors require a mutable variable")
    rejectIf (declaration.scope ≠ .run ∧ declaration.scope ≠ .session)
      (invalid "parallel merge contributors require run or session variable scope")
    rejectIf (declaration.mergePolicy = none)
      (invalid "parallel merge contributors require a declared merge policy")

/-- Validates one additional contributor of a variable. -/
def validateMergeContributor (nodes : StringMap NodeDefinition)
    (declaration : VariableDeclaration) (contributor : String) : Compiled Unit := do
  validateName "variable merge contributor" contributor limits.maxNameBytes
  rejectIf (contributor = declaration.producer) (.invalidVariableMergeContributors declaration.name
    "the singular producer cannot also be an additional merge contributor")
  match nodes[contributor]? with
  | none => reject (.unknownVariableMergeContributor declaration.name contributor)
  | some node =>
    rejectIf (!node.writeVariables.contains declaration.name)
      (.variableMergeContributorDoesNotWrite declaration.name contributor)

/-- Validates the name of a producer other than the runtime. -/
def validateProducerName (producer : String) : Compiled Unit :=
  if producer = "runtime" then return ()
  else validateName "variable producer" producer limits.maxNameBytes

/-- Validates one variable declaration. -/
def validateDeclaration (definition : GraphDefinition) (nodes : StringMap NodeDefinition)
    (declaration : VariableDeclaration) : Compiled Unit := do
  let name := declaration.name
  let producer := declaration.producer
  validateName "variable" name limits.maxNameBytes
  validateProducerName limits producer
  rejectIf (declaration.maxSizeBytes = 0 ∨ declaration.maxSizeBytes > limits.maxConfigurationBytes)
    (.invalidVariableSize name declaration.maxSizeBytes limits.maxConfigurationBytes)
  rejectIf (declaration.mergeContributors.size > limits.maxConfigurationItems)
    (.tooManyVariableMergeContributors name declaration.mergeContributors.size
      limits.maxConfigurationItems)
  validateVariableType limits name declaration.valueType 1
  validateVariableSecurity declaration
  validateVariableMergePolicy declaration
  rejectIf (producer ≠ "runtime" ∧ !nodes.contains producer) (.unknownVariableProducer name producer)
  rejectIf (nodes[producer]?.any fun node => !node.writeVariables.contains name)
    (.variableProducerDoesNotWrite name producer)
  validateMergeContributorRequirements declaration
  forM declaration.mergeContributors.toList (validateMergeContributor limits nodes declaration)
  forM declaration.consumers.toList fun consumer => do
    validateName "variable consumer" consumer limits.maxNameBytes
    rejectIf (!nodes.contains consumer) (.unknownVariableConsumer name consumer)
  rejectIf (declaration.scope = .branch ∧ declaration.mergePolicy.isSome)
    (.invalidVariableMergePolicy name "branch-scoped values cannot declare a shared merge policy")
  validateVariableScope definition nodes declaration

end Declarations

section Access

variable [SerdeJson]

/-- Parses an optional condition and attributes its failure to the owner. -/
def parseCondition (source : Option String) (owner : String) (limits : ExpressionLimits) :
    Compiled (Option Expression) :=
  match source with
  | none => return none
  | some condition =>
    match Expression.parse condition limits with
    | .ok expression => return some expression
    | .error (.error error) => reject (.invalidCondition owner error)
    | .error .panic => .error .panic
    | .error .fuel => .error .fuel

/-- The root variable of a path. -/
def collectPathRoot (path : EnvironmentPath) (roots : StringSet) : StringSet :=
  match path.segments.head? with
  | some (.key root) => roots.insert root
  | _ => roots

/-- The root variable of an operand that is a path. -/
def collectOperandRoot (operand : Operand) (roots : StringSet) : StringSet :=
  match operand with
  | .path path => collectPathRoot path roots
  | .literal _ => roots

/-- The root variables of an expression. -/
def collectExpressionRoots : Expression → StringSet → StringSet
  | .value operand, roots => collectOperandRoot operand roots
  | .not inner, roots => collectExpressionRoots inner roots
  | .and left right, roots | .or left right, roots =>
    collectExpressionRoots right (collectExpressionRoots left roots)
  | .compare left _ right, roots => collectOperandRoot right (collectOperandRoot left roots)
  | .existsPath path, roots => collectPathRoot path roots

/-- The roots that the runtime itself provides to conditions. -/
def isRuntimeConditionRoot (root : String) : Bool :=
  ["session", "model", "runtime", "budget", "node", "loop"].contains root

/-- Validates that a condition reads only runtime roots and declared reads. -/
def validateExpressionVariableAccess (source : Option String) (owner : String)
    (declaredReads : StringSet) (variableMap : StringMap VariableDeclaration)
    (limits : ExpressionLimits) (strictVariableAccess : Bool) : Compiled Unit := do
  match ← parseCondition source owner limits with
  | none => return ()
  | some expression =>
    if strictVariableAccess then
      forM (collectExpressionRoots expression ∅).toList fun root =>
        if isRuntimeConditionRoot root then return ()
        else do
          rejectIf (!variableMap.contains root) (.undeclaredConditionVariable owner root)
          rejectIf (!declaredReads.contains root) (.conditionVariableNotDeclaredRead owner root)

/-- Validates the variable that selects a message's child. -/
def validateConfigurationVariableAccess (node : NodeDefinition)
    (variableMap : StringMap VariableDeclaration) : Compiled Unit := do
  match node.configuration with
  | some (.sendChildAgentMessage message) =>
    match message.child with
    | .exact _ => return ()
    | .variable_ variableName =>
      match variableMap[variableName]? with
      | none => reject (.undeclaredVariableRead node.id variableName)
      | some declaration =>
        rejectIf (!node.readVariables.contains variableName)
          (.configurationVariableNotDeclaredRead node.id variableName)
        rejectIf (!declaration.consumers.contains node.id)
          (.unauthorizedVariableConsumer node.id variableName)
        rejectIf (declaration.valueType ≠ .childId)
          (.configurationVariableTypeMismatch node.id variableName "child_id")
  | _ => return ()

/-- Validates one variable that a node reads. -/
def validateVariableRead (node : NodeDefinition) (variableMap : StringMap VariableDeclaration)
    (variableName : String) : Compiled Unit :=
  match variableMap[variableName]? with
  | none => reject (.undeclaredVariableRead node.id variableName)
  | some declaration =>
    rejectIf (!declaration.consumers.contains node.id)
      (.unauthorizedVariableConsumer node.id variableName)

/-- Validates one variable that a node writes. -/
def validateVariableWrite (node : NodeDefinition) (variableMap : StringMap VariableDeclaration)
    (variableName : String) : Compiled Unit :=
  match variableMap[variableName]? with
  | none => reject (.undeclaredVariableWrite node.id variableName)
  | some declaration =>
    rejectIf (declaration.producer ≠ node.id ∧ !declaration.mergeContributors.contains node.id)
      (.unauthorizedVariableWriter node.id variableName declaration.producer)

/-- Validates the variables that a node reads and writes. -/
def validateNodeVariableAccess (node : NodeDefinition)
    (variableMap : StringMap VariableDeclaration) : Compiled Unit := do
  forM node.readVariables.toList (validateVariableRead node variableMap)
  forM node.writeVariables.toList (validateVariableWrite node variableMap)

/-- Whether a graph opts into checked variable access. -/
def GraphDefinition.strictVariableAccess (definition : GraphDefinition) : Bool :=
  !definition.variables.isEmpty ||
    definition.nodes.any fun node => !node.readVariables.isEmpty || !node.writeVariables.isEmpty

/-- Validates all variable declarations and accesses. -/
def validateVariables (definition : GraphDefinition) (nodes : StringMap NodeDefinition)
    (variableMap : StringMap VariableDeclaration) (limits : CompilerLimits) : Compiled Unit := do
  rejectIf (definition.variables.length > limits.maxVariables)
    (.tooManyVariables definition.variables.length limits.maxVariables)
  forM definition.variables (validateDeclaration limits definition nodes)
  forM definition.nodes fun node => do
    validateNodeVariableAccess node variableMap
    validateConfigurationVariableAccess node variableMap
    validateExpressionVariableAccess node.condition node.id node.readVariables variableMap
      limits.expression definition.strictVariableAccess
  forM definition.edges fun edge =>
    match nodes[edge.source]? with
    | none => .error .panic
    | some source =>
      validateExpressionVariableAccess edge.condition edge.toText source.readVariables variableMap
        limits.expression definition.strictVariableAccess

end Access

section EffectOutputs

/-- The result slots of a runtime effect. -/
inductive EffectOutputSlot where
  | toolResult
  | approvalResult
  | artifactReference
  | childId
  | childIds
  | nodeResult
  | timestamp
  | duration
  deriving DecidableEq

/-- The slots in their declared order. -/
def EffectOutputSlot.all : List EffectOutputSlot :=
  [.toolResult, .approvalResult, .artifactReference, .childId, .childIds, .nodeResult, .timestamp,
    .duration]

/-- The stable name of a slot. -/
def EffectOutputSlot.name : EffectOutputSlot → String
  | .toolResult => "tool_result_reference"
  | .approvalResult => "approval_result"
  | .artifactReference => "artifact_reference"
  | .childId => "child_id"
  | .childIds => "child_ids"
  | .nodeResult => "node_result_reference"
  | .timestamp => "timestamp"
  | .duration => "duration"

/-- The slot that values of a type come from, or why no effect can produce them. -/
def effectOutputSlot : VariableValueType → Except String (Option EffectOutputSlot)
  | .boolean | .integer | .decimal | .string | .enum _ => .ok none
  | .list itemType _ =>
    if itemType = .childId then .ok (some .childIds)
    else if ordinaryEffectOutputType itemType then .ok none
    else .error "ordinary effect-output collections cannot contain runtime-owned slot types"
  | .map valueType _ =>
    if ordinaryEffectOutputType valueType then .ok none
    else .error "ordinary effect-output collections cannot contain runtime-owned slot types"
  | .artifactReference => .ok (some .artifactReference)
  | .childId => .ok (some .childId)
  | .toolResultReference => .ok (some .toolResult)
  | .approvalResult => .ok (some .approvalResult)
  | .nodeResultReference => .ok (some .nodeResult)
  | .timestamp => .ok (some .timestamp)
  | .duration => .ok (some .duration)
  | .sessionId | .taskId | .secretReference =>
    .error "session/task handles and secret references cannot be effect outputs"

/-- Whether a node kind produces a slot natively. -/
def nativeEffectSlotAvailable (kind : NodeKind) : EffectOutputSlot → Bool
  | .toolResult => kind == .toolExecutionGate
  | .approvalResult => kind == .userApproval
  | .artifactReference => kind == .persistArtifact
  | .childId | .childIds => kind == .spawnChildAgent
  | .nodeResult | .timestamp | .duration => kind.impliedCapability.isSome

/-- The slot that one written variable of a node consumes. -/
def writtenSlot (node : NodeDefinition) (variableMap : StringMap VariableDeclaration)
    (variableName : String) : Compiled (Option (EffectOutputSlot × String)) :=
  match variableMap[variableName]? with
  | none => .error .panic
  | some declaration =>
    match effectOutputSlot declaration.valueType with
    | .error detail => reject (.invalidEffectOutputType node.id variableName detail)
    | .ok none => return none
    | .ok (some slot) => do
      rejectIf (!nativeEffectSlotAvailable node.kind slot)
        (.effectOutputSlotUnavailable node.id variableName slot.name)
      return some (slot, variableName)

/-- Validates that each written variable of a node has a slot of its own. -/
def validateNodeEffectOutputs (variableMap : StringMap VariableDeclaration)
    (node : NodeDefinition) : Compiled Unit := do
  if !node.writeVariables.isEmpty then
    let written ← node.writeVariables.toList.mapM (writtenSlot node variableMap)
    let consumers (slot : EffectOutputSlot) : List String :=
      (written.reduceOption.filter fun entry => entry.1 == slot).map Prod.snd
    forM EffectOutputSlot.all fun slot =>
      rejectIf ((consumers slot).length > 1)
        (.duplicateEffectOutputSlot node.id slot.name (consumers slot))
    rejectIf (consumers .childId ≠ [] ∧ consumers .childIds ≠ [])
      (.ambiguousChildEffectOutput node.id
        (Std.ExtTreeSet.ofList (written.reduceOption.map Prod.snd)).toList)

/-- Validates the effect outputs of every node. -/
def validateEffectOutputWrites (nodes : StringMap NodeDefinition)
    (variableMap : StringMap VariableDeclaration) : Compiled Unit :=
  forM nodes.values (validateNodeEffectOutputs variableMap)

end EffectOutputs

end AgentMod
