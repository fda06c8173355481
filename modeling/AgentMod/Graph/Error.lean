import AgentMod.Graph.Definition

/-! Deterministic graph rejections, with the data that each of them reports. -/

namespace AgentMod

/-- Deterministic graph rejection. -/
inductive GraphError where
  | sourceTooLarge (actual maximum : Nat)
  | invalidToml (detail : String)
  | unsupportedVersion (actual supported : Nat)
  | tooManyNodes (actual maximum : Nat)
  | tooManyEdges (actual maximum : Nat)
  | invalidBudget (name : String) (actual maximum : Nat)
  | invalidName (kind value : String) (maximum : Nat)
  | duplicateNode (node : String)
  | unknownEntry (entry : String)
  | unknownEdgeNode (edge node : String)
  | duplicateEdge (edge : String)
  | unreachableNodes (nodes : List String)
  | missingTermination
  | terminalHasOutgoingEdge (node : String)
  | noTerminationPath (nodes : List String)
  | retryLimitExceeded (node : String) (actual maximum : Nat)
  | invalidLoopBound (node : String) (actual : Option Nat) (maximum : Nat)
  | loopBoundOnNonLoop (node : String)
  | undeclaredCapability (node capability : String)
  | runtimeCapabilityUnavailable (capability : String)
  | missingTool (node : String)
  | undeclaredTool (node tool : String)
  | missingProvider (node : String)
  | undeclaredProvider (node provider : String)
  | invalidCondition (owner : String) (error : ParseError)
  | illegalCycle (nodes : List String)
  | parallelNeedsBranches (node : String)
  | conditionalParallelFanout (node target : String)
  | unlabeledParallelFanout (node target : String)
  | duplicateParallelMemberReference (node reference : String)
  | duplicateParallelBranchTarget (node target : String)
  | parallelJoinMemberMismatch (node join : String) (fanoutMembers joinMembers : List String)
  | parallelJoinPolicyMismatch (node join : String)
  | overlappingParallelBranchRegions (node : String) (branches : List String) (sharedNode : String)
  | externalParallelBranchEntry (node branch edgeSource target : String)
  | externalParallelJoinEntry (node join edgeSource : String)
  | parallelBranchTerminalCompletion (node branch terminal : String)
  | parallelBranchBypassesJoin (node branch pathEnd : String)
  | conflictingParallelWrites (node scope : String) (branches : List String)
  | tooManyVariables (actual maximum : Nat)
  | tooManyVariableMergeContributors (variableName : String) (actual maximum : Nat)
  | duplicateVariable (variableName : String)
  | invalidVariableSize (variableName : String) (actual maximum : Nat)
  | invalidVariableType (variableName detail : String)
  | variableTypeTooDeep (variableName : String) (maximum : Nat)
  | unknownVariableProducer (variableName producer : String)
  | unknownVariableMergeContributor (variableName contributor : String)
  | unknownVariableConsumer (variableName consumer : String)
  | invalidVariableMergePolicy (variableName detail : String)
  | invalidVariableScope (variableName detail : String)
  | invalidVariableSecurityClassification (variableName : String)
  | undeclaredVariableRead (node variableName : String)
  | undeclaredVariableWrite (node variableName : String)
  | unauthorizedVariableConsumer (node variableName : String)
  | variableProducerDoesNotWrite (variableName producer : String)
  | variableMergeContributorDoesNotWrite (variableName contributor : String)
  | invalidVariableMergeContributors (variableName detail : String)
  | unauthorizedVariableWriter (node variableName producer : String)
  | invalidEffectOutputType (node variableName detail : String)
  | effectOutputSlotUnavailable (node variableName slot : String)
  | duplicateEffectOutputSlot (node slot : String) (variableNames : List String)
  | ambiguousChildEffectOutput (node : String) (variableNames : List String)
  | configurationVariableNotDeclaredRead (node variableName : String)
  | configurationVariableTypeMismatch (node variableName expected : String)
  | undeclaredConditionVariable (owner variableName : String)
  | conditionVariableNotDeclaredRead (owner variableName : String)
  | configurationKindMismatch (node : String) (expected actual : NodeKind)
  | invalidNodeConfiguration (node detail : String)
  | nodeConfigurationTooLarge (node : String) (actual maximum : Nat)
  | configurationCollectionTooLarge (node field : String) (actual maximum : Nat)
  | nodeConfigurationTooDeep (node field : String) (maximum : Nat)
  | invalidTimestamp (kind value : String)
  | invalidParallelJoinTarget (node joinTarget : String)
  | conflictingParallelVariableWrites (node variableName : String) (branches : List String)
  | unknownParallelMergeVariable (node variableName : String)
  | invalidParallelMergeContributorOwnership (variableName detail : String)
  | parallelMergeContributorPolicyMismatch (variableName node : String)
      (declared : VariableMergePolicy) (configured : Option VariableMergePolicy)
  | undeclaredEventType (node eventType : String)
  | invalidPluginNodeKind (node : String) (configuredKind actualKind : NodeKind)
  | undeclaredPlugin (node pluginId : String)
  | inspection (detail : String)
  deriving DecidableEq, Repr

/-- A compiler pass that accepts, rejects or panics. -/
abbrev Compiled (α : Type) := Fallible GraphError α

/-- A pass that rejects when its condition holds. -/
def rejectIf (refused : Prop) [Decidable refused] (error : GraphError) : Compiled Unit :=
  refuseIf refused (.error error)

@[simp] theorem rejectIf_eq_ok {refused : Prop} [Decidable refused] {error : GraphError}
    {result : Unit} : rejectIf refused error = .ok result ↔ ¬ refused := by
  simp [rejectIf]

/-- Names are bounded, nonempty and spelled in a small ASCII alphabet. -/
def isName (value : String) (maximum : Nat) : Bool :=
  !value.isEmpty && value.utf8ByteSize ≤ maximum &&
    value.toList.all fun character =>
      isAsciiAlphanumeric character || "_.:/-".toList.contains character

/-- Validates one name of the given kind. -/
def validateName (kind value : String) (maximum : Nat) : Compiled Unit :=
  rejectIf (isName value maximum = false) (.invalidName kind value maximum)

@[simp] theorem validateName_eq_ok {kind value : String} {maximum : Nat} {result : Unit} :
    validateName kind value maximum = .ok result ↔ isName value maximum := by
  simp [validateName]

end AgentMod
