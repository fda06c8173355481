import AgentMod.Parallel.Execution

/-! The generic join: its evaluation and decision, runs of a parallel execution, and members that settle over time. -/

namespace AgentMod

/-- Replay-derived generic join-member state. -/
inductive JoinMemberState where
  | pending
  | completed (completionSequence : Nat) (result : JoinMemberResult)
  | failed (code : String)
  | cancelled (code : String)

namespace JoinMemberState

/-- The member is incomplete. -/
def isPending : JoinMemberState → Bool
  | .pending => true
  | _ => false

/-- The member completed successfully. -/
def isCompleted : JoinMemberState → Bool
  | .completed .. => true
  | _ => false

/-- The member failed terminally. -/
def isFailed : JoinMemberState → Bool
  | .failed _ => true
  | _ => false

/-- The member was cancelled. -/
def isCancelled : JoinMemberState → Bool
  | .cancelled _ => true
  | _ => false

end JoinMemberState

/-- One deterministically projected successful join member. -/
structure ProjectedJoinMember where
  memberId : String
  inlineValue : Option Json
  nodeResultReference : Option String
  artifactReferences : List String

/-- Deterministic successful join descriptor. -/
structure JoinReadyDescriptor where
  results : List ProjectedJoinMember
  successCount : Nat
  failedMembers : List String
  cancelledMembers : List String
  missingMembers : List String
  cancellationTargets : List String

/-- Stable reason a generic join is terminally unsuccessful. -/
inductive JoinTerminalReason where
  | requiredMemberFailed
  | successThresholdImpossible
  | requiredMembersInsufficient
  | timedOut
  deriving DecidableEq

/-- Deterministic failed join descriptor. -/
structure JoinFailureDescriptor where
  reason : JoinTerminalReason
  successCount : Nat
  failedMembers : List String
  cancelledMembers : List String
  missingMembers : List String
  cancellationTargets : List String

/-- Deterministic generic join evaluation. -/
inductive JoinDecision where
  | waiting (missingMembers : List String) (successCount : Nat)
  | ready (descriptor : JoinReadyDescriptor)
  | failed (descriptor : JoinFailureDescriptor)

namespace JoinDecision

/-- The join is ready. -/
def isReady : JoinDecision → Bool
  | .ready _ => true
  | _ => false

/-- The join is terminally unsuccessful. -/
def isFailed : JoinDecision → Bool
  | .failed _ => true
  | _ => false

end JoinDecision

/-- The members of a join by what became of them. -/
structure JoinSnapshot where
  successful : StringSet
  failed : List String
  cancelled : List String
  missing : List String
  requiredFailed : Bool
  requiredTerminal : Bool

/-- Validates the members and the success threshold of a join. -/
def validateJoinConfiguration (required optional : StringSet) (minimumSuccesses : Nat) :
    Executing Unit := do
  let memberCount := required.size + optional.size
  refuseIf (memberCount = 0 ∨ memberCount > maxMembers ∨ ¬ (required ∩ optional).isEmpty ∨
      minimumSuccesses = 0 ∨ minimumSuccesses > memberCount)
    .invalidJoinConfiguration
  forM (required.toList ++ optional.toList) (validateIdentifier "join member")

section Evaluation

variable [ParallelSerde]

/-- Validates what a member state carries. -/
def validateMemberState : JoinMemberState → Executing Unit
  | .pending => return ()
  | .completed completionSequence result => do
    refuseIf (completionSequence = 0) (.invalidCompletionSequence 1 0)
    validateMemberResult result
  | .failed code | .cancelled code => validateCode code

/-- Validates one member of a join. -/
def validateMember (configured : StringSet) (member : String × JoinMemberState) :
    Executing Unit := do
  validateIdentifier "join member" member.1
  validateMemberState member.2
  refuseIf (!configured.contains member.1) (.unexpectedJoinMember member.1)

/-- Sorts the configured members by what became of them. -/
def buildJoinSnapshot (required optional : StringSet) (minimumSuccesses : Nat)
    (members : StringMap JoinMemberState) : Executing JoinSnapshot := do
  validateJoinConfiguration required optional minimumSuccesses
  let configured := required ∪ optional
  forM members.toList (validateMember configured)
  return {
    successful := configured.filter fun member => members[member]?.any (·.isCompleted)
    failed := configured.toList.filter fun member => members[member]?.any (·.isFailed)
    cancelled := configured.toList.filter fun member => members[member]?.any (·.isCancelled)
    missing := configured.toList.filter fun member => members[member]?.all (·.isPending)
    requiredFailed := required.toList.any fun member =>
      members[member]?.any fun state => state.isFailed || state.isCancelled
    requiredTerminal := required.toList.all fun member =>
      members[member]?.any fun state => !state.isPending }

/-- A successful member with its sequence number and its result. -/
def completedMember (members : StringMap JoinMemberState) (memberId : String) :
    Option (String × Nat × JoinMemberResult) :=
  match members[memberId]? with
  | some (.completed completionSequence result) => some (memberId, completionSequence, result)
  | _ => none

/-- The order of successful members under an ordering policy. -/
def JoinOrderingPolicy.order (ordering : JoinOrderingPolicy) :
    String × Nat × JoinMemberResult → String × Nat × JoinMemberResult → Ordering :=
  match ordering with
  | .memberId => compareOn fun member => member.1
  | .completionSequence =>
    compareLex (compareOn fun member => member.2.1) (compareOn fun member => member.1)

/-- The inline value and the node-result reference that a projection selects. -/
def projectValue (projection : JoinResultProjection) (memberId : String)
    (result : JoinMemberResult) : Executing (Option Json × Option String) :=
  match projection with
  | .inline_ => do
    let value ← okOr result.inlineValue (.missingProjectedResult memberId "inline")
    return (some value, none)
  | .nodeReferences => do
    let reference ← okOr result.nodeResultReference
      (.missingProjectedResult memberId "node_references")
    return (none, some reference)
  | .artifactReferences => return (none, none)

/-- The artifacts that a collection policy selects. -/
def collectArtifacts (collection : JoinArtifactCollection) (result : JoinMemberResult) :
    List String :=
  match collection with
  | .none => []
  | .declared => result.declaredArtifactReferences.toList
  | .all => result.artifactReferences.toList

/-- Projects one successful member. -/
def projectMember (projection : JoinResultProjection) (collection : JoinArtifactCollection)
    (member : String × Nat × JoinMemberResult) : Executing ProjectedJoinMember := do
  let (inlineValue, nodeResultReference) ← projectValue projection member.1 member.2.2
  return ⟨member.1, inlineValue, nodeResultReference, collectArtifacts collection member.2.2⟩

/-- Projects the successful members in the configured order. -/
def projectResults (successful : StringSet) (members : StringMap JoinMemberState)
    (ordering : JoinOrderingPolicy) (projection : JoinResultProjection)
    (collection : JoinArtifactCollection) : Executing (List ProjectedJoinMember) :=
  (sortBy ordering.order (successful.toList.filterMap (completedMember members))).mapM
    (projectMember projection collection)

/-- The members that are cancelled behind a decision. -/
def cancellationTargets (cancellationPropagates : Bool) (missing : List String) : List String :=
  if cancellationPropagates then missing else []

/-- The failed decision for a reason. -/
def failureDescriptor (reason : JoinTerminalReason) (snapshot : JoinSnapshot)
    (cancellationPropagates : Bool) : JoinFailureDescriptor where
  reason
  successCount := min snapshot.successful.size maxU32
  failedMembers := snapshot.failed
  cancelledMembers := snapshot.cancelled
  missingMembers := snapshot.missing
  cancellationTargets := cancellationTargets cancellationPropagates snapshot.missing

/-- The reason for which a join has failed already. -/
def terminalReason (policy : JoinFailurePolicy) (threshold : Nat) (snapshot : JoinSnapshot) :
    Option JoinTerminalReason :=
  let possibleSuccesses := snapshot.successful.size + snapshot.missing.length
  match policy with
  | .failFast =>
    if snapshot.requiredFailed then some .requiredMemberFailed
    else if possibleSuccesses < threshold then some .successThresholdImpossible
    else none
  | .minimumSuccess =>
    if possibleSuccesses < threshold then some .successThresholdImpossible else none
  | .waitRequired =>
    if snapshot.requiredTerminal ∧ snapshot.successful.size < threshold then
      some .requiredMembersInsufficient
    else none

/-- Whether a join that has not failed is ready. -/
def isJoinReady (policy : JoinFailurePolicy) (threshold : Nat) (snapshot : JoinSnapshot) : Bool :=
  match policy with
  | .failFast | .waitRequired => snapshot.requiredTerminal && snapshot.successful.size ≥ threshold
  | .minimumSuccess => snapshot.successful.size ≥ threshold

/-- The decision on the members that a snapshot sorts. -/
def decideJoin (join : JoinResults) (members : StringMap JoinMemberState) (timeoutElapsed : Bool)
    (snapshot : JoinSnapshot) : Executing JoinDecision :=
  match terminalReason join.failurePolicy join.minimumSuccesses snapshot with
  | some reason => return .failed (failureDescriptor reason snapshot join.cancellationPropagates)
  | none =>
    if isJoinReady join.failurePolicy join.minimumSuccesses snapshot then do
      let results ← projectResults snapshot.successful members join.orderingPolicy
        join.resultProjection join.artifactCollection
      return .ready {
        results
        successCount := min snapshot.successful.size maxU32
        failedMembers := snapshot.failed
        cancelledMembers := snapshot.cancelled
        missingMembers := snapshot.missing
        cancellationTargets := cancellationTargets join.cancellationPropagates snapshot.missing }
    else if timeoutElapsed then
      return .failed (failureDescriptor .timedOut snapshot join.cancellationPropagates)
    else return .waiting snapshot.missing (min snapshot.successful.size maxU32)

/-- Evaluates a configured generic join from the states of its members. -/
def evaluateJoin (configuration : NodeConfiguration) (members : StringMap JoinMemberState)
    (timeoutElapsed : Bool) : Executing JoinDecision :=
  match configuration with
  | .joinResults join => do
    let snapshot ← buildJoinSnapshot join.required join.optional join.minimumSuccesses members
    decideJoin join members timeoutElapsed snapshot
  | _ => throw (.wrongConfiguration "join_results")

/-- The state of a branch as that of a join member. -/
def ParallelBranchState.member : ParallelBranchState → JoinMemberState
  | .queued | .dispatched | .running => .pending
  | .completed completionSequence result => .completed completionSequence result
  | .failed code => .failed code
  | .cancelled code => .cancelled code

/-- The states of all branches as join members. -/
def ParallelExecutionState.joinMembers (state : ParallelExecutionState) :
    StringMap JoinMemberState :=
  .ofList (state.branches.values.map fun branch => (branch.branchId, branch.state.member))

/-- The references, the branches and the members that the first bindings bind. -/
structure BoundMembers where
  references : StringSet
  branchIds : StringSet
  bound : StringMap JoinMemberState

/-- Binds the member of one binding. -/
def bindMember (membersByBranchId : StringMap JoinMemberState) (collected : BoundMembers)
    (binding : ParallelMemberBinding) : Executing BoundMembers := do
  validateIdentifier "join member reference" binding.configuredReference
  validateIdentifier "branch id" binding.branchId
  validateIdentifier "branch target" binding.targetNodeId
  refuseIf (collected.references.contains binding.configuredReference)
    (.duplicateConfiguredReference binding.configuredReference)
  refuseIf (collected.branchIds.contains binding.branchId) (.duplicateBoundBranch binding.branchId)
  let state ← okOr membersByBranchId[binding.branchId]? (.missingBoundBranch binding.branchId)
  validateMemberState state
  return {
    references := collected.references.insert binding.configuredReference
    branchIds := collected.branchIds.insert binding.branchId
    bound := collected.bound.insert binding.configuredReference state }

/-- The members by the references of the join, from the persisted bindings. -/
def bindParallelJoinMembers (bindings : List ParallelMemberBinding)
    (membersByBranchId : StringMap JoinMemberState) : Executing (StringMap JoinMemberState) := do
  refuseIf (bindings = [] ∨ bindings.length > maxMembers) (.invalidMemberCount bindings.length)
  let collected ← bindings.foldlM (bindMember membersByBranchId) ⟨∅, ∅, ∅⟩
  refuseIf (membersByBranchId.keys.any fun branchId => !collected.branchIds.contains branchId)
    .unexpectedBoundBranch
  return collected.bound

/-- Evaluates a parallel join from the bindings that its fan-out committed. -/
def evaluateBoundParallelJoin (parallelConfiguration joinConfiguration : NodeConfiguration)
    (bindings : List ParallelMemberBinding) (membersByBranchId : StringMap JoinMemberState)
    (timeoutElapsed : Bool) : Executing JoinDecision := do
  let bound ← bindParallelJoinMembers bindings membersByBranchId
  match parallelConfiguration with
  | .parallelBranch parallel =>
    match joinConfiguration with
    | .joinResults join =>
      let boundReferences : StringSet := .ofList bound.keys
      refuseIf (join.required ∪ join.optional ≠ boundReferences) .joinBindingSetMismatch
      refuseIf (parallel.joinPolicy = .all ∧ (¬ join.optional.isEmpty ∨
          join.required ≠ boundReferences ∨ join.minimumSuccesses ≠ boundReferences.size))
        .parallelJoinPolicyMismatch
      refuseIf (parallel.joinPolicy = .minimumSuccess ∧ join.failurePolicy ≠ .minimumSuccess)
        .parallelJoinPolicyMismatch
      evaluateJoin joinConfiguration bound timeoutElapsed
    | _ => throw (.wrongConfiguration "join_results")
  | _ => throw (.wrongConfiguration "parallel_branch")

end Evaluation

/-- What the transitions of a branch never change. -/
def ParallelBranchRecord.identity (branch : ParallelBranchRecord) : ParallelBranchRecord :=
  { branch with state := .queued }

/-- The transition dispatches the branch. -/
def ParallelBranchTransition.dispatches (branchId : String) : ParallelBranchTransition → Bool
  | .dispatch dispatched _ => dispatched == branchId
  | _ => false

namespace ParallelExecutionState

/-- A transition that was applied, with its outcome. -/
abbrev Applied := ParallelBranchTransition × Except ParallelExecutionError Unit

/-- A transition was accepted and dispatched the branch. -/
def dispatched (branchId : String) (applied : Applied) : Bool :=
  applied.1.dispatches branchId && applied.2.isOk

/-- A transition is applied to a state; a dispatch takes a branch that the decision lists as ready. -/
structure Step [ParallelSerde] (state : ParallelExecutionState) (applied : Applied)
    (next : ParallelExecutionState) : Prop where
  ready : ∀ branchId dispatchId, applied.1 = .dispatch branchId dispatchId →
    ∃ descriptor ∈ state.dispatchDecision.ready, descriptor.branchId = branchId
  applies : (apply applied.1).apply state = (applied.2, next)

/-- Every branch that has ended is as it was. -/
def KeepsEnded (state later : ParallelExecutionState) : Prop :=
  ∀ (branchId : String) branch, state.branches[branchId]? = some branch →
    branch.state.isIncomplete = false → later.branches[branchId]? = some branch

/-- The branches of a state are those of the specifications, in their order. -/
structure Holds (state : ParallelExecutionState) (branchSpecs : List ParallelBranchSpec) :
    Prop where
  count : state.branches.size = branchSpecs.length
  each : ∀ entry ∈ branchSpecs.zipIdx, ∃ branch ∈ state.branches.values,
    branch.branchIndex = entry.2 ∧ branch.targetNodeId = entry.1.targetNodeId

/-- The accounts of a run from the initial state to another one. -/
structure Accounted [ParallelSerde] (parallel : ParallelBranch)
    (branchSpecs : List ParallelBranchSpec) (initial : ParallelExecutionState)
    (applied : List Applied) (state : ParallelExecutionState) : Prop where
  /-- The slots in use are within the bound, which is one when the branches are serialized. -/
  bounded : state.activeCount ≤
    if parallel.serializationPolicy.isSome then 1 else parallel.maxParallelism
  /-- A branch that has ended at any time of the run never changes again. -/
  ended : ∀ earlier later middle, applied = earlier ++ later → Run Step initial earlier middle →
    Run Step middle later state → middle.KeepsEnded state
  once : ∀ branchId, applied.countP (dispatched branchId) ≤ 1
  /-- The completed branches are numbered from one without gaps or repeats. -/
  numbered : state.completionSequences.Perm (List.range' 1 state.completionSequences.length)
  /-- The branches are those that were specified, and keep what identifies them. -/
  holds : state.Holds branchSpecs
  kept : ∀ branchId : String, state.branches[branchId]?.map ParallelBranchRecord.identity =
    initial.branches[branchId]?.map ParallelBranchRecord.identity
  /-- Nothing but the branches changes. -/
  fixed : { state with branches := initial.branches } = initial
  /-- A rejected transition changes nothing. -/
  rejected : ∀ transition error next,
    (apply transition).apply state = (.error error, next) → next = state

end ParallelExecutionState

/-- A member of a join is absent or pending. -/
def IsOpen (members : StringMap JoinMemberState) (member : String) : Prop :=
  members[member]?.all (·.isPending)

/-- Later members differ from earlier ones in members only that were open. -/
def Settles (members later : StringMap JoinMemberState) : Prop :=
  ∀ (member : String) state, members[member]? = some state → state.isPending = false →
    later[member]? = some state

namespace JoinResults

/-- The required and the optional members. -/
def configured (join : JoinResults) : StringSet := join.required ∪ join.optional

/-- The number of configured members that completed. -/
def successes (join : JoinResults) (members : StringMap JoinMemberState) : Nat :=
  (join.configured.filter fun member => members[member]?.any (·.isCompleted)).size

/-- What has become of the open members passes the validation of member states. -/
def AdmitsSettled [ParallelSerde] (join : JoinResults) (members later : StringMap JoinMemberState) :
    Prop :=
  ∀ member state, IsOpen members member → later[member]? = some state →
    validateMember join.configured (member, state) = .ok ()

/-- Where the member completed, its result has what the join projects. -/
def Projects (join : JoinResults) (members : StringMap JoinMemberState) (member : String) : Prop :=
  ∀ completionSequence result, members[member]? = some (.completed completionSequence result) →
    ∃ projected, projectValue join.resultProjection member result = .ok projected

/-- Where only the required members are waited for, the success threshold is still missed. -/
def StaysFailed (join : JoinResults) (later : StringMap JoinMemberState) : Prop :=
  join.failurePolicy = .waitRequired → join.successes later < join.minimumSuccesses

/-- The configured members that completed. -/
def successful (join : JoinResults) (members : StringMap JoinMemberState) : List String :=
  join.configured.toList.filter fun member => members[member]?.any (·.isCompleted)

/-- The results of one completed member come before those of another one. -/
def Before (join : JoinResults) (members : StringMap JoinMemberState) (left right : String) : Prop :=
  ∃ first second, completedMember members left = some first ∧
    completedMember members right = some second ∧ join.orderingPolicy.order first second = .lt

/-- The members that a decision names as failed, as cancelled and as missing, and the number of
successful ones: together they are the configured members, each in the part that its state says. -/
structure Parts (join : JoinResults) (members : StringMap JoinMemberState)
    (failed cancelled missing : List String) (successCount : Nat) : Prop where
  each_failed : ∀ member, member ∈ failed ↔
    member ∈ join.configured ∧ members[member]?.any (·.isFailed)
  each_cancelled : ∀ member, member ∈ cancelled ↔
    member ∈ join.configured ∧ members[member]?.any (·.isCancelled)
  each_missing : ∀ member, member ∈ missing ↔ member ∈ join.configured ∧ IsOpen members member
  partition : (join.successful members ++ failed ++ cancelled ++ missing).Perm join.configured.toList
  count : successCount = (join.successful members).length

/-- What a ready join owes to the states of its members. -/
structure SoundReady (join : JoinResults) (members : StringMap JoinMemberState)
    (ready : JoinReadyDescriptor) : Prop where
  parts : join.Parts members ready.failedMembers ready.cancelledMembers ready.missingMembers
    ready.successCount
  enough : join.minimumSuccesses ≤ ready.successCount
  /-- Every successful member has one result, in the configured order. -/
  results : (ready.results.map (·.memberId)).Perm (join.successful members)
  ordered : (ready.results.map (·.memberId)).Pairwise (join.Before members)
  /-- Exactly the missing members are cancelled, when the join propagates its cancellation. -/
  cancels : ready.cancellationTargets =
    if join.cancellationPropagates then ready.missingMembers else []

/-- What a failed join owes to the states of its members. -/
structure SoundFailed (join : JoinResults) (members : StringMap JoinMemberState)
    (failed : JoinFailureDescriptor) : Prop where
  parts : join.Parts members failed.failedMembers failed.cancelledMembers failed.missingMembers
    failed.successCount
  cancels : failed.cancellationTargets =
    if join.cancellationPropagates then failed.missingMembers else []

/-- What a waiting join owes to the states of its members: there is still something to wait for. -/
structure SoundWaiting (join : JoinResults) (members : StringMap JoinMemberState)
    (timeoutElapsed : Bool) (missing : List String) (successCount : Nat) : Prop where
  parts : ∃ failed cancelled, join.Parts members failed cancelled missing successCount
  waits : timeoutElapsed = false
  isOpen : ∃ member ∈ join.configured, IsOpen members member

/-- What a decision on a join owes to the states of its members. -/
def Sound (join : JoinResults) (members : StringMap JoinMemberState) (timeoutElapsed : Bool) :
    JoinDecision → Prop
  | .ready ready => join.SoundReady members ready
  | .failed failed => join.SoundFailed members failed
  | .waiting missing successCount => join.SoundWaiting members timeoutElapsed missing successCount

end JoinResults

/-- The bindings relate the branches of a parallel node and the members of a join one to one. -/
structure BindsOneToOne (bindings : List ParallelMemberBinding)
    (membersByBranchId : StringMap JoinMemberState) (configured : StringSet) : Prop where
  references : (bindings.map (·.configuredReference)).Nodup
  branches : (bindings.map (·.branchId)).Nodup
  configured : ∀ reference, reference ∈ configured ↔ reference ∈ bindings.map (·.configuredReference)
  running : ∀ branchId, (∃ state, membersByBranchId[branchId]? = some state) ↔
    branchId ∈ bindings.map (·.branchId)

/-- The states of the branches under the names of the members that they are bound to. -/
def renameMembers (bindings : List ParallelMemberBinding)
    (membersByBranchId : StringMap JoinMemberState) : StringMap JoinMemberState :=
  .ofList (bindings.filterMap fun binding =>
    membersByBranchId[binding.branchId]?.map (binding.configuredReference, ·))

/-- The names of the branch and of the target of a binding are identifiers. -/
def ParallelMemberBinding.IsNamed (binding : ParallelMemberBinding) : Prop :=
  validateIdentifier "branch id" binding.branchId = .ok () ∧
    validateIdentifier "branch target" binding.targetNodeId = .ok ()

/-- What the policy of a parallel node asks of the join behind it. -/
structure JoinPolicyAgrees (parallel : ParallelBranch) (join : JoinResults) : Prop where
  all : parallel.joinPolicy = .all →
    (∀ member, member ∉ join.optional) ∧ join.minimumSuccesses = join.required.size
  minimumSuccess : parallel.joinPolicy = .minimumSuccess → join.failurePolicy = .minimumSuccess

end AgentMod
