import AgentMod.Graph.Sample
import AgentMod.Parallel.Join

/-! A small parallel execution, on which the general results can be observed. -/

namespace AgentMod

/-- A stand-in serializer, which keeps what tells the branches apart. -/
abbrev plainSerde : ParallelSerde where
  branchMaterial _ target _ := .ok (utf8Bytes target.toList)
  dispatchMaterial _ branchId := .ok (utf8Bytes branchId.toList)
  valueBytes _ := .ok []

section Sample

attribute [local instance] plainSerde prefixHash

/-- The work of the sample's parallel node. -/
def sampleWork : NodeWorkIdentity where
  runId := "run-1"
  nodeId := "fan"
  branchPath := []
  attempt := 1
  loopIteration := 0
  step := 1

/-- A branch of the sample that writes nothing. -/
def branchTo (target : String) : ParallelBranchSpec :=
  ⟨target, target, ∅, ∅⟩

/-- A fan-out over one slot, behind which one branch may wait. -/
def narrowFanOut : ParallelBranch where
  maxParallelism := 1
  maxQueueDepth := 1
  joinTarget := "join"
  joinPolicy := .minimumSuccess
  variableMergePolicies := ∅
  serializationPolicy := none

/-- The result of creating the sample's execution. -/
def sampleCreation : Executing ParallelExecutionState :=
  ParallelExecutionState.new sampleWork (.parallelBranch narrowFanOut) [branchTo "left", branchTo "right"] []

/-- The initial state of the sample. -/
def sampleInitial : ParallelExecutionState :=
  sampleCreation.toOption.getD ⟨sampleWork, 0, 0, "", .all, none, ∅, []⟩

/-- The identity of the branch to a target. -/
def sampleBranchId (target : String) : String :=
  "branch:blake3:" ++ (Hashing.digest (utf8Bytes target.toList)).toHex

/-- The dispatch identity of a branch. -/
def sampleDispatchId (branchId : String) : String :=
  "dispatch:blake3:" ++ (Hashing.digest (utf8Bytes branchId.toList)).toHex

/-- The dispatch of the branch to a target. -/
def sampleDispatch (target : String) : ParallelBranchTransition :=
  .dispatch (sampleBranchId target) (sampleDispatchId (sampleBranchId target))

/-- The sample's state behind the dispatch of its left branch. -/
def sampleDispatched : ParallelExecutionState :=
  ((ParallelExecutionState.apply (sampleDispatch "left")).apply sampleInitial).2

end Sample

end AgentMod
