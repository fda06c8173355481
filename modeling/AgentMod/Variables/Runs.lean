import AgentMod.Graph.Sample
import AgentMod.Variables.Reducer

/-! Runs of accepted variable events, and what is expected of them. -/

namespace AgentMod

/-- The writer that an event attributes a live change to. -/
def CanonicalVariableEvent.writer : CanonicalVariableEvent → Option VariableWriter
  | .assigned event => some event.writer
  | .merged event => some event.writer
  | .removed event => some event.writer
  | .declared _ | .validationFailed _ => none

/-- An event whose responsible node is replaced by another one. -/
def CanonicalVariableEvent.withNodeId (nodeId : String) :
    CanonicalVariableEvent → CanonicalVariableEvent
  | .declared event => .declared { event with binding := { event.binding with nodeId } }
  | .assigned event => .assigned { event with binding := { event.binding with nodeId } }
  | .merged event => .merged { event with binding := { event.binding with nodeId } }
  | .removed event => .removed { event with binding := { event.binding with nodeId } }
  | .validationFailed event =>
    .validationFailed { event with binding := { event.binding with nodeId } }

/-- Whether an event removes its variable. -/
def CanonicalVariableEvent.isRemoval : CanonicalVariableEvent → Bool
  | .removed _ => true
  | _ => false

/-- Whether an event records that its attempt failed. -/
def CanonicalVariableEvent.isFailure : CanonicalVariableEvent → Bool
  | .validationFailed _ => true
  | _ => false

/-- Whether a declaration permits an event to a writer: its producer, or who may merge for it. -/
def CanonicalVariableEvent.PermittedTo (writer : VariableWriter)
    (declaration : VariableDeclaration) : CanonicalVariableEvent → Prop
  | .merged _ => authorizeReplayedWriter declaration writer = .ok ()
  | .declared _ | .assigned _ | .removed _ | .validationFailed _ =>
    declaration.producer = writer.nodeId

section Reducers

variable [VariableSerde] [Hashing]

/-- The environment after an attempt that is performed directly on it. -/
def CanonicalVariableEnvironment.perform (environment : CanonicalVariableEnvironment) :
    VariableValidationAttempt → VariableCheck CanonicalVariableEnvironment
  | .declare declaration => return { environment with
      declarations := environment.declarations.insertIfNew declaration.name declaration }
  | .assign name writer expectedVersion value => do
    let (assigned, next) := (assign name writer expectedVersion value).apply environment
    let _ ← assigned
    return next
  | .merge name writer expectedVersion branches => do
    let (merged, next) := (mergeBranches name writer expectedVersion branches).apply environment
    let _ ← merged
    return next
  | .remove name _ _ => return { environment with entries := environment.entries.erase name }

namespace CanonicalVariableEventReducer

/-- The reducers that a run starts from. -/
inductive Initial : CanonicalVariableEventReducer → Prop where
  | new {runId : String} {limits : VariableEnvironmentLimits}
      {reducer : CanonicalVariableEventReducer} (created : new runId limits = .ok reducer) :
      Initial reducer
  | initialized {runId : String} {limits : VariableEnvironmentLimits}
      {declarations : List VariableDeclaration}
      {initialValues : List (String × CanonicalVariableValue)}
      {reducer : CanonicalVariableEventReducer}
      (created : initializeReducer runId limits declarations initialValues = .ok reducer) :
      Initial reducer

/-- A reducer accepts an event, and the next reducer is what `apply` leaves. -/
def Accepts (reducer : CanonicalVariableEventReducer) (event : CanonicalVariableEvent)
    (next : CanonicalVariableEventReducer) : Prop :=
  ∃ outcome, reducer.apply event = .ok (next, outcome)

omit [VariableSerde] [Hashing] in
/-- Whether the audit event of a variable's seeded value is outstanding. -/
def awaitsAudit (reducer : CanonicalVariableEventReducer) (name : String) : Bool :=
  reducer.seededInitialAssignmentHashes.contains name &&
    !reducer.observedInitialAssignmentHashes.contains name

/-- Whether an event is the audit of a seeded value. -/
def isSeedAudit (reducer : CanonicalVariableEventReducer) : CanonicalVariableEvent → Bool
  | .assigned event => reducer.observesSeed event
  | _ => false

/-- Whether an event changes the live value of its variable. -/
def changesValue (reducer : CanonicalVariableEventReducer) : CanonicalVariableEvent → Bool
  | .assigned event => !reducer.observesSeed event
  | .merged _ => true
  | .declared _ | .removed _ | .validationFailed _ => false

/-- Whether an event leaves what the snapshot check accepts: the audit of a seeded value; a write
that spares seeded values before their audits, by the runtime only to seeded values or as a first
assignment; a merge of that kind by the producer or an outside node; a removal that spares them. -/
def KeepsReplayable (reducer : CanonicalVariableEventReducer) : CanonicalVariableEvent → Prop
  | .declared _ | .validationFailed _ => True
  | .assigned event => reducer.observesSeed event ∨
    (¬ reducer.awaitsAudit event.binding.variableName ∧
      (event.writer = .runtime → event.binding.priorVersion = none ∨
        reducer.seededInitialAssignmentHashes.contains event.binding.variableName))
  | .merged event => ¬ reducer.awaitsAudit event.binding.variableName ∧
    (event.writer = .runtime →
      reducer.seededInitialAssignmentHashes.contains event.binding.variableName) ∧
    ∀ declaration, reducer.environment.declarations[event.binding.variableName]? =
      some declaration → authorizeReplayedWriter declaration event.writer = .ok ()
  | .removed event => ¬ reducer.awaitsAudit event.binding.variableName

/-- Whether an event names the node of its writer, whose right to the change is declared, and would
be rejected under the name of any other node. -/
structure AttributesWriter (reducer : CanonicalVariableEventReducer)
    (event : CanonicalVariableEvent) (writer : VariableWriter) : Prop where
  node : event.binding.nodeId = writer.nodeId
  authorized : ∃ declaration,
    reducer.environment.declarations[event.binding.variableName]? = some declaration ∧
      event.PermittedTo writer declaration
  tamperProof : ∀ nodeId, nodeId ≠ event.binding.nodeId →
    ¬ ∃ next, reducer.Accepts (event.withNodeId nodeId) next

/-- What the event of an attempt does to the variables: a failure and the audit of a seeded value
leave them, and any other success does what the attempt does directly. -/
structure AgreesWith (reducer : CanonicalVariableEventReducer)
    (attempt : VariableValidationAttempt) (event : CanonicalVariableEvent)
    (next : CanonicalVariableEventReducer) : Prop where
  success : event.isFailure = false → reducer.isSeedAudit event = false →
    reducer.environment.perform attempt = .ok next.environment
  unchanged : event.isFailure ∨ reducer.isSeedAudit event →
    next.environment = reducer.environment ∧ next.removed = reducer.removed

end CanonicalVariableEventReducer

/-- `serde_json::to_vec` fails on no attempt and on no pair of hash maps. -/
structure VariableSerde.Total [VariableSerde] : Prop where
  attempts : ∀ attempt, (VariableSerde.attemptToVec attempt).isSome
  audits : ∀ seeded observed, (VariableSerde.auditToVec seeded observed).isSome

/-- An accepted event between the reducers before and after it. -/
structure VariableStep where
  before : CanonicalVariableEventReducer
  event : CanonicalVariableEvent
  after : CanonicalVariableEventReducer

namespace VariableStep

/-- A step that a run takes from one reducer to the next. -/
def Taken (reducer : CanonicalVariableEventReducer) (step : VariableStep)
    (next : CanonicalVariableEventReducer) : Prop :=
  step.before = reducer ∧ step.after = next ∧ reducer.Accepts step.event next

/-- Whether a step changes the live value of a variable. -/
def changes (name : String) (step : VariableStep) : Bool :=
  step.event.binding.variableName == name && step.before.changesValue step.event

/-- What one step may do to the variables. -/
structure FollowsHistory (step : VariableStep) : Prop where
  /-- A changed value is under the first version, or under the one behind that of the old value. -/
  versions : step.before.changesValue step.event → ∃ entry,
    step.after.environment.entries[step.event.binding.variableName]? = some entry ∧
      entry.version = (step.before.environment.entries[step.event.binding.variableName]?.map
        CanonicalVariableEntry.version).getD 0 + 1
  /-- Failures, audits of seeded values and declarations leave every live entry. -/
  quiet : step.before.changesValue step.event = false → step.event.isRemoval = false →
    step.after.environment.entries = step.before.environment.entries
  /-- A removal leaves a tombstone in place of the live entry. -/
  buried : step.event.isRemoval →
    step.after.removed.contains step.event.binding.variableName ∧
      step.after.environment.entries[step.event.binding.variableName]? = none
  /-- What has a tombstone keeps it, and is not live. -/
  removed : ∀ (name : String) record, step.before.removed[name]? = some record →
    step.after.removed[name]? = some record ∧ step.after.environment.entries[name]? = none
  /-- Immutable live values stay, until they are removed. -/
  immutable : ∀ (name : String) declaration entry,
    step.before.environment.declarations[name]? = some declaration →
    declaration.mutability = .immutable → step.before.environment.entries[name]? = some entry →
    step.after.environment.entries[name]? = some entry ∨ step.after.removed.contains name
  declared : ∀ (name : String) declaration,
    step.before.environment.declarations[name]? = some declaration →
    step.after.environment.declarations[name]? = some declaration
  /-- An event is about its own variable only. -/
  frame : ∀ name, name ≠ step.event.binding.variableName →
    step.after.environment.entries[name]? = step.before.environment.entries[name]? ∧
      step.after.removed[name]? = step.before.removed[name]? ∧
      step.after.environment.declarations[name]? = step.before.environment.declarations[name]?

end VariableStep

/-- A reducer that some run of accepted events reaches. -/
def CanonicalVariableEventReducer.Reachable (reducer : CanonicalVariableEventReducer) : Prop :=
  ∃ start steps, Initial start ∧ Run VariableStep.Taken start steps reducer

end Reducers

/-- The printed form of a flag. -/
def printedFlag (value : Bool) : String :=
  "\x7b\"kind\":\"boolean\",\"value\":" ++ (if value then "true" else "false") ++ "\x7d"

/-- A stand-in serializer, which prints flags and keeps what tells the other data apart. -/
abbrev plainVariables : VariableSerde where
  valueToVec
    | .boolean value => some (utf8Bytes (printedFlag value).toList)
    | _ => none
  declarationToVec declaration := some (utf8Bytes declaration.name.toList)
  attemptToVec attempt := some (utf8Bytes attempt.variableName.toList)
  auditToVec seeded observed := some (utf8Bytes ((seeded.keys ++ observed.keys).flatMap String.toList))

/-- The runtime's flag of the sample. -/
def flagDeclaration : VariableDeclaration where
  name := "flag"
  valueType := .boolean
  scope := .run
  producer := runtimeProducer
  mergeContributors := ∅
  consumers := ∅
  mutability := .mutable
  mergePolicy := none
  maxSizeBytes := 64
  securityClassification := .internal

section Sample

attribute [local instance] plainVariables prefixHash

/-- The sample's reducer, whose flag is seeded. -/
def seededFlag : VariableCheck CanonicalVariableEventReducer :=
  CanonicalVariableEventReducer.initializeReducer "run" .default [flagDeclaration]
    [("flag", .boolean true)]

/-- An event in which a node claims a write of the runtime to the flag. -/
def flagAssigned (nodeId : String) (priorVersion : Option Nat) (version : Nat) (value : Bool) :
    CanonicalVariableEvent :=
  .assigned ⟨⟨"run", nodeId, "flag", priorVersion, some version,
    some (Hashing.digest (utf8Bytes (printedFlag value).toList)), ∅⟩, .runtime, .boolean value⟩

/-- The audit of the seeded flag. -/
def flagAudit : CanonicalVariableEvent := flagAssigned runtimeProducer none 1 true

/-- A write over the seeded flag. -/
def flagCleared (nodeId : String) : CanonicalVariableEvent := flagAssigned nodeId (some 1) 2 false

end Sample

/-- The name of one of many variables. -/
def crowdedName (index : Nat) : String := "v" ++ toString index

/-- One of many flags that the runtime provides. -/
def crowdedVariable (index : Nat) : VariableDeclaration :=
  { flagDeclaration with name := crowdedName index }

/-- A graph of one node with the given number of variables. -/
def crowdedGraph (count : Nat) : GraphDefinition where
  formatVersion := 1
  entry := "done"
  budget := sampleGraph.budget
  declarations := sampleGraph.declarations
  «variables» := (List.range count).map crowdedVariable
  nodes := [.plain "done" .completeTurn]
  edges := []

/-- The keys of that graph's source that stand in front of its variables. -/
def crowdedKeys : List String :=
  ["format_version = 1", "entry = 'done'"] ++ sampleTables.flatten ++
    ["[[nodes]]", "id = 'done'", "kind = 'complete_turn'"]

/-- The table of one of that graph's variables. -/
def crowdedTable (index : Nat) : List String :=
  ["[[variables]]", "name = '" ++ crowdedName index ++ "'", "type.kind = 'boolean'",
   "scope = 'run'", "producer = 'runtime'", "consumers = []", "mutability = 'mutable'",
   "max_size_bytes = 64", "security_classification = 'internal'"]

/-- The source of that graph. -/
def crowdedSource (count : Nat) : String :=
  tomlText (crowdedKeys ++ (List.range count).flatMap crowdedTable)

/-- More variables than the runtime lets pass. -/
def crowd : Nat := 1025

/-- A codec for that graph with so many variables. -/
abbrev crowdedCodec : GraphCodec :=
  codecOf [(crowdedSource crowd, crowdedGraph crowd)] [] []

end AgentMod
