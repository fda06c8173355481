import AgentMod.Library.Sorting
import AgentMod.Primitives.Collections
import AgentMod.Primitives.Text

/-! The classes of information, the sources of a flow, and the decision whether it may reach its sink. -/

namespace AgentMod

/-- Maximum exact source bytes hashed into one flow label. -/
def maxInformationFlowSourceBytes : Nat := 1024 * 1024

/-- Maximum portable reference. -/
def maxInformationFlowReferenceBytes : Nat := 1024

/-- Maximum stable identity. -/
def maxInformationFlowIdentityBytes : Nat := 128

/-- Maximum independently labelled sources of one flow decision. -/
def maxInformationFlowSources : Nat := 128

/-- Stable runtime-owned information-flow class. -/
inductive InformationFlowClassification where
  | «public»
  | internal
  | «private»
  | confidential
  | secretReference
  | secret
  deriving DecidableEq

namespace InformationFlowClassification

/-- Whether this is an ordinary class of the lattice. -/
def isOrdinary : InformationFlowClassification → Bool
  | .public | .internal | .private | .confidential => true
  | .secretReference | .secret => false

/-- Explicit join of ordinary classes. -/
def joinOrdinary (left right : InformationFlowClassification) : Option InformationFlowClassification :=
  if left = .public ∧ right.isOrdinary then some right
  else if right = .public ∧ left.isOrdinary then some left
  else
    match left, right with
    | .internal, .internal => some .internal
    | .internal, .private | .private, .internal | .private, .private => some .private
    | .internal, .confidential | .private, .confidential | .confidential, .confidential => some .confidential
    | .confidential, .internal | .confidential, .private => some .confidential
    | _, _ => none

/-- Whether this ordinary class is at least as restrictive as a source's. -/
def dominatesOrdinary : InformationFlowClassification → InformationFlowClassification → Bool
  | .public, .public => true
  | .internal, .public | .internal, .internal => true
  | .private, .public | .private, .internal | .private, .private => true
  | .confidential, .public | .confidential, .internal | .confidential, .private
  | .confidential, .confidential => true
  | _, _ => false

/-- The height of an ordinary class. -/
def level : InformationFlowClassification → Option Nat
  | .public => some 0
  | .internal => some 1
  | .private => some 2
  | .confidential => some 3
  | .secretReference | .secret => none

/-- One ordinary class is not above another one. -/
def AtMost (left right : InformationFlowClassification) : Prop :=
  ∃ low, left.level = some low ∧ ∃ high, right.level = some high ∧ low ≤ high

end InformationFlowClassification

open InformationFlowClassification

/-- Runtime-owned sink with a bounded clearance. -/
inductive InformationFlowSink where
  | modelProjection
  | frontendProjection
  | pluginInvocation
  | externalNetwork
  | automaticMemory
  | localTool
  | artifact
  | childMessage
  deriving DecidableEq

/-- Maximum ordinary class that a sink admits. -/
def InformationFlowSink.maximumClassification : InformationFlowSink → InformationFlowClassification
  | .externalNetwork => .internal
  | .automaticMemory => .private
  | .modelProjection | .frontendProjection | .pluginInvocation | .localTool | .artifact | .childMessage =>
    .confidential

/-- Whether a sink admits exact secret references in dedicated fields. -/
def InformationFlowSink.permitsSecretReferences (sink : InformationFlowSink) : Bool :=
  sink = .localTool ∨ sink = .childMessage

/-- Exact immutable source label of a flow. -/
structure InformationFlowSource where
  identity : String
  classification : InformationFlowClassification
  secretReference : Bool
  valueHash : ContentHash
  sourceHash : ContentHash
  deriving DecidableEq

/-- Deterministic bounded flow envelope. -/
structure InformationFlowEnvelope where
  identity : String
  sink : InformationFlowSink
  destinationClassification : InformationFlowClassification
  joinedClassification : InformationFlowClassification
  containsSecretReferences : Bool
  sourceHashes : List ContentHash
  envelopeHash : ContentHash
  deriving DecidableEq

/-- Stable fail-closed flow denial class. -/
inductive InformationFlowDenialCode where
  | invalidDestinationClassification
  | sinkClearanceExceeded
  | declassificationProhibited
  | secretReferenceProhibited
  deriving DecidableEq

/-- Deterministic flow decision. -/
inductive InformationFlowDecision where
  | allowed (envelopeHash decisionHash : ContentHash)
  | denied (envelopeHash : ContentHash) (code : InformationFlowDenialCode) (reason : String)
      (offendingSourceHashes : List ContentHash) (decisionHash : ContentHash)
  deriving DecidableEq

/-- Fail-closed information-flow failure. -/
inductive InformationFlowError where
  | invalidReference
  | invalidSource
  | invalidEnvelope
  | hash
  deriving DecidableEq

/-- What a source label is hashed from. -/
structure InformationFlowSourceMaterial where
  identity : String
  classification : InformationFlowClassification
  secretReference : Bool
  secretReferenceHash : Option ContentHash
  valueHash : ContentHash

/-- What an envelope is hashed from. -/
structure InformationFlowEnvelopeMaterial where
  identity : String
  sink : InformationFlowSink
  destinationClassification : InformationFlowClassification
  joinedClassification : InformationFlowClassification
  containsSecretReferences : Bool
  sourceHashes : List ContentHash

/-- What an allowed decision is hashed from. -/
structure InformationFlowAllowedDecisionMaterial where
  decision : String
  envelopeHash : ContentHash

/-- What a denied decision is hashed from. -/
structure InformationFlowDeniedDecisionMaterial where
  decision : String
  envelopeHash : ContentHash
  code : InformationFlowDenialCode
  reason : String
  offendingSourceHashes : List ContentHash

/-- `serde_json::to_vec` of the hashed materials. -/
class InformationFlowSerde where
  sourceToVec : InformationFlowSourceMaterial → Option (List UInt8)
  envelopeToVec : InformationFlowEnvelopeMaterial → Option (List UInt8)
  allowedToVec : InformationFlowAllowedDecisionMaterial → Option (List UInt8)
  deniedToVec : InformationFlowDeniedDecisionMaterial → Option (List UInt8)

/-- The materials, which are made of texts and flags, can all be written. -/
structure InformationFlowSerde.Writes [InformationFlowSerde] : Prop where
  envelope : ∀ material, (envelopeToVec material).isSome
  allowed : ∀ material, (allowedToVec material).isSome
  denied : ∀ material, (deniedToVec material).isSome

/-- Whether a character may stand in an identity or an opaque reference. -/
def isFlowCharacter (character : Char) : Bool :=
  isAsciiAlphanumeric character || character == '.' || character == '_' || character == '-' || character == ':'

/-- Whether a text may identify a flow or a source. -/
def validFlowIdentity (identity : String) : Bool :=
  !identity.isEmpty && identity.utf8ByteSize ≤ maxInformationFlowIdentityBytes &&
    identity.toList.all isFlowCharacter

/-- Whether a text may stand behind the domain of a reference. -/
def validOpaqueReferenceValue (value : List Char) : Bool :=
  !value.isEmpty && utf8Length value ≤ 512 && value.all isFlowCharacter

/-- Validates the only syntax of a secret-reference capability. -/
def isExactSecretReference (reference : String) : Bool :=
  reference.utf8ByteSize ≤ maxInformationFlowReferenceBytes && "secret-ref:".toList.isPrefixOf reference.toList &&
    validOpaqueReferenceValue (reference.toList.drop "secret-ref:".length)

/-- Orders hashes by their hexadecimal digits. -/
def compareHashes (left right : ContentHash) : Ordering := compare left.toHex right.toHex

/-- `Vec::dedup`: keeps one of neighbours that are equal. -/
def dedupNeighbours {α : Type} [DecidableEq α] : List α → List α
  | [] => []
  | item :: rest => if rest.head? = some item then dedupNeighbours rest else item :: dedupNeighbours rest

section Evaluation

variable [InformationFlowSerde] [Hashing]

/-- Hashes material behind its domain. -/
def hashFlowMaterial (domain : String) (material : Option (List UInt8)) :
    Except InformationFlowError ContentHash := do
  let bytes ← okOr material .hash
  return Hashing.digest (utf8Bytes domain.toList ++ bytes)

/-- Builds one exact source label from bounded source bytes. -/
def InformationFlowSource.fromBytes (identity : String) (classification : InformationFlowClassification)
    (value : List UInt8) (secretReference : Option String) : Except InformationFlowError InformationFlowSource := do
  refuseIf (¬ validFlowIdentity identity ∨ ¬ classification.isOrdinary ∨
    value.length > maxInformationFlowSourceBytes) .invalidSource
  refuseIf (secretReference.any fun reference => !isExactSecretReference reference) .invalidReference
  let secretReferenceHash := secretReference.map fun reference => Hashing.digest (utf8Bytes reference.toList)
  let valueHash := Hashing.digest value
  let sourceHash ← hashFlowMaterial "agentmod.information-flow.source@1\x00" (InformationFlowSerde.sourceToVec
    ⟨identity, classification, secretReference.isSome, secretReferenceHash, valueHash⟩)
  return ⟨identity, classification, secretReference.isSome, valueHash, sourceHash⟩

/-- Denies a flow and names the sources that are responsible. -/
def deniedFlowDecision (envelope : InformationFlowEnvelope) (code : InformationFlowDenialCode) (reason : String)
    (offending : List InformationFlowSource) : Except InformationFlowError InformationFlowDecision := do
  let offendingSourceHashes := dedupNeighbours (sortBy compareHashes (offending.map (·.sourceHash)))
  let decisionHash ← hashFlowMaterial "agentmod.information-flow.decision@1\x00" (InformationFlowSerde.deniedToVec
    ⟨"denied", envelope.envelopeHash, code, reason, offendingSourceHashes⟩)
  return .denied envelope.envelopeHash code reason offendingSourceHashes decisionHash

/-- Decides whether a flow may reach its sink. -/
def flowDecision (envelope : InformationFlowEnvelope) (sources : List InformationFlowSource) :
    Except InformationFlowError InformationFlowDecision :=
  let maximum := envelope.sink.maximumClassification
  let destination := envelope.destinationClassification
  if ¬ destination.isOrdinary then
    deniedFlowDecision envelope .invalidDestinationClassification
      "destination classification is not an ordinary v1 class" sources
  else if ¬ maximum.dominatesOrdinary destination ∨ ¬ maximum.dominatesOrdinary envelope.joinedClassification then
    let offending := sources.filter fun source => !maximum.dominatesOrdinary source.classification
    deniedFlowDecision envelope .sinkClearanceExceeded
      "source or destination exceeds the bounded sink clearance" (if offending = [] then sources else offending)
  else if ¬ destination.dominatesOrdinary envelope.joinedClassification then
    deniedFlowDecision envelope .declassificationProhibited
      "destination classification does not dominate every source"
      (sources.filter fun source => !destination.dominatesOrdinary source.classification)
  else if envelope.containsSecretReferences ∧ ¬ envelope.sink.permitsSecretReferences then
    deniedFlowDecision envelope .secretReferenceProhibited
      "sink does not admit secret-reference capabilities" (sources.filter (·.secretReference))
  else do
    let decisionHash ← hashFlowMaterial "agentmod.information-flow.decision@1\x00"
      (InformationFlowSerde.allowedToVec ⟨"allowed", envelope.envelopeHash⟩)
    return .allowed envelope.envelopeHash decisionHash

/-- Joins one more source. -/
def joinSource (joined : InformationFlowClassification) (source : InformationFlowSource) :
    Except InformationFlowError InformationFlowClassification :=
  okOr (joined.joinOrdinary source.classification) .invalidEnvelope

/-- Evaluates one deterministic flow envelope that declassifies nothing. -/
def evaluateInformationFlow (identity : String) (sink : InformationFlowSink)
    (destination : InformationFlowClassification) (sources : List InformationFlowSource) :
    Except InformationFlowError (InformationFlowEnvelope × InformationFlowDecision) := do
  refuseIf (¬ validFlowIdentity identity ∨ sources = [] ∨ sources.length > maxInformationFlowSources ∨
    sources.any fun source => !validFlowIdentity source.identity || !source.classification.isOrdinary)
    .invalidEnvelope
  let joined ← sources.foldlM joinSource .public
  let sourceHashes := sortBy compareHashes (sources.map (·.sourceHash))
  refuseIf (¬ sourceHashes.Nodup) .invalidEnvelope
  let containsSecretReferences := sources.any (·.secretReference)
  let envelopeHash ← hashFlowMaterial "agentmod.information-flow.envelope@1\x00" (InformationFlowSerde.envelopeToVec
    ⟨identity, sink, destination, joined, containsSecretReferences, sourceHashes⟩)
  let envelope := ⟨identity, sink, destination, joined, containsSecretReferences, sourceHashes, envelopeHash⟩
  let decision ← flowDecision envelope sources
  return (envelope, decision)

end Evaluation

/-- Whether a source exceeds the bound whose violation a denial stands for. -/
def InformationFlowSource.Exceeds (source : InformationFlowSource) (sink : InformationFlowSink)
    (destination : InformationFlowClassification) : InformationFlowDenialCode → Prop
  | .invalidDestinationClassification => False
  | .sinkClearanceExceeded => ¬ source.classification.AtMost sink.maximumClassification
  | .declassificationProhibited => ¬ source.classification.AtMost destination
  | .secretReferenceProhibited => source.secretReference ∧ ¬ sink.permitsSecretReferences

/-- What permits a flow: its classes rise from the sources to the sink, which admits their references. -/
structure Permitted (sink : InformationFlowSink) (destination : InformationFlowClassification)
    (sources : List InformationFlowSource) : Prop where
  rising : ∀ source ∈ sources, source.classification.AtMost destination
  cleared : destination.AtMost sink.maximumClassification
  references : (∃ source ∈ sources, source.secretReference) → sink.permitsSecretReferences

/-- What a denial says: its bound is violated, it names some of the sources, and exactly those that exceed the
bound where any does. -/
structure Denies (sink : InformationFlowSink) (destination : InformationFlowClassification)
    (sources : List InformationFlowSource) (code : InformationFlowDenialCode) (offending : List ContentHash) :
    Prop where
  violated : (∃ source ∈ sources, source.Exceeds sink destination code) ∨
    code = .invalidDestinationClassification ∧ destination.isOrdinary = false ∨
    code = .sinkClearanceExceeded ∧ ¬ destination.AtMost sink.maximumClassification
  filled : offending ≠ []
  named : ∀ hash ∈ offending, ∃ source ∈ sources, source.sourceHash = hash
  exactly : (∃ source ∈ sources, source.Exceeds sink destination code) → ∀ hash, hash ∈ offending ↔
    ∃ source ∈ sources, source.Exceeds sink destination code ∧ source.sourceHash = hash

/-- Sources that make up a valid envelope: some, not too many, ordinary, well named and distinct. -/
structure AdmissibleSources (identity : String) (sources : List InformationFlowSource) : Prop where
  named : validFlowIdentity identity
  filled : sources ≠ []
  bounded : sources.length ≤ maxInformationFlowSources
  wellNamed : ∀ source ∈ sources, validFlowIdentity source.identity
  ordinary : ∀ source ∈ sources, source.classification.isOrdinary
  distinct : (sources.map (·.sourceHash)).Nodup

end AgentMod
