import AgentMod.Verified.Variables.History
import AgentMod.Verified.Variables.Replay

/-! What is prepared from an attempt is accepted, and does what the attempt does. -/

namespace AgentMod

section Agreements

variable [VariableSerde] [Hashing] {reducer next : CanonicalVariableEventReducer}
  {environment : CanonicalVariableEnvironment} {declaration : VariableDeclaration}
  {writer : VariableWriter} {nodeId : String}

namespace CanonicalVariableEnvironment

omit [Hashing] in
theorem mergedValue_sortBranches (branches : List BranchVariableValue) :
    environment.mergedValue declaration writer (sortBranches branches) =
      environment.mergedValue declaration writer branches := by
  have empty : sortBranches branches = [] ↔ branches = [] := by
    have sorted : (sortBranches branches).Perm branches := sortBy_perm
    constructor <;> rintro none <;> rw [none] at sorted
    · exact sorted.nil_eq.symm
    · rw [none]
      exact sorted.eq_nil
  simp only [mergedValue, sortBranches_sortBranches, empty]

theorem mergeBranches_sortBranches {name : String} {expectedVersion : Option Nat}
    {branches : List BranchVariableValue} {entry : CanonicalVariableEntry}
    {after : CanonicalVariableEnvironment}
    (merged : (mergeBranches name writer expectedVersion (sortBranches branches)).apply
      environment = (.ok entry, after)) :
    (mergeBranches name writer expectedVersion branches).apply environment =
      (.ok entry, after) := by
  rw [mergeBranches_eq_ok] at merged ⊢
  simpa only [mergedValue_sortBranches] using merged

theorem perform_assign {name : String} {expectedVersion : Option Nat}
    {value : CanonicalVariableValue} {entry : CanonicalVariableEntry}
    {after : CanonicalVariableEnvironment}
    (assigned : (assign name writer expectedVersion value).apply environment =
      (.ok entry, after)) :
    environment.perform (.assign name writer expectedVersion value) = .ok after := by
  simp [perform, assigned, Bind.bind, Except.bind, pure, Except.pure]

theorem perform_merge {name : String} {expectedVersion : Option Nat}
    {branches : List BranchVariableValue} {entry : CanonicalVariableEntry}
    {after : CanonicalVariableEnvironment}
    (merged : (mergeBranches name writer expectedVersion branches).apply environment =
      (.ok entry, after)) :
    environment.perform (.merge name writer expectedVersion branches) = .ok after := by
  simp [perform, merged, Bind.bind, Except.bind, pure, Except.pure]

end CanonicalVariableEnvironment

omit [VariableSerde] in
theorem digestOf_isOk {bytes : Option (List UInt8)} (serializes : bytes.isSome) :
    ∃ hash, digestOf bytes = .ok hash := by
  obtain ⟨content, rfl⟩ := Option.isSome_iff_exists.mp serializes
  exact ⟨Hashing.digest content, rfl⟩

namespace CanonicalVariableEventReducer

theorem observeSeed_isOk (total : VariableSerde.Total) (name : String) (hash : ContentHash) :
    ∃ next, reducer.observeSeed name hash = .ok next := by
  obtain ⟨digest, hashed⟩ := digestOf_isOk (total.audits reducer.seededInitialAssignmentHashes
    (reducer.observedInitialAssignmentHashes.insert name hash))
  simp only [observeSeed, refreshInitialAssignmentAuditStateHash, bind_eq_ok, pure_eq_ok]
  exact ⟨_, digest, hashed, rfl⟩

theorem traceAssigned_isOk (total : VariableSerde.Total) (event : VariableAssignedEvent)
    (hash : ContentHash) : ∃ next, reducer.traceAssigned event hash = .ok next := by
  unfold traceAssigned
  split
  · exact observeSeed_isOk total event.binding.variableName hash
  · exact ⟨reducer, rfl⟩

theorem attempt_of_prepareAssignment {name : String} {expectedVersion : Option Nat}
    {value : CanonicalVariableValue} {event : CanonicalVariableEvent}
    (prepared : reducer.prepareAssignment nodeId name writer expectedVersion value = .ok event) :
    ∃ assigned, event = .assigned assigned ∧
      assigned.binding = reducer.binding nodeId name expectedVersion assigned.binding.newVersion
        assigned.binding.valueHash assigned.binding.artifactReferences ∧
      assigned.writer = writer ∧ assigned.value = value := by
  obtain ⟨_, ⟨audits, entry, _, _, rfl⟩ | ⟨_, entry, environment, assigned, rfl⟩⟩ :=
    prepareAssignment_eq_ok.mp prepared
  · -- Only a first assignment is an audit.
    have first : expectedVersion = none := by
      unfold auditsSeed at audits
      split at audits
      · next runtime => exact runtime.2.2
      · simp [pure, Except.pure] at audits
    exact ⟨_, rfl, by rw [first]; rfl, rfl, rfl⟩
  · obtain ⟨_, writes, _⟩ := CanonicalVariableEnvironment.assign_eq_ok.mp assigned
    exact ⟨_, rfl, by rw [(nextVersion_eq_ok.mp writes.version).1]; rfl, rfl, rfl⟩

/-- What an attempt succeeds with is accepted, and does what the attempt does. -/
theorem Coherent.accepts_prepared (coherent : reducer.Coherent) (total : VariableSerde.Total)
    (identity : isEventIdentity nodeId) {attempt : VariableValidationAttempt}
    {event : CanonicalVariableEvent}
    (prepared : reducer.prepareSuccess nodeId attempt = .ok event) :
    ∃ next, reducer.Accepts event next ∧ reducer.AgreesWith attempt event next := by
  have identities := And.intro coherent.identity identity
  cases attempt with
  | declare declaration =>
    obtain ⟨rfl, admitted, hash, hashed, rfl⟩ := prepareDeclaration_eq_ok.mp prepared
    exact ⟨_, accepts_declared.mpr ⟨coherent.identity, admitted, rfl, hashed, rfl⟩,
      fun _ _ => rfl, by simp [CanonicalVariableEvent.isFailure, isSeedAudit]⟩
  | assign name writer expectedVersion value =>
    obtain ⟨event, rfl, owned, rfl, rfl⟩ := attempt_of_prepareAssignment prepared
    have again : reducer.prepareAssignment event.binding.nodeId event.binding.variableName
        event.writer event.binding.priorVersion event.value = .ok (.assigned event) := by
      rw [owned]
      exact prepared
    have named : event.binding.variableName = name := by rw [owned]; rfl
    have node : event.binding.nodeId = nodeId := by rw [owned]; rfl
    have expected : event.binding.priorVersion = expectedVersion := by rw [owned]; rfl
    subst named node expected
    obtain ⟨kept, ⟨entry, audits⟩ | ⟨entry, environment, assigns⟩⟩ :=
      (prepareAssignment_iff coherent.knows).mp again
    · obtain ⟨next, leads⟩ : ∃ next, reducer.observeSeed event.binding.variableName
          entry.valueHash = .ok next :=
        observeSeed_isOk total event.binding.variableName entry.valueHash
      refine ⟨next, (accepts_assigned coherent.knows).mpr
        ⟨identities, kept, .inl ⟨entry, audits, leads⟩⟩, fun _ quiet => ?_,
        fun _ => observeSeed_frame leads⟩
      rw [isSeedAudit, audits.observes] at quiet
      contradiction
    · obtain ⟨next, leads⟩ : ∃ next, { reducer with environment }.traceAssigned event
          entry.valueHash = .ok next :=
        traceAssigned_isOk total event entry.valueHash
      refine ⟨next, (accepts_assigned coherent.knows).mpr
        ⟨identities, kept, .inr ⟨entry, environment, assigns, leads⟩⟩, fun _ _ => ?_, ?_⟩
      · rw [(traceAssigned_frame leads).1]
        exact CanonicalVariableEnvironment.perform_assign assigns.assigned
      · simp [CanonicalVariableEvent.isFailure, isSeedAudit, assigns.observes]
  | merge name writer expectedVersion branches =>
    obtain ⟨kept, declaration, policy, entry, environment, declared, merges, merged, rfl⟩ :=
      prepareMerge_eq_ok.mp prepared
    obtain ⟨_, writes, _⟩ := CanonicalVariableEnvironment.mergeBranches_eq_ok.mp merged
    have expected := (nextVersion_eq_ok.mp writes.version).1
    refine ⟨{ reducer with environment }, accepts_merged.mpr ⟨identities, kept, declaration, entry,
      environment, declared, merges, sortBranches_sortBranches branches, ?_, rfl, rfl, rfl⟩,
      fun _ _ => ?_, by simp [CanonicalVariableEvent.isFailure, isSeedAudit]⟩
    · rw [← expected]
      exact merged
    · exact CanonicalVariableEnvironment.perform_merge
        (CanonicalVariableEnvironment.mergeBranches_sortBranches merged)
  | remove name writer expectedVersion =>
    obtain ⟨kept, declaration, entry, declared, scope, produces, live, rfl, belongs, fits, rfl⟩ :=
      prepareRemoval_eq_ok.mp prepared
    exact ⟨_, accepts_removed.mpr ⟨identities, kept, declaration, entry, declared, scope, produces,
      live, belongs, fits, rfl, rfl⟩, fun _ _ => rfl,
      by simp [CanonicalVariableEvent.isFailure, isSeedAudit]⟩

theorem Coherent.accepts_failure (coherent : reducer.Coherent) (total : VariableSerde.Total)
    (identity : isEventIdentity nodeId) {attempt : VariableValidationAttempt}
    {error : VariableEnvironmentError}
    (fails : reducer.prepareSuccess nodeId attempt = .error error)
    (room : reducer.validationFailures.length < maxCanonicalVariableFailures) :
    ∃ failure next, reducer.prepareFailure nodeId attempt error = .ok failure ∧
      reducer.Accepts (.validationFailed failure) next ∧
      reducer.AgreesWith attempt (.validationFailed failure) next := by
  obtain ⟨hash, hashed⟩ := digestOf_isOk (total.attempts attempt)
  refine ⟨_, _, by simp only [prepareFailure, attemptHash, hashed]; rfl, accepts_failed.mpr
    ⟨⟨coherent.identity, identity⟩, error, fails, ?_, room, rfl⟩, ?_, fun _ => ⟨rfl, rfl⟩⟩
  · simp only [prepareFailure, attemptHash, hashed]
    rfl
  · simp [CanonicalVariableEvent.isFailure]

end CanonicalVariableEventReducer

open CanonicalVariableEventReducer in
/-- While a failure still fits, every attempt prepares an event that the same reducer accepts. -/
theorem prepare_apply_agree (total : VariableSerde.Total) (reachable : reducer.Reachable)
    (identity : isEventIdentity nodeId) (attempt : VariableValidationAttempt)
    (room : reducer.validationFailures.length < maxCanonicalVariableFailures) :
    ∃ event next outcome, reducer.prepareEvent nodeId attempt = .ok event ∧
      reducer.apply event = .ok (next, outcome) ∧ reducer.AgreesWith attempt event next := by
  have coherent := reachable.coherent
  have identities := And.intro coherent.identity identity
  cases prepared : reducer.prepareSuccess nodeId attempt with
  | ok event =>
    obtain ⟨next, ⟨outcome, applied⟩, agrees⟩ := coherent.accepts_prepared total identity prepared
    exact ⟨event, next, outcome, prepareEvent_eq_ok.mpr ⟨identities, .inl prepared⟩, applied,
      agrees⟩
  | error error =>
    obtain ⟨failure, next, retained, ⟨outcome, applied⟩, agrees⟩ :=
      coherent.accepts_failure total identity prepared room
    exact ⟨_, next, outcome, prepareEvent_eq_ok.mpr ⟨identities, .inr ⟨error, failure, prepared,
      retained, rfl⟩⟩, applied, agrees⟩

end Agreements

section Sample

attribute [local instance] plainVariables prefixHash

theorem total_plainVariables : VariableSerde.Total where
  attempts _ := rfl
  audits _ _ := rfl

/-- The attempt to assign the value that the sample's flag is seeded with. -/
def flagAttempt : VariableValidationAttempt := .assign "flag" .runtime none (.boolean true)

/-- The evaluation of the attempt to audit the sample's seed. -/
instance seededFlag_attempted : Fact ((returns seededFlag fun start =>
    decide (start.validationFailures.length < maxCanonicalVariableFailures) &&
      decide (start.prepareEvent runtimeProducer flagAttempt = .ok flagAudit) &&
      (returns (start.apply flagAudit) fun _ => true) &&
      !returns (start.environment.perform flagAttempt) fun _ => true) = true) where
  out := by decide +kernel

theorem seededFlag_attempt : ∃ reducer : CanonicalVariableEventReducer, reducer.Reachable ∧
    reducer.validationFailures.length < maxCanonicalVariableFailures ∧
    reducer.prepareEvent runtimeProducer flagAttempt = .ok flagAudit ∧
    (∃ applied, reducer.apply flagAudit = .ok applied) ∧
    ∀ after, reducer.environment.perform flagAttempt ≠ .ok after := by
  obtain ⟨start, created, passes⟩ := returns_eq_true.mp seededFlag_attempted.out
  simp only [Bool.and_eq_true, decide_eq_true_eq] at passes
  obtain ⟨⟨⟨room, prepared⟩, accepts⟩, fails⟩ := passes
  obtain ⟨applied, accepted, _⟩ := returns_eq_true.mp accepts
  refine ⟨start, ⟨start, [], .initialized created, Run.nil⟩, room, prepared, ⟨applied, accepted⟩,
    fun after performs => ?_⟩
  simp [returns, performs] at fails

/-- The sample's reducer prepares and accepts the audit of its seed. -/
theorem prepare_apply_agree_sample : ∃ (reducer next : CanonicalVariableEventReducer)
    (event : CanonicalVariableEvent) (outcome : VariableEventApplyOutcome),
    reducer.prepareEvent runtimeProducer flagAttempt = .ok event ∧
      reducer.apply event = .ok (next, outcome) ∧ reducer.AgreesWith flagAttempt event next := by
  obtain ⟨start, reachable, room, _⟩ := seededFlag_attempt
  obtain ⟨event, next, outcome, agrees⟩ := prepare_apply_agree total_plainVariables reachable
    isEventIdentity_runtimeProducer flagAttempt room
  exact ⟨start, next, event, outcome, agrees⟩

/-- An event that succeeds need not do what its attempt does directly: audits do not write. -/
theorem not_prepare_apply_equal : ¬ ∀ (reducer next : CanonicalVariableEventReducer)
    (attempt : VariableValidationAttempt) (event : CanonicalVariableEvent)
    (outcome : VariableEventApplyOutcome), reducer.Reachable →
      reducer.validationFailures.length < maxCanonicalVariableFailures →
      reducer.prepareEvent runtimeProducer attempt = .ok event →
      reducer.apply event = .ok (next, outcome) → event.isFailure = false →
        reducer.environment.perform attempt = .ok next.environment := by
  intro equal
  obtain ⟨start, reachable, room, prepared, ⟨⟨next, outcome⟩, applied⟩, fails⟩ :=
    seededFlag_attempt
  exact fails _ (equal start next _ _ outcome reachable room prepared applied rfl)

end Sample

namespace CanonicalVariableEventReducer

variable [VariableSerde] [Hashing] {reducer next : CanonicalVariableEventReducer}
  {event : CanonicalVariableEvent} {writer : VariableWriter}

theorem accepts_withNodeId (coherent : reducer.Coherent) (accepted : reducer.Accepts event next)
    (change : event.writer = some writer) (written : reducer.isSeedAudit event = false)
    {nodeId : String} (identity : isEventIdentity nodeId) :
    reducer.Accepts (event.withNodeId nodeId) next := by
  cases event with
  | declared event => contradiction
  | validationFailed event => contradiction
  | assigned event =>
    obtain ⟨⟨run, _⟩, kept, ⟨entry, audits, _⟩ | ⟨entry, environment, assigns, leads⟩⟩ :=
      (accepts_assigned coherent.knows).mp accepted
    · rw [isSeedAudit, audits.observes] at written
      contradiction
    · -- No check of a write reads the node.
      refine (accepts_assigned coherent.knows).mpr ⟨⟨run, identity⟩, kept, .inr ⟨entry, environment,
        ⟨assigns.observes, assigns.assigned, ?_⟩, leads⟩⟩
      rw [assigns.owned]
      rfl
  | merged event =>
    obtain ⟨⟨run, _⟩, kept, declaration, entry, environment, merges⟩ := accepts_merged.mp accepted
    refine accepts_merged.mpr ⟨⟨run, identity⟩, kept, declaration, entry, environment,
      merges.declared, merges.policy, merges.sorted, merges.merged, merges.value, ?_, merges.leads⟩
    rw [merges.owned]
    rfl
  | removed event =>
    obtain ⟨⟨run, _⟩, kept, declaration, entry, removes⟩ := accepts_removed.mp accepted
    refine accepts_removed.mpr ⟨⟨run, identity⟩, kept, declaration, entry, removes.declared,
      removes.local_, removes.produces, removes.live, removes.belongs, removes.fits, ?_,
      removes.leads⟩
    rw [removes.owned]
    rfl

omit [VariableSerde] [Hashing] in
theorem exists_other_identity (nodeId : String) :
    ∃ other, other ≠ nodeId ∧ isEventIdentity other := by
  by_cases first : "a" = nodeId
  · exact ⟨"b", by rw [← first]; decide, by decide⟩
  · exact ⟨"a", first, by decide⟩

theorem Coherent.attributes_audit (coherent : reducer.Coherent)
    {event : VariableAssignedEvent} (accepted : reducer.Accepts (.assigned event) next)
    (observes : reducer.observesSeed event) :
    reducer.AttributesWriter (.assigned event) event.writer := by
  obtain ⟨_, _, ⟨entry, audits, _⟩ | ⟨_, _, assigns, _⟩⟩ :=
    (accepts_assigned coherent.knows).mp accepted
  · obtain ⟨runtime, _, _, seed, _⟩ := observesSeed_iff.mp audits.observes
    have node := congrArg CanonicalVariableEventBinding.nodeId audits.owned
    have hash := congrArg CanonicalVariableEventBinding.valueHash audits.owned
    rw [hash] at seed
    obtain ⟨declaration, known, produces⟩ := coherent.producers _ _ seed
    refine ⟨by rw [runtime]; exact node, ⟨declaration, known, ?_⟩, ?_⟩
    · rw [runtime]
      exact produces
    rintro nodeId differs ⟨after, tampered⟩
    obtain ⟨_, _, ⟨_, again, _⟩ | ⟨_, _, assigns, _⟩⟩ :=
      (accepts_assigned coherent.knows).mp tampered
    · have forced := congrArg CanonicalVariableEventBinding.nodeId again.owned
      exact differs (forced.trans node.symm)
    · have quiet : reducer.observesSeed event = false := assigns.observes
      rw [observes] at quiet
      contradiction
  · rw [assigns.observes] at observes
    contradiction

theorem Coherent.producer_of_accepts (coherent : reducer.Coherent)
    (accepted : reducer.Accepts event next) (change : event.writer = some writer)
    (direct : ∀ merge, event ≠ .merged merge) :
    ∃ declaration, reducer.environment.declarations[event.binding.variableName]? =
      some declaration ∧ declaration.producer = writer.nodeId := by
  cases event with
  | declared event => contradiction
  | validationFailed event => contradiction
  | merged event => exact absurd rfl (direct event)
  | assigned event =>
    cases change
    obtain ⟨_, _, ⟨entry, audits, _⟩ | ⟨entry, environment, assigns, _⟩⟩ :=
      (accepts_assigned coherent.knows).mp accepted
    · obtain ⟨declaration, known, produces⟩ :=
        (coherent.attributes_audit accepted audits.observes).authorized
      exact ⟨declaration, known, produces⟩
    · obtain ⟨declaration, writes, _, _, produces, _⟩ :=
        CanonicalVariableEnvironment.assign_eq_ok.mp assigns.assigned
      exact ⟨declaration, writes.declared, produces⟩
  | removed event =>
    cases change
    obtain ⟨_, _, declaration, _, removes⟩ := accepts_removed.mp accepted
    exact ⟨declaration, removes.declared, removes.produces⟩

end CanonicalVariableEventReducer

open CanonicalVariableEventReducer in
/-- An accepted change is bound to the node of its authorized writer exactly where it is the audit
of a seeded value; the writer of an assignment or a removal is always the declared producer. -/
theorem writer_attributed_iff [VariableSerde] [Hashing]
    {reducer next : CanonicalVariableEventReducer} {event : CanonicalVariableEvent}
    {writer : VariableWriter} (reachable : reducer.Reachable)
    (accepted : reducer.Accepts event next) (change : event.writer = some writer) :
    (reducer.AttributesWriter event writer ↔ reducer.isSeedAudit event) ∧
      ((∀ merge, event ≠ .merged merge) →
        ∃ declaration, reducer.environment.declarations[event.binding.variableName]? =
          some declaration ∧ declaration.producer = writer.nodeId) := by
  have coherent := reachable.coherent
  refine ⟨⟨fun attributes => ?_, fun audit => ?_⟩, coherent.producer_of_accepts accepted change⟩
  · -- Any other change is accepted under another name as well.
    by_contra written
    obtain ⟨other, differs, identity⟩ := exists_other_identity event.binding.nodeId
    exact attributes.tamperProof other differs
      ⟨next, accepts_withNodeId coherent accepted change (by simpa using written) identity⟩
  · cases event with
    | assigned event =>
      cases change
      exact coherent.attributes_audit accepted audit
    | _ => simp [isSeedAudit] at audit

section Sample

attribute [local instance] plainVariables prefixHash

/-- The audit of the sample's seed names the runtime, and no other node could claim it. -/
theorem writer_attributed_iff_sample : ∃ start next : CanonicalVariableEventReducer,
    start.Accepts flagAudit next ∧ start.AttributesWriter flagAudit .runtime := by
  obtain ⟨start, next, initial, accepted, audit⟩ := seededFlag_audit
  have reachable : start.Reachable := ⟨start, [], initial, Run.nil⟩
  exact ⟨start, next, accepted, (writer_attributed_iff reachable accepted rfl).1.mpr audit⟩

/-- A write of the runtime is accepted under the name of a node that wrote nothing. -/
theorem not_writer_attributed : ¬ ∀ (reducer next : CanonicalVariableEventReducer)
    (event : CanonicalVariableEvent) (writer : VariableWriter), reducer.Reachable →
      reducer.Accepts event next → event.writer = some writer →
        reducer.AttributesWriter event writer := by
  intro attributed
  obtain ⟨start, next, initial, accepted, _⟩ := seededFlag_cleared
  have attributes := attributed start next _ .runtime ⟨start, [], initial, Run.nil⟩ accepted rfl
  exact absurd attributes.node (by decide)

end Sample

end AgentMod
