import AgentMod.Verified.Variables.Environment
import AgentMod.Variables.Runs

/-! Which events a reducer accepts, and what each of them does. -/

namespace AgentMod

theorem validateEventIdentity_eq_ok {runId nodeId : String} :
    validateEventIdentity runId nodeId = .ok () ↔ isEventIdentity runId ∧ isEventIdentity nodeId := by
  simp only [validateEventIdentity, refuseIf_eq_ok, not_not]

theorem isEventIdentity_runtimeProducer : isEventIdentity runtimeProducer := by
  decide

instance : Std.TransCmp compareBranches :=
  inferInstanceAs (Std.TransCmp (compareLex (compareOn BranchVariableValue.stableOrder)
    (compareOn BranchVariableValue.branchId)))

theorem sortBranches_sortBranches (branches : List BranchVariableValue) :
    sortBranches (sortBranches branches) = sortBranches branches :=
  sortBy_sortBy

namespace CanonicalVariableEventReducer

variable [VariableSerde] [Hashing] {reducer next : CanonicalVariableEventReducer}

/-- A reducer admits a declaration that is new to it, or one whose event is outstanding. -/
def Admits (reducer : CanonicalVariableEventReducer) (declaration : VariableDeclaration) : Prop :=
  let environment := reducer.environment
  (environment.declarations[declaration.name]? = some declaration ∧
    ¬ reducer.observedDeclarations.contains declaration.name) ∨
  (environment.declarations[declaration.name]? = none ∧
    environment.declarations.size < environment.limits.maxVariables ∧
    validateRuntimeDeclaration declaration environment.limits = .ok ())

theorem prepareEvent_eq_ok {nodeId : String} {attempt : VariableValidationAttempt}
    {event : CanonicalVariableEvent} :
    reducer.prepareEvent nodeId attempt = .ok event ↔
      (isEventIdentity reducer.runId ∧ isEventIdentity nodeId) ∧
        (reducer.prepareSuccess nodeId attempt = .ok event ∨
          ∃ error failure, reducer.prepareSuccess nodeId attempt = .error error ∧
            reducer.prepareFailure nodeId attempt error = .ok failure ∧
            .validationFailed failure = event) := by
  simp only [prepareEvent, bind_eq_ok, exists_unit, validateEventIdentity_eq_ok]
  refine and_congr_right fun _ => ?_
  cases reducer.prepareSuccess nodeId attempt <;> simp

theorem apply_eq_ok {event : CanonicalVariableEvent} {outcome : VariableEventApplyOutcome} :
    reducer.apply event = .ok (next, outcome) ↔
      event.binding.runId = reducer.runId ∧
        reducer.prepareEvent event.binding.nodeId (attemptFromEvent event) = .ok event ∧
        reducer.applyVerified event = .ok (next, outcome) := by
  simp only [apply, bind_eq_ok, exists_unit, validateEventIdentity_eq_ok, refuseIf_eq_ok,
    ne_eq, not_not]
  constructor
  · rintro ⟨_, sameRun, _, prepared, rfl, applied⟩
    exact ⟨sameRun, prepared, applied⟩
  · rintro ⟨sameRun, prepared, applied⟩
    have identities := (prepareEvent_eq_ok.mp prepared).1
    exact ⟨sameRun ▸ identities, sameRun, _, prepared, rfl, applied⟩

theorem prepareDeclaration_eq_ok {nodeId : String} {declaration : VariableDeclaration}
    {event : CanonicalVariableEvent} :
    reducer.prepareDeclaration nodeId declaration = .ok event ↔
      nodeId = runtimeProducer ∧ reducer.Admits declaration ∧
        ∃ hash, AgentMod.declarationHash declaration = .ok hash ∧
          .declared ⟨reducer.binding nodeId declaration.name none none none ∅, declaration,
            hash⟩ = event := by
  simp only [prepareDeclaration, bind_eq_ok, refuseIf_eq_ok, exists_unit, Admits, ne_eq, not_not]
  refine and_congr_right fun _ => ?_
  cases found : reducer.environment.declarations[declaration.name]? with
  | none => simp [and_assoc]
  | some existing => simp [not_or]

theorem auditsSeed_eq {nodeId variableName : String} {writer : VariableWriter}
    {expectedVersion : Option Nat} {value : CanonicalVariableValue} {hash : ContentHash}
    (hashed : AgentMod.valueHash value = .ok hash) :
    reducer.auditsSeed nodeId variableName writer expectedVersion value =
      .ok (decide ((nodeId = runtimeProducer ∧ writer = .runtime ∧ expectedVersion = none) ∧
        reducer.seededInitialAssignmentHashes[variableName]? = some hash ∧
        reducer.observedInitialAssignmentHashes[variableName]? ≠ some hash)) := by
  unfold auditsSeed
  split
  · next runtime =>
    simp only [initialAssignmentAuditState, hashed, runtime, true_and]
    by_cases seeded : reducer.seededInitialAssignmentHashes[variableName]? = some hash
    · by_cases observed : reducer.observedInitialAssignmentHashes[variableName]? = some hash <;>
        simp [seeded, observed, Bind.bind, Except.bind, pure, Except.pure]
    · simp [seeded, Bind.bind, Except.bind, pure, Except.pure]
  · next other =>
    simp [other, pure, Except.pure]

theorem hash_of_auditsSeed {nodeId variableName : String} {writer : VariableWriter}
    {expectedVersion : Option Nat} {value : CanonicalVariableValue}
    (audits : reducer.auditsSeed nodeId variableName writer expectedVersion value = .ok true) :
    ∃ hash, AgentMod.valueHash value = .ok hash := by
  unfold auditsSeed at audits
  split at audits
  · simp only [initialAssignmentAuditState, bind_eq_ok] at audits
    obtain ⟨_, ⟨hash, hashed, _⟩, _⟩ := audits
    exact ⟨hash, hashed⟩
  · simp [pure, Except.pure] at audits

/-- The seeds that await their audits are known, and hashes are those of the values. -/
structure KnowsSeeds (reducer : CanonicalVariableEventReducer) : Prop where
  /-- Only seeds are audited, under their own hashes. -/
  observed : ∀ (name : String) hash, reducer.observedInitialAssignmentHashes[name]? = some hash →
    reducer.seededInitialAssignmentHashes[name]? = some hash
  /-- A seed that awaits its audit is live or removed. -/
  pending : ∀ name, reducer.awaitsAudit name → reducer.removed.contains name ∨
    ∃ entry, reducer.environment.entries[name]? = some entry
  /-- A live entry is under the hash of its value. -/
  hashes : ∀ (name : String) entry, reducer.environment.entries[name]? = some entry →
    AgentMod.valueHash entry.value = .ok entry.valueHash

theorem accepts_success {event : CanonicalVariableEvent}
    (success : ∀ failure, event ≠ .validationFailed failure) :
    reducer.Accepts event next ↔
      (isEventIdentity reducer.runId ∧ isEventIdentity event.binding.nodeId) ∧
        event.binding.runId = reducer.runId ∧
        reducer.prepareSuccess event.binding.nodeId (attemptFromEvent event) = .ok event ∧
        ∃ outcome, reducer.applyVerified event = .ok (next, outcome) := by
  simp only [Accepts, apply_eq_ok, prepareEvent_eq_ok]
  constructor
  · rintro ⟨outcome, sameRun, ⟨identities, prepared | ⟨_, failure, _, _, failed⟩⟩, applied⟩
    · exact ⟨identities, sameRun, prepared, outcome, applied⟩
    · exact absurd failed.symm (success failure)
  · rintro ⟨identities, sameRun, prepared, outcome, applied⟩
    exact ⟨outcome, sameRun, ⟨identities, .inl prepared⟩, applied⟩

theorem accepts_declared {event : VariableDeclaredEvent} :
    reducer.Accepts (.declared event) next ↔
      isEventIdentity reducer.runId ∧ reducer.Admits event.declaration ∧
        event.binding = reducer.binding runtimeProducer event.declaration.name none none none ∅ ∧
        AgentMod.declarationHash event.declaration = .ok event.declarationHash ∧
        reducer.applyDeclared event = next := by
  rw [accepts_success (by simp)]
  simp only [attemptFromEvent, prepareSuccess, prepareDeclaration_eq_ok, applyVerified, pure_eq_ok,
    Prod.mk.injEq]
  obtain ⟨binding, declaration, hash⟩ := event
  simp only [CanonicalVariableEvent.binding, CanonicalVariableEvent.declared.injEq,
    VariableDeclaredEvent.mk.injEq, true_and]
  constructor
  · rintro ⟨⟨known, _⟩, _, ⟨runtime, admitted, _, hashed, same, rfl⟩, _, applied, _⟩
    rw [runtime] at same
    exact ⟨known, admitted, same.symm, hashed, applied⟩
  · rintro ⟨known, admitted, rfl, hashed, applied⟩
    exact ⟨⟨known, isEventIdentity_runtimeProducer⟩, rfl,
      ⟨rfl, admitted, hash, hashed, rfl, rfl⟩, _, applied, rfl⟩

/-- An assignment is prepared as an audit of what is seeded, or as a write. -/
theorem prepareAssignment_eq_ok {nodeId name : String} {writer : VariableWriter}
    {expectedVersion : Option Nat} {value : CanonicalVariableValue}
    {event : CanonicalVariableEvent} :
    reducer.prepareAssignment nodeId name writer expectedVersion value = .ok event ↔
      ¬ reducer.removed.contains name ∧
        ((reducer.auditsSeed nodeId name writer expectedVersion value = .ok true ∧
          ∃ entry, reducer.environment.entries[name]? = some entry ∧
            (entry.version = 1 ∧ entry.writer = .runtime ∧ entry.value = value) ∧
            reducer.assignedEvent nodeId name writer value none entry = event) ∨
        (reducer.auditsSeed nodeId name writer expectedVersion value = .ok false ∧
          ∃ entry environment, (CanonicalVariableEnvironment.assign name writer expectedVersion
            value).apply reducer.environment = (.ok entry, environment) ∧
            reducer.assignedEvent nodeId name writer value
              (reducer.environment.entries[name]?.map CanonicalVariableEntry.version) entry =
                event)) := by
  simp only [prepareAssignment, ensureNotRemoved, bind_eq_ok, refuseIf_eq_ok, exists_unit]
  refine and_congr_right fun _ => ?_
  constructor
  · rintro ⟨audits, decided, prepared⟩
    cases audits with
    | true =>
      simp only [if_true, bind_eq_ok, okOr_eq_ok, refuseIf_eq_ok, exists_unit, pure_eq_ok,
        not_or, ne_eq, not_not] at prepared
      exact .inl ⟨decided, prepared⟩
    | false =>
      simp only [Bool.false_eq_true, if_false, bind_eq_ok, pure_eq_ok] at prepared
      obtain ⟨entry, assigned, same⟩ := prepared
      exact .inr ⟨decided, entry, _, Prod.ext assigned rfl, same⟩
  · rintro (⟨decided, prepared⟩ | ⟨decided, entry, environment, assigned, same⟩)
    · refine ⟨true, decided, ?_⟩
      simpa only [if_true, bind_eq_ok, okOr_eq_ok, refuseIf_eq_ok, exists_unit, pure_eq_ok,
        not_or, ne_eq, not_not] using prepared
    · refine ⟨false, decided, ?_⟩
      simp [assigned, same]

theorem KnowsSeeds.not_contains (knows : reducer.KnowsSeeds) {name : String} {hash : ContentHash}
    (seeded : reducer.seededInitialAssignmentHashes[name]? = some hash) :
    reducer.observedInitialAssignmentHashes[name]? ≠ some hash ↔
      ¬ reducer.observedInitialAssignmentHashes.contains name := by
  refine not_congr ?_
  rw [StringMap.contains_iff]
  constructor
  · exact fun observed => ⟨hash, observed⟩
  · rintro ⟨other, observed⟩
    have same := knows.observed name other observed
    rw [seeded] at same
    exact observed.trans same.symm

omit [VariableSerde] [Hashing] in
theorem observesSeed_iff {event : VariableAssignedEvent} :
    reducer.observesSeed event ↔ event.writer = .runtime ∧ event.binding.priorVersion = none ∧
      event.binding.newVersion = some 1 ∧
      reducer.seededInitialAssignmentHashes[event.binding.variableName]? =
        event.binding.valueHash ∧
      ¬ reducer.observedInitialAssignmentHashes.contains event.binding.variableName := by
  simp [observesSeed]

/-- The audit of a seeded value, which observes the entry that the seed has left. -/
structure Audits (reducer : CanonicalVariableEventReducer) (event : VariableAssignedEvent)
    (entry : CanonicalVariableEntry) : Prop where
  observes : reducer.observesSeed event
  live : reducer.environment.entries[event.binding.variableName]? = some entry
  seeded : entry.version = 1 ∧ entry.writer = .runtime ∧ entry.value = event.value
  owned : event.binding = reducer.binding runtimeProducer event.binding.variableName none (some 1)
    (some entry.valueHash) (artifactReferences event.value)

/-- The write of an assigned value. -/
structure Assigns (reducer : CanonicalVariableEventReducer) (event : VariableAssignedEvent)
    (entry : CanonicalVariableEntry) (environment : CanonicalVariableEnvironment) : Prop where
  observes : reducer.observesSeed event = false
  assigned : (CanonicalVariableEnvironment.assign event.binding.variableName event.writer
    event.binding.priorVersion event.value).apply reducer.environment = (.ok entry, environment)
  owned : event.binding = reducer.binding event.binding.nodeId event.binding.variableName
    event.binding.priorVersion (some entry.version) (some entry.valueHash)
    (artifactReferences event.value)

/-- An assignment prepares itself again as the audit of a seeded value, or as a write. -/
theorem prepareAssignment_iff (knows : reducer.KnowsSeeds) {event : VariableAssignedEvent} :
    reducer.prepareAssignment event.binding.nodeId event.binding.variableName event.writer
        event.binding.priorVersion event.value = .ok (.assigned event) ↔
      ¬ reducer.removed.contains event.binding.variableName ∧
        ((∃ entry, reducer.Audits event entry) ∨
          ∃ entry environment, reducer.Assigns event entry environment) := by
  rw [prepareAssignment_eq_ok]
  refine and_congr_right fun kept => ?_
  simp only [assignedEvent, CanonicalVariableEvent.assigned.injEq]
  constructor
  · rintro (⟨audits, entry, live, seeded, same⟩ | ⟨_, entry, environment, assigned, same⟩)
    · -- The audit path is taken for a seed with the hash of the entry, which awaits its audit.
      obtain ⟨hash, hashed⟩ := hash_of_auditsSeed audits
      simp only [auditsSeed_eq hashed, Except.ok.injEq, decide_eq_true_eq] at audits
      obtain ⟨⟨runtime, writes, first⟩, seed, awaited⟩ := audits
      have entryHash := knows.hashes _ _ live
      rw [seeded.2.2, hashed, Except.ok.injEq] at entryHash
      rw [knows.not_contains seed] at awaited
      have owned := congrArg VariableAssignedEvent.binding same
      simp only [runtime, seeded.1] at owned
      have observes : reducer.observesSeed event := by
        rw [observesSeed_iff]
        refine ⟨writes, first, ?_, ?_, awaited⟩ <;> rw [← owned]
        · rfl
        · simpa [binding, ← entryHash] using seed
      exact .inl ⟨entry, observes, live, seeded, owned.symm⟩
    · -- A first write is no audit: a seed that awaits its audit would be live or removed.
      obtain ⟨declaration, writes, _⟩ := CanonicalVariableEnvironment.assign_eq_ok.mp assigned
      have owned := congrArg VariableAssignedEvent.binding same
      have expected := (nextVersion_eq_ok.mp writes.version).1
      simp only [← expected] at owned
      have observes : reducer.observesSeed event = false := by
        rw [Bool.eq_false_iff]
        intro observes
        obtain ⟨_, first, _, seed, awaited⟩ := observesSeed_iff.mp observes
        have awaits : reducer.awaitsAudit event.binding.variableName := by
          rw [← owned] at seed
          have present := StringMap.contains_iff.mpr ⟨_, seed⟩
          simp only [binding] at present
          simp [awaitsAudit, present, awaited]
        rcases knows.pending _ awaits with gone | ⟨other, live⟩
        · exact kept gone
        · rw [live, first] at expected
          exact absurd expected (by simp)
      exact .inr ⟨entry, environment, observes, assigned, owned.symm⟩
  · rintro (⟨entry, audits⟩ | ⟨entry, environment, assigns⟩)
    · obtain ⟨writes, first, _, seed, awaited⟩ := observesSeed_iff.mp audits.observes
      have hashed := knows.hashes _ _ audits.live
      rw [audits.seeded.2.2] at hashed
      have runtime := congrArg CanonicalVariableEventBinding.nodeId audits.owned
      have valueHash := congrArg CanonicalVariableEventBinding.valueHash audits.owned
      rw [valueHash] at seed
      simp only [binding] at runtime seed
      refine .inl ⟨?_, entry, audits.live, audits.seeded, ?_⟩
      · have unobserved := (knows.not_contains seed).mpr awaited
        simp [auditsSeed_eq hashed, runtime, writes, first, seed, unobserved]
      · rw [runtime, audits.seeded.1, ← audits.owned]
    · obtain ⟨declaration, written, value, _⟩ :=
        CanonicalVariableEnvironment.assign_eq_ok.mp assigns.assigned
      have hashed := written.hash
      rw [value] at hashed
      have expected := nextVersion_eq_ok.mp written.version
      refine .inr ⟨?_, entry, environment, assigns.assigned, ?_⟩
      · -- An assignment that counts as an audit would observe the seed.
        rw [auditsSeed_eq hashed, Except.ok.injEq, decide_eq_false_iff_not]
        rintro ⟨⟨_, writes, first⟩, seed, awaited⟩
        rw [knows.not_contains seed] at awaited
        refine absurd (observesSeed_iff.mpr ⟨writes, first, ?_, ?_, awaited⟩)
          (Bool.eq_false_iff.mp assigns.observes)
        · rw [assigns.owned, binding, expected.2.1, first]
          rfl
        · rw [assigns.owned]
          exact seed
      · rw [← expected.1, ← assigns.owned]

/-- An accepted assignment is the audit of a seeded value, or a write. -/
theorem accepts_assigned (knows : reducer.KnowsSeeds) {event : VariableAssignedEvent} :
    reducer.Accepts (.assigned event) next ↔
      (isEventIdentity reducer.runId ∧ isEventIdentity event.binding.nodeId) ∧
        ¬ reducer.removed.contains event.binding.variableName ∧
        ((∃ entry, reducer.Audits event entry ∧
          reducer.observeSeed event.binding.variableName entry.valueHash = .ok next) ∨
        ∃ entry environment, reducer.Assigns event entry environment ∧
          traceAssigned { reducer with environment } event entry.valueHash = .ok next) := by
  rw [accepts_success (by simp)]
  simp only [attemptFromEvent, prepareSuccess, applyVerified, bind_eq_ok, pure_eq_ok,
    Prod.mk.injEq, CanonicalVariableEvent.binding, prepareAssignment_iff knows]
  constructor
  · rintro ⟨identities, _, ⟨kept, prepared⟩, _, _, applied, rfl, _⟩
    refine ⟨identities, kept, ?_⟩
    rcases prepared with ⟨entry, audits⟩ | ⟨entry, environment, assigns⟩
    · obtain ⟨_, _, _, seed, _⟩ := observesSeed_iff.mp audits.observes
      have valueHash := congrArg CanonicalVariableEventBinding.valueHash audits.owned
      rw [valueHash] at seed
      refine .inl ⟨entry, audits, ?_⟩
      simpa [applyAssigned, audits.observes, seed, okOr, binding] using applied
    · refine .inr ⟨entry, environment, assigns, ?_⟩
      simp only [applyAssigned, assigns.observes, assigns.assigned] at applied
      simpa [Bind.bind, Except.bind] using applied
  · rintro ⟨identities, kept, ⟨entry, audits, leads⟩ | ⟨entry, environment, assigns, leads⟩⟩
    · refine ⟨identities, by rw [audits.owned]; rfl, ⟨kept, .inl ⟨entry, audits⟩⟩, _, next, ?_,
        rfl, rfl⟩
      obtain ⟨_, _, _, seed, _⟩ := observesSeed_iff.mp audits.observes
      have valueHash := congrArg CanonicalVariableEventBinding.valueHash audits.owned
      rw [valueHash] at seed
      simpa [applyAssigned, audits.observes, seed, okOr, binding] using leads
    · refine ⟨identities, by rw [assigns.owned]; rfl,
        ⟨kept, .inr ⟨entry, environment, assigns⟩⟩, _, next, ?_, rfl, rfl⟩
      simp only [applyAssigned, assigns.observes, assigns.assigned]
      simpa [Bind.bind, Except.bind] using leads

/-- The write of a merged value, from the branches in their canonical order. -/
structure Merges (reducer : CanonicalVariableEventReducer) (event : VariableMergedEvent)
    (declaration : VariableDeclaration) (entry : CanonicalVariableEntry)
    (environment : CanonicalVariableEnvironment) (next : CanonicalVariableEventReducer) :
    Prop where
  declared : reducer.environment.declarations[event.binding.variableName]? = some declaration
  policy : declaration.mergePolicy = some event.policy
  sorted : sortBranches event.branches = event.branches
  merged : (CanonicalVariableEnvironment.mergeBranches event.binding.variableName event.writer
    event.binding.priorVersion event.branches).apply reducer.environment =
      (.ok entry, environment)
  value : entry.value = event.value
  owned : event.binding = reducer.binding event.binding.nodeId event.binding.variableName
    event.binding.priorVersion (some entry.version) (some entry.valueHash)
    (artifactReferences event.value)
  leads : next = { reducer with environment }

theorem prepareMerge_eq_ok {nodeId name : String} {writer : VariableWriter}
    {expectedVersion : Option Nat} {branches : List BranchVariableValue}
    {event : CanonicalVariableEvent} :
    reducer.prepareMerge nodeId name writer expectedVersion branches = .ok event ↔
      ¬ reducer.removed.contains name ∧ ∃ declaration policy entry environment,
        reducer.environment.declarations[name]? = some declaration ∧
        declaration.mergePolicy = some policy ∧
        (CanonicalVariableEnvironment.mergeBranches name writer expectedVersion
          (sortBranches branches)).apply reducer.environment = (.ok entry, environment) ∧
        .merged ⟨reducer.binding nodeId name
          (reducer.environment.entries[name]?.map CanonicalVariableEntry.version)
          (some entry.version) (some entry.valueHash) (artifactReferences entry.value), writer,
          policy, sortBranches branches, entry.value⟩ = event := by
  simp only [prepareMerge, ensureNotRemoved, bind_eq_ok, refuseIf_eq_ok, exists_unit, okOr_eq_ok,
    CanonicalVariableEnvironment.declaration_eq_ok, pure_eq_ok]
  refine and_congr_right fun _ => ?_
  constructor
  · rintro ⟨declaration, declared, policy, merges, entry, merged, same⟩
    exact ⟨declaration, policy, entry, _, declared, merges, Prod.ext merged rfl, same⟩
  · rintro ⟨declaration, policy, entry, environment, declared, merges, merged, same⟩
    exact ⟨declaration, declared, policy, merges, entry, by rw [merged], same⟩

/-- An accepted merge writes the merged value. -/
theorem accepts_merged {event : VariableMergedEvent} :
    reducer.Accepts (.merged event) next ↔
      (isEventIdentity reducer.runId ∧ isEventIdentity event.binding.nodeId) ∧
        ¬ reducer.removed.contains event.binding.variableName ∧
        ∃ declaration entry environment,
          reducer.Merges event declaration entry environment next := by
  rw [accepts_success (by simp)]
  simp only [attemptFromEvent, prepareSuccess, prepareMerge_eq_ok, applyVerified, bind_eq_ok,
    pure_eq_ok, Prod.mk.injEq, CanonicalVariableEvent.binding, CanonicalVariableEvent.merged.injEq]
  constructor
  · rintro ⟨identities, sameRun, ⟨kept, declaration, policy, entry, environment, declared, merges,
      merged, same⟩, _, _, applied, rfl, rfl⟩
    obtain ⟨_, writes, _⟩ := CanonicalVariableEnvironment.mergeBranches_eq_ok.mp merged
    have owned := congrArg VariableMergedEvent.binding same
    have sorted := congrArg VariableMergedEvent.branches same
    have value := congrArg VariableMergedEvent.value same
    have policies := congrArg VariableMergedEvent.policy same
    simp only [← (nextVersion_eq_ok.mp writes.version).1] at owned sorted value policies
    rw [sorted] at merged
    refine ⟨identities, kept, declaration, entry, environment, declared, policies ▸ merges, sorted,
      merged, value, (value ▸ owned).symm, ?_⟩
    simp only [applyMerged, merged, bind_eq_ok, pure_eq_ok] at applied
    obtain ⟨_, _, rfl⟩ := applied
    rfl
  · rintro ⟨identities, kept, declaration, entry, environment, merges⟩
    obtain ⟨_, writes, _⟩ := CanonicalVariableEnvironment.mergeBranches_eq_ok.mp merges.merged
    refine ⟨identities, by rw [merges.owned]; rfl, ⟨kept, declaration, event.policy, entry,
      environment, merges.declared, merges.policy, ?_, ?_⟩, _, next, ?_, rfl, rfl⟩
    · rw [merges.sorted]
      exact merges.merged
    · rw [← (nextVersion_eq_ok.mp writes.version).1, merges.sorted, merges.value, ← merges.owned]
    · simp [applyMerged, merges.merged, merges.leads, Bind.bind, Except.bind, pure, Except.pure]

/-- The removal of a live value from node or branch scope. -/
structure Removes (reducer : CanonicalVariableEventReducer) (event : VariableRemovedEvent)
    (declaration : VariableDeclaration) (entry : CanonicalVariableEntry)
    (next : CanonicalVariableEventReducer) : Prop where
  declared : reducer.environment.declarations[event.binding.variableName]? = some declaration
  local_ : declaration.scope = .node ∨ declaration.scope = .branch
  produces : declaration.producer = event.writer.nodeId
  live : reducer.environment.entries[event.binding.variableName]? = some entry
  belongs : validateDirectWriteScope declaration event.writer = .ok entry.branchId
  fits : entry.version + 1 < wordBound
  owned : event.binding = reducer.binding event.binding.nodeId event.binding.variableName
    (some entry.version) (some (entry.version + 1)) (some entry.valueHash)
    (artifactReferences entry.value)
  leads : next = { reducer with
    environment := { reducer.environment with
      entries := reducer.environment.entries.erase event.binding.variableName }
    removed := reducer.removed.insert event.binding.variableName
      ⟨entry.version + 1, entry.valueHash, event.writer⟩ }

omit [VariableSerde] [Hashing] in
theorem prepareRemoval_eq_ok {nodeId name : String} {writer : VariableWriter}
    {expectedVersion : Nat} {event : CanonicalVariableEvent} :
    reducer.prepareRemoval nodeId name writer expectedVersion = .ok event ↔
      ¬ reducer.removed.contains name ∧ ∃ declaration entry,
        reducer.environment.declarations[name]? = some declaration ∧
        (declaration.scope = .node ∨ declaration.scope = .branch) ∧
        declaration.producer = writer.nodeId ∧
        reducer.environment.entries[name]? = some entry ∧ entry.version = expectedVersion ∧
        validateDirectWriteScope declaration writer = .ok entry.branchId ∧
        entry.version + 1 < wordBound ∧
        .removed ⟨reducer.binding nodeId name (some entry.version) (some (entry.version + 1))
          (some entry.valueHash) (artifactReferences entry.value), writer⟩ = event := by
  simp only [prepareRemoval, ensureNotRemoved, bind_eq_ok, refuseIf_eq_ok, exists_unit, okOr_eq_ok,
    CanonicalVariableEnvironment.declaration_eq_ok, authorizeWriter_eq_ok, pure_eq_ok, not_not,
    ne_eq, Nat.not_le]
  refine and_congr_right fun _ => ?_
  constructor
  · rintro ⟨declaration, declared, scope, produces, entry, live, version, branch, belongs, rfl,
      fits, same⟩
    exact ⟨declaration, entry, declared, scope, produces, live, version,
      validateDirectWriteScopeReplayed_eq_ok.mp belongs, fits, same⟩
  · rintro ⟨declaration, entry, declared, scope, produces, live, version, belongs, fits, same⟩
    exact ⟨declaration, declared, scope, produces, entry, live, version, _,
      validateDirectWriteScopeReplayed_eq_ok.mpr belongs, rfl, fits, same⟩

theorem accepts_removed {event : VariableRemovedEvent} :
    reducer.Accepts (.removed event) next ↔
      (isEventIdentity reducer.runId ∧ isEventIdentity event.binding.nodeId) ∧
        ¬ reducer.removed.contains event.binding.variableName ∧
        ∃ declaration entry, reducer.Removes event declaration entry next := by
  rw [accepts_success (by simp)]
  simp only [attemptFromEvent, prepareSuccess, prepareRemoval_eq_ok, applyVerified, bind_eq_ok,
    pure_eq_ok, Prod.mk.injEq, CanonicalVariableEvent.binding, CanonicalVariableEvent.removed.injEq]
  constructor
  · rintro ⟨identities, sameRun, ⟨kept, declaration, entry, declared, scope, produces, live,
      version, belongs, fits, same⟩, _, _, applied, rfl, rfl⟩
    have owned := (congrArg VariableRemovedEvent.binding same).symm
    have later := congrArg CanonicalVariableEventBinding.newVersion owned
    simp only [binding] at later
    refine ⟨identities, kept, declaration, entry, declared, scope, produces, live, belongs, fits,
      owned, ?_⟩
    simp only [applyRemoved, live, later, okOr, bind_eq_ok, pure_eq_ok, Except.ok.injEq] at applied
    obtain ⟨_, rfl, _, rfl, rfl⟩ := applied
    rfl
  · rintro ⟨identities, kept, declaration, entry, removes⟩
    have prior := congrArg CanonicalVariableEventBinding.priorVersion removes.owned
    have later := congrArg CanonicalVariableEventBinding.newVersion removes.owned
    simp only [binding] at prior later
    refine ⟨identities, by rw [removes.owned]; rfl, ⟨kept, declaration, entry, removes.declared,
      removes.local_, removes.produces, removes.live, by rw [prior]; rfl, removes.belongs,
      removes.fits, by rw [← removes.owned]⟩, _, next, ?_, rfl, rfl⟩
    simp [applyRemoved, removes.live, later, okOr, removes.leads, Bind.bind, Except.bind, pure,
      Except.pure]

theorem prepareSuccess_ne_failure {nodeId : String} {attempt : VariableValidationAttempt}
    {failure : VariableValidationFailedEvent} :
    reducer.prepareSuccess nodeId attempt ≠ .ok (.validationFailed failure) := by
  cases attempt <;>
    simp [prepareSuccess, prepareDeclaration_eq_ok, prepareAssignment_eq_ok, prepareMerge_eq_ok,
      prepareRemoval_eq_ok, assignedEvent]

/-- A retained failure. -/
structure Fails (reducer : CanonicalVariableEventReducer) (event : VariableValidationFailedEvent)
    (error : VariableEnvironmentError) (next : CanonicalVariableEventReducer) : Prop where
  fails : reducer.prepareSuccess event.binding.nodeId event.attempt = .error error
  hashed : reducer.prepareFailure event.binding.nodeId event.attempt error = .ok event
  room : reducer.validationFailures.length < maxCanonicalVariableFailures
  leads : next = { reducer with validationFailures := reducer.validationFailures ++ [event] }

theorem accepts_failed {event : VariableValidationFailedEvent} :
    reducer.Accepts (.validationFailed event) next ↔
      (isEventIdentity reducer.runId ∧ isEventIdentity event.binding.nodeId) ∧
        ∃ error, reducer.Fails event error next := by
  simp only [Accepts, apply_eq_ok, prepareEvent_eq_ok, attemptFromEvent, applyVerified, applyFailed,
    bind_eq_ok, exists_unit, refuseIf_eq_ok, pure_eq_ok, Prod.mk.injEq,
    CanonicalVariableEvent.binding, CanonicalVariableEvent.validationFailed.injEq, Nat.not_le]
  constructor
  · rintro ⟨_, _, ⟨identities, success | ⟨error, _, fails, hashed, rfl⟩⟩, _, ⟨room, rfl⟩, rfl, _⟩
    · exact absurd success prepareSuccess_ne_failure
    · exact ⟨identities, error, fails, hashed, room, rfl⟩
  · rintro ⟨identities, error, fails, hashed, room, rfl⟩
    refine ⟨_, ?_, ⟨identities, .inr ⟨error, event, fails, hashed, rfl⟩⟩, _, ⟨room, rfl⟩, rfl, rfl⟩
    simp only [prepareFailure, bind_eq_ok, pure_eq_ok] at hashed
    obtain ⟨_, _, same⟩ := hashed
    rw [← same]
    rfl

end CanonicalVariableEventReducer

end AgentMod
