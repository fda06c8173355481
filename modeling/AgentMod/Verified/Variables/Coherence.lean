import AgentMod.Verified.Variables.Events

/-! What every reachable reducer meets, and what its snapshot check asks for beyond that. -/

namespace AgentMod

namespace CanonicalVariableEnvironment

variable [VariableSerde] [Hashing] {environment next : CanonicalVariableEnvironment}
  {name : String} {entry : CanonicalVariableEntry} {declaration : VariableDeclaration}

/-- What a live entry meets under its declaration. -/
structure Holds (environment : CanonicalVariableEnvironment) (declaration : VariableDeclaration)
    (entry : CanonicalVariableEntry) : Prop where
  version : 0 < entry.version
  belongs : validateDirectWriteScope declaration entry.writer = .ok entry.branchId
  valid : environment.validateValue declaration entry.writer entry.value = .ok ()
  hash : AgentMod.valueHash entry.value = .ok entry.valueHash

theorem Holds.congr (holds : environment.Holds declaration entry)
    (same : next.limits = environment.limits) : next.Holds declaration entry := by
  refine ⟨holds.version, holds.belongs, ?_, holds.hash⟩
  rw [validateValue, same]
  exact holds.valid

/-- What assignments and merges keep of an environment. -/
structure Coherent (environment : CanonicalVariableEnvironment) : Prop where
  limits : validateLimits environment.limits = .ok ()
  bounded : environment.declarations.size ≤ environment.limits.maxVariables
  declared : ∀ (name : String) declaration, environment.declarations[name]? = some declaration →
    declaration.name = name ∧ validateRuntimeDeclaration declaration environment.limits = .ok ()
  entries : ∀ (name : String) entry, environment.entries[name]? = some entry →
    ∃ declaration, environment.declarations[name]? = some declaration ∧
      environment.Holds declaration entry
  size : environment.validateEnvironmentSize = .ok ()

/-- The writers of all live entries pass the check on snapshots. -/
def Authorized (environment : CanonicalVariableEnvironment) : Prop :=
  ∀ (name : String) entry declaration, environment.entries[name]? = some entry →
    environment.declarations[name]? = some declaration →
    authorizeReplayedWriter declaration entry.writer = .ok ()

/-- A snapshot of an environment is accepted where it is coherent and its writers authorized. -/
theorem validateReplayed_eq_ok : environment.validateReplayed = .ok () ↔
    environment.Coherent ∧ environment.Authorized := by
  simp only [validateReplayed, bind_eq_ok, exists_unit, refuseIf_eq_ok, forM_eq_ok, Nat.not_lt,
    StringMap.forall_toList, validateReplayedDeclaration, validateReplayedEntry, declaration_eq_ok,
    ne_eq, not_not]
  constructor
  · rintro ⟨limits, bounded, declared, entries, size⟩
    refine ⟨⟨limits, bounded, ?_, ?_, size⟩, ?_⟩
    · intro name declaration found
      obtain ⟨same, valid⟩ := declared name declaration found
      exact ⟨same.symm, valid⟩
    · intro name entry found
      obtain ⟨declaration, known, version, _, _, belongs, rfl, valid, _, hashed, rfl⟩ :=
        entries name entry found
      exact ⟨declaration, known, by omega, validateDirectWriteScopeReplayed_eq_ok.mp belongs,
        valid, hashed⟩
    · intro name entry declaration found known
      obtain ⟨_, same, _, authorized, _⟩ := entries name entry found
      rw [known] at same
      cases same
      exact authorized
  · rintro ⟨coherent, authorized⟩
    refine ⟨coherent.limits, coherent.bounded, ?_, ?_, coherent.size⟩
    · intro name declaration found
      obtain ⟨same, valid⟩ := coherent.declared name declaration found
      exact ⟨same.symm, valid⟩
    · intro name entry found
      obtain ⟨declaration, known, holds⟩ := coherent.entries name entry found
      exact ⟨declaration, known, by have := holds.version; omega,
        authorized name entry declaration found known, _,
        validateDirectWriteScopeReplayed_eq_ok.mpr holds.belongs, rfl, holds.valid, _, holds.hash,
        rfl⟩

theorem Coherent.writes (coherent : environment.Coherent) {expectedVersion : Option Nat}
    (writes : environment.Writes name declaration expectedVersion entry next)
    (belongs : validateDirectWriteScope declaration entry.writer = .ok entry.branchId) :
    next.Coherent := by
  obtain ⟨declared, version, valid, hash, rfl, size⟩ := writes
  refine ⟨coherent.limits, coherent.bounded, coherent.declared, ?_, size⟩
  intro other held found
  simp only [StringMap.getElem?_insert'] at found
  split at found
  · next same =>
    cases same
    cases found
    have positive := (nextVersion_eq_ok.mp version).2.1
    exact ⟨declaration, declared, by omega, belongs, valid, hash⟩
  · obtain ⟨declaration, known, holds⟩ := coherent.entries other held found
    exact ⟨declaration, known, holds.congr rfl⟩

theorem Coherent.erase (coherent : environment.Coherent)
    (found : environment.entries[name]? = some entry) :
    { environment with entries := environment.entries.erase name }.Coherent := by
  refine ⟨coherent.limits, coherent.bounded, coherent.declared, ?_, size_erase coherent.size found⟩
  intro other held present
  simp only [StringMap.getElem?_erase'] at present
  split at present
  · contradiction
  · obtain ⟨declaration, known, holds⟩ := coherent.entries other held present
    exact ⟨declaration, known, holds.congr rfl⟩

theorem Coherent.declare (coherent : environment.Coherent)
    (fresh : environment.declarations[declaration.name]? = none)
    (room : environment.declarations.size < environment.limits.maxVariables)
    (valid : validateRuntimeDeclaration declaration environment.limits = .ok ()) :
    { environment with
      declarations := environment.declarations.insertIfNew declaration.name
        declaration }.Coherent := by
  refine ⟨coherent.limits, ?_, ?_, ?_, coherent.size⟩
  · simp only
    have grown := Std.ExtTreeMap.size_insertIfNew_le (t := environment.declarations)
      (k := declaration.name) (v := declaration)
    omega
  · intro name found known
    simp only [StringMap.getElem?_insertIfNew' fresh] at known
    split at known
    · next inserted =>
      cases known
      exact ⟨inserted, valid⟩
    · exact coherent.declared name found known
  · intro name entry found
    obtain ⟨held, known, holds⟩ := coherent.entries name entry found
    refine ⟨held, ?_, holds.congr rfl⟩
    simp only [StringMap.getElem?_insertIfNew' fresh]
    rw [if_neg]
    · exact known
    · intro same
      rw [same, known] at fresh
      contradiction

end CanonicalVariableEnvironment

namespace CanonicalVariableEventReducer

/-- What a tombstone meets under the declaration of its variable. -/
structure Buried (environment : CanonicalVariableEnvironment) (name : String)
    (record : RemovedVariableRecord) (declaration : VariableDeclaration) : Prop where
  gone : environment.entries[name]? = none
  local_ : declaration.scope = .node ∨ declaration.scope = .branch
  version : 0 < record.version
  authorized : authorizeReplayedWriter declaration record.writer = .ok ()
  belongs : declaration.scope = .branch →
    ∃ branch, validateDirectWriteScope declaration record.writer = .ok branch

variable [VariableSerde] [Hashing] {reducer next : CanonicalVariableEventReducer}

/-- What every accepted event keeps. -/
structure Coherent (reducer : CanonicalVariableEventReducer) : Prop where
  environment : reducer.environment.Coherent
  identity : isEventIdentity reducer.runId
  schema : reducer.initialAuditSchemaVersion = 1
  hashed : ∀ name, reducer.declarationHashes.contains name →
    reducer.environment.declarations.contains name
  hashes : ∀ (name : String) declaration,
    reducer.environment.declarations[name]? = some declaration →
      ∃ hash, AgentMod.declarationHash declaration = .ok hash ∧
        reducer.declarationHashes[name]? = some hash
  observedDeclared : ∀ name ∈ reducer.observedDeclarations.toList,
    reducer.environment.declarations.contains name
  audit : ∃ hash, AgentMod.initialAssignmentAuditStateHash reducer.seededInitialAssignmentHashes
    reducer.observedInitialAssignmentHashes = .ok hash ∧
      reducer.initialAssignmentAuditStateHash = some hash
  observed : ∀ (name : String) hash, reducer.observedInitialAssignmentHashes[name]? = some hash →
    reducer.seededInitialAssignmentHashes[name]? = some hash
  producers : ∀ (name : String) hash, reducer.seededInitialAssignmentHashes[name]? = some hash →
    ∃ declaration, reducer.environment.declarations[name]? = some declaration ∧
      declaration.producer = runtimeProducer
  pending : ∀ name, reducer.awaitsAudit name → reducer.removed.contains name ∨
    ∃ entry, reducer.environment.entries[name]? = some entry
  tombstones : ∀ (name : String) record, reducer.removed[name]? = some record →
    ∃ declaration, reducer.environment.declarations[name]? = some declaration ∧
      Buried reducer.environment name record declaration
  bounded : reducer.validationFailures.length ≤ maxCanonicalVariableFailures
  failures : ∀ failure ∈ reducer.validationFailures,
    validateFailureStatic reducer.runId failure = .ok ()

/-- What the snapshot check asks for that an accepted event can break. -/
structure Faithful (reducer : CanonicalVariableEventReducer) : Prop where
  /-- Every live entry has an authorized writer. -/
  authorized : reducer.environment.Authorized
  /-- Every value that the runtime wrote is traced back to a seed. -/
  traced : ∀ (name : String) entry, reducer.environment.entries[name]? = some entry →
    entry.writer = .runtime → reducer.seededInitialAssignmentHashes.contains name
  /-- Every seed that awaits its audit is live as it was seeded. -/
  spared : ∀ (name : String) hash, reducer.seededInitialAssignmentHashes[name]? = some hash →
    ¬ reducer.observedInitialAssignmentHashes.contains name →
    ∃ entry, reducer.environment.entries[name]? = some entry ∧ entry.version = 1 ∧
      entry.writer = .runtime ∧ entry.valueHash = hash

omit [VariableSerde] [Hashing] in
theorem awaitsAudit_iff {name : String} : reducer.awaitsAudit name ↔
    (∃ hash, reducer.seededInitialAssignmentHashes[name]? = some hash) ∧
      ¬ reducer.observedInitialAssignmentHashes.contains name := by
  rw [awaitsAudit, Bool.and_eq_true, Bool.not_eq_true', ← Bool.not_eq_true,
    StringMap.contains_iff]

theorem Coherent.knows (coherent : reducer.Coherent) : reducer.KnowsSeeds where
  observed := coherent.observed
  pending := coherent.pending
  hashes name entry found := by
    obtain ⟨_, _, holds⟩ := coherent.environment.entries name entry found
    exact holds.hash

omit [VariableSerde] [Hashing] in
theorem validateSeededAssignment_eq_ok {name : String} {hash : ContentHash} :
    reducer.validateSeededAssignment (name, hash) = .ok () ↔
      (∃ declaration, reducer.environment.declarations[name]? = some declaration ∧
        declaration.producer = runtimeProducer) ∧
      (¬ reducer.observedInitialAssignmentHashes.contains name →
        ∃ entry, reducer.environment.entries[name]? = some entry ∧ entry.version = 1 ∧
          entry.writer = .runtime ∧ entry.valueHash = hash) := by
  simp only [validateSeededAssignment, bind_eq_ok, exists_unit, refuseIf_eq_ok,
    CanonicalVariableEnvironment.declaration_eq_ok, ne_eq, not_not]
  cases reducer.observedInitialAssignmentHashes.contains name with
  | true => simp
  | false =>
    simp only [Bool.not_false, if_true, bind_eq_ok, okOr_eq_ok, refuseIf_eq_ok, not_or, not_not,
      Bool.false_eq_true, not_false_eq_true, true_implies]
    constructor
    · rintro ⟨declaration, known, produces, live⟩
      exact ⟨⟨declaration, known, produces⟩, live⟩
    · rintro ⟨⟨declaration, known, produces⟩, live⟩
      exact ⟨declaration, known, produces, live⟩

/-- The audit state of initial assignments is accepted where it is traced and spared. -/
theorem validateInitialAssignmentAuditState_eq_ok
    (schema : reducer.initialAuditSchemaVersion = 1) :
    reducer.validateInitialAssignmentAuditState = .ok () ↔
      (∃ hash, AgentMod.initialAssignmentAuditStateHash reducer.seededInitialAssignmentHashes
        reducer.observedInitialAssignmentHashes = .ok hash ∧
          reducer.initialAssignmentAuditStateHash = some hash) ∧
      (∀ (name : String) hash, reducer.observedInitialAssignmentHashes[name]? = some hash →
        reducer.seededInitialAssignmentHashes[name]? = some hash) ∧
      (∀ (name : String) hash, reducer.seededInitialAssignmentHashes[name]? = some hash →
        (∃ declaration, reducer.environment.declarations[name]? = some declaration ∧
          declaration.producer = runtimeProducer) ∧
        (¬ reducer.observedInitialAssignmentHashes.contains name →
          ∃ entry, reducer.environment.entries[name]? = some entry ∧ entry.version = 1 ∧
            entry.writer = .runtime ∧ entry.valueHash = hash)) ∧
      ∀ (name : String) entry, reducer.environment.entries[name]? = some entry →
        entry.writer = .runtime → reducer.seededInitialAssignmentHashes.contains name := by
  unfold validateInitialAssignmentAuditState
  rw [if_neg (by omega)]
  simp only [bind_eq_ok, exists_unit, refuseIf_eq_ok, forM_eq_ok, StringMap.forall_toList, ne_eq,
    not_not, schema, true_and, not_or, validateSeededAssignment_eq_ok]
  have traced : (¬ (reducer.environment.entries.toList.any fun entry =>
      entry.2.writer == .runtime && !reducer.seededInitialAssignmentHashes.contains entry.1) =
        true) ↔ ∀ (name : String) entry, reducer.environment.entries[name]? = some entry →
          entry.writer = .runtime → reducer.seededInitialAssignmentHashes.contains name := by
    rw [Bool.not_eq_true, List.any_eq_false, StringMap.forall_toList]
    simp
  rw [traced]
  constructor
  · rintro ⟨hash, hashed, ⟨same, observed⟩, seeded, writes⟩
    exact ⟨⟨hash, hashed, same⟩, observed, seeded, writes⟩
  · rintro ⟨⟨hash, hashed, same⟩, observed, seeded, writes⟩
    exact ⟨hash, hashed, ⟨same, observed⟩, seeded, writes⟩

omit [VariableSerde] [Hashing] in
theorem validateRemovedRecord_eq_ok {name : String} {record : RemovedVariableRecord} :
    reducer.validateRemovedRecord (name, record) = .ok () ↔
      ∃ declaration, reducer.environment.declarations[name]? = some declaration ∧
        Buried reducer.environment name record declaration := by
  simp only [validateRemovedRecord, bind_eq_ok, exists_unit, refuseIf_eq_ok,
    CanonicalVariableEnvironment.declaration_eq_ok, not_or]
  refine exists_congr fun declaration => and_congr_right fun _ => ?_
  have gone : ¬ reducer.environment.entries.contains name ↔
      reducer.environment.entries[name]? = none := by
    rw [StringMap.contains_iff, Option.eq_none_iff_forall_ne_some, not_exists]
  have belongs : (if declaration.scope = .branch then
      (validateDirectWriteScope declaration record.writer >>= fun _ => pure ())
        else (pure () : VariableCheck Unit)) = .ok () ↔
      (declaration.scope = .branch →
        ∃ branch, validateDirectWriteScope declaration record.writer = .ok branch) := by
    split <;> simp_all
  rw [gone]
  constructor
  · rintro ⟨⟨absent, scope, version⟩, authorized, branch⟩
    exact ⟨absent, not_and_or.mp scope |>.imp not_not.mp not_not.mp, by omega, authorized,
      belongs.mp branch⟩
  · rintro ⟨absent, scope, version, authorized, branch⟩
    exact ⟨⟨absent, fun neither => scope.elim neither.1 neither.2, by omega⟩, authorized,
      belongs.mpr branch⟩

/-- A snapshot is accepted exactly where it is coherent and faithful. -/
theorem validateReplayed_eq_ok (schema : reducer.initialAuditSchemaVersion = 1) :
    reducer.validateReplayed = .ok () ↔ reducer.Coherent ∧ reducer.Faithful := by
  simp only [validateReplayed, bind_eq_ok, exists_unit, refuseIf_eq_ok, forM_eq_ok, ne_eq, not_not,
    StringMap.forall_toList, validateEventIdentity_eq_ok, isEventIdentity_runtimeProducer,
    and_true, CanonicalVariableEnvironment.validateReplayed_eq_ok,
    validateInitialAssignmentAuditState_eq_ok schema, Nat.not_lt, validateDeclarationHash,
    validateRemovedRecord_eq_ok]
  constructor
  · rintro ⟨identity, ⟨environment, authorized⟩, size, observedDeclared, hashes,
      ⟨audit, observed, seeded, traced⟩, tombstones, bounded, failures⟩
    have hashed : ∀ name, reducer.declarationHashes.contains name →
        reducer.environment.declarations.contains name := by
      intro name present
      refine StringMap.contains_of_size_le (fun key known => ?_) size.le present
      obtain ⟨declaration, found⟩ := StringMap.contains_iff.mp known
      obtain ⟨hash, _, same⟩ := hashes key declaration found
      exact StringMap.contains_iff.mpr ⟨hash, same⟩
    refine ⟨⟨environment, identity, schema, hashed, hashes, observedDeclared, audit, observed,
      fun name hash found => (seeded name hash found).1, ?_, tombstones, bounded, failures⟩,
      authorized, traced, fun name hash found => (seeded name hash found).2⟩
    intro name awaits
    obtain ⟨⟨hash, found⟩, unobserved⟩ := awaitsAudit_iff.mp awaits
    obtain ⟨entry, live, _⟩ := (seeded name hash found).2 unobserved
    exact .inr ⟨entry, live⟩
  · rintro ⟨coherent, faithful⟩
    refine ⟨coherent.identity, ⟨coherent.environment, faithful.authorized⟩, ?_,
      coherent.observedDeclared, coherent.hashes, ⟨coherent.audit, coherent.observed,
      fun name hash found => ⟨coherent.producers name hash found, faithful.spared name hash found⟩,
      faithful.traced⟩, coherent.tombstones, coherent.bounded, coherent.failures⟩
    refine StringMap.size_eq fun name => ⟨coherent.hashed name, fun known => ?_⟩
    obtain ⟨declaration, found⟩ := StringMap.contains_iff.mp known
    obtain ⟨hash, _, same⟩ := coherent.hashes name declaration found
    exact StringMap.contains_iff.mpr ⟨hash, same⟩

end CanonicalVariableEventReducer

end AgentMod
