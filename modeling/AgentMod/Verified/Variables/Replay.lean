import AgentMod.Verified.Variables.Coherence
import AgentMod.Variables.Runs

/-! Which accepted events keep a reducer acceptable to its own snapshot check. -/

namespace AgentMod

namespace CanonicalVariableEventReducer

variable [VariableSerde] [Hashing] {reducer next : CanonicalVariableEventReducer}
  {environment : CanonicalVariableEnvironment} {declaration : VariableDeclaration}
  {entry : CanonicalVariableEntry} {name : String} {hash : ContentHash}

/-- Audited seeds and newly recorded ones keep a reducer coherent, once they are hashed. -/
theorem Coherent.retrace (coherent : reducer.Coherent) {seeded observed : StringMap ContentHash}
    (hashed : AgentMod.initialAssignmentAuditStateHash seeded observed = .ok hash)
    (audited : ∀ (name : String) hash, observed[name]? = some hash → seeded[name]? = some hash)
    (producers : ∀ (name : String) hash, seeded[name]? = some hash →
      ∃ declaration, reducer.environment.declarations[name]? = some declaration ∧
        declaration.producer = runtimeProducer)
    (pending : ∀ (name : String) hash, seeded[name]? = some hash → ¬ observed.contains name →
      reducer.awaitsAudit name) :
    { reducer with
      seededInitialAssignmentHashes := seeded
      observedInitialAssignmentHashes := observed
      initialAssignmentAuditStateHash := some hash }.Coherent where
  environment := coherent.environment
  identity := coherent.identity
  schema := coherent.schema
  hashed := coherent.hashed
  hashes := coherent.hashes
  observedDeclared := coherent.observedDeclared
  audit := ⟨hash, hashed, rfl⟩
  observed := audited
  producers := producers
  pending := by
    intro name awaits
    obtain ⟨⟨hash, found⟩, unobserved⟩ := awaitsAudit_iff.mp awaits
    exact coherent.pending name (pending name hash found unobserved)
  tombstones := by
    intro name record found
    obtain ⟨declaration, known, gone, scope, version, authorized, belongs⟩ :=
      coherent.tombstones name record found
    exact ⟨declaration, known, gone, scope, version, authorized, belongs⟩
  bounded := coherent.bounded
  failures := coherent.failures

theorem Coherent.observeSeed (coherent : reducer.Coherent)
    (found : reducer.seededInitialAssignmentHashes[name]? = some hash)
    (observed : reducer.observeSeed name hash = .ok next) : next.Coherent := by
  simp only [CanonicalVariableEventReducer.observeSeed, refreshInitialAssignmentAuditStateHash,
    bind_eq_ok, pure_eq_ok] at observed
  obtain ⟨stateHash, hashed, rfl⟩ := observed
  refine coherent.retrace hashed ?_ coherent.producers ?_
  · intro other held audited
    rw [StringMap.getElem?_insert'] at audited
    split at audited
    · next same =>
      cases same
      cases audited
      exact found
    · exact coherent.observed other held audited
  · intro other held seeded unobserved
    refine awaitsAudit_iff.mpr ⟨⟨held, seeded⟩, fun present => unobserved ?_⟩
    rw [Std.ExtTreeMap.contains_insert, present, Bool.or_true]

theorem Coherent.recordSeed (coherent : reducer.Coherent)
    (declared : reducer.environment.declarations[name]? = some declaration)
    (produces : declaration.producer = runtimeProducer)
    (recorded : reducer.recordSeed name hash = .ok next) : next.Coherent := by
  simp only [CanonicalVariableEventReducer.recordSeed, CanonicalVariableEventReducer.observeSeed,
    refreshInitialAssignmentAuditStateHash, bind_eq_ok, pure_eq_ok] at recorded
  obtain ⟨stateHash, hashed, rfl⟩ := recorded
  refine coherent.retrace hashed ?_ ?_ ?_
  · intro other held audited
    rw [StringMap.getElem?_insert'] at audited ⊢
    split
    · next same => rwa [if_pos same] at audited
    · next differs =>
      rw [if_neg differs] at audited
      exact coherent.observed other held audited
  · intro other held seeded
    rw [StringMap.getElem?_insert'] at seeded
    split at seeded
    · next same =>
      cases same
      exact ⟨declaration, declared, produces⟩
    · exact coherent.producers other held seeded
  · intro other held seeded unobserved
    rw [Std.ExtTreeMap.contains_insert, Bool.or_eq_true, not_or] at unobserved
    rw [StringMap.getElem?_insert', if_neg (by simpa using unobserved.1)] at seeded
    exact awaitsAudit_iff.mpr ⟨⟨held, seeded⟩, unobserved.2⟩

theorem Coherent.writes (coherent : reducer.Coherent) {expectedVersion : Option Nat}
    (kept : ¬ reducer.removed.contains name)
    (writes : reducer.environment.Writes name declaration expectedVersion entry environment)
    (belongs : validateDirectWriteScope declaration entry.writer = .ok entry.branchId) :
    { reducer with environment }.Coherent := by
  have written := coherent.environment.writes writes belongs
  obtain ⟨declared, version, valid, hash, rfl, size⟩ := writes
  refine { coherent with environment := written, pending := ?_, tombstones := ?_ }
  · intro other awaits
    rcases coherent.pending other awaits with gone | ⟨held, live⟩
    · exact .inl gone
    · refine .inr ?_
      simp only [StringMap.getElem?_insert']
      split
      · exact ⟨entry, rfl⟩
      · exact ⟨held, live⟩
  · intro other record found
    obtain ⟨held, known, gone, scope, version, authorized, belongs⟩ :=
      coherent.tombstones other record found
    refine ⟨held, known, ?_, scope, version, authorized, belongs⟩
    simp only [StringMap.getElem?_insert']
    rw [if_neg]
    · exact gone
    · rintro rfl
      exact kept (StringMap.contains_iff.mpr ⟨record, found⟩)

theorem Coherent.applyDeclared_known (coherent : reducer.Coherent) {event : VariableDeclaredEvent}
    (known : reducer.environment.declarations[event.declaration.name]? = some event.declaration) :
    reducer.applyDeclared event = { reducer with
      observedDeclarations := reducer.observedDeclarations.insert event.declaration.name } := by
  obtain ⟨_, _, hashed⟩ := coherent.hashes _ _ known
  rw [applyDeclared, StringMap.insertIfNew_eq known, StringMap.insertIfNew_eq hashed]

/-- An admitted declaration keeps a reducer coherent. -/
theorem Coherent.declared (coherent : reducer.Coherent) {event : VariableDeclaredEvent}
    (admitted : reducer.Admits event.declaration)
    (hashed : AgentMod.declarationHash event.declaration = .ok event.declarationHash) :
    (reducer.applyDeclared event).Coherent := by
  rcases admitted with ⟨known, _⟩ | ⟨fresh, room, valid⟩
  · rw [coherent.applyDeclared_known known]
    refine { coherent with observedDeclared := ?_ }
    intro name member
    rw [Std.ExtTreeSet.mem_toList, Std.ExtTreeSet.mem_insert,
      Std.LawfulEqCmp.compare_eq_iff_eq] at member
    rcases member with rfl | member
    · exact StringMap.contains_iff.mpr ⟨_, known⟩
    · exact coherent.observedDeclared name (Std.ExtTreeSet.mem_toList.mpr member)
  · -- A new name has no declaration, so no hash, no entry, no seed and no tombstone.
    have unhashed : reducer.declarationHashes[event.declaration.name]? = none := by
      refine Option.eq_none_iff_forall_ne_some.mpr fun other found => ?_
      obtain ⟨_, known⟩ := StringMap.contains_iff.mp
        (coherent.hashed _ (StringMap.contains_iff.mpr ⟨other, found⟩))
      rw [fresh] at known
      contradiction
    have declares : ∀ name, (reducer.environment.declarations.insertIfNew event.declaration.name
        event.declaration)[name]? = if event.declaration.name = name then some event.declaration
          else reducer.environment.declarations[name]? :=
      fun name => StringMap.getElem?_insertIfNew' fresh
    have kept : ∀ (name : String) declaration,
        reducer.environment.declarations[name]? = some declaration →
        (reducer.environment.declarations.insertIfNew event.declaration.name
          event.declaration)[name]? = some declaration := by
      intro name declaration known
      rw [declares, if_neg]
      · exact known
      · rintro rfl
        rw [fresh] at known
        contradiction
    refine { coherent with
      environment := coherent.environment.declare fresh room valid
      hashed := ?_, hashes := ?_, observedDeclared := ?_, producers := ?_, tombstones := ?_ }
    · intro name present
      obtain ⟨hash, found⟩ := StringMap.contains_iff.mp present
      rw [applyDeclared, StringMap.getElem?_insertIfNew' unhashed] at found
      refine StringMap.contains_iff.mpr ?_
      rw [applyDeclared, declares]
      split
      · exact ⟨_, rfl⟩
      · next other =>
        rw [if_neg other] at found
        exact StringMap.contains_iff.mp (coherent.hashed name
          (StringMap.contains_iff.mpr ⟨hash, found⟩))
    · intro name declaration known
      rw [applyDeclared, declares] at known
      rw [applyDeclared, StringMap.getElem?_insertIfNew' unhashed]
      split at known
      · next same =>
        cases known
        exact ⟨_, hashed, by rw [if_pos same]⟩
      · next other =>
        rw [if_neg other]
        exact coherent.hashes name declaration known
    · intro name member
      rw [applyDeclared, Std.ExtTreeSet.mem_toList, Std.ExtTreeSet.mem_insert,
        Std.LawfulEqCmp.compare_eq_iff_eq] at member
      refine StringMap.contains_iff.mpr ?_
      rcases member with rfl | member
      · exact ⟨_, by rw [applyDeclared, declares, if_pos rfl]⟩
      · obtain ⟨declaration, known⟩ := StringMap.contains_iff.mp
          (coherent.observedDeclared name (Std.ExtTreeSet.mem_toList.mpr member))
        exact ⟨declaration, kept name declaration known⟩
    · intro name hash seeded
      obtain ⟨declaration, known, produces⟩ := coherent.producers name hash seeded
      exact ⟨declaration, kept name declaration known, produces⟩
    · intro name record found
      obtain ⟨declaration, known, gone, scope, version, authorized, belongs⟩ :=
        coherent.tombstones name record found
      exact ⟨declaration, kept name declaration known, gone, scope, version, authorized, belongs⟩

/-- A removal keeps a reducer coherent. -/
theorem Coherent.removes (coherent : reducer.Coherent) {event : VariableRemovedEvent}
    (removes : reducer.Removes event declaration entry next) : next.Coherent := by
  obtain ⟨declared, scope, produces, live, belongs, fits, owned, rfl⟩ := removes
  refine { coherent with
    environment := coherent.environment.erase live, pending := ?_, tombstones := ?_ }
  · intro name awaits
    by_cases same : event.binding.variableName = name
    · refine .inl ?_
      rw [Std.ExtTreeMap.contains_insert, same]
      simp
    · rcases coherent.pending name awaits with gone | ⟨held, found⟩
      · refine .inl ?_
        rw [Std.ExtTreeMap.contains_insert, gone, Bool.or_true]
      · refine .inr ⟨held, ?_⟩
        rw [StringMap.getElem?_erase', if_neg same]
        exact found
  · intro name record found
    rw [StringMap.getElem?_insert'] at found
    split at found
    · next same =>
      cases same
      cases found
      refine ⟨declaration, declared, ?_, scope, by simp, ?_, fun _ => ⟨_, belongs⟩⟩
      · rw [StringMap.getElem?_erase', if_pos rfl]
      · exact authorizeReplayedWriter_eq_ok.mpr (.inl produces)
    · next other =>
      obtain ⟨held, known, gone, scope, version, authorized, belongs⟩ :=
        coherent.tombstones name record found
      refine ⟨held, known, ?_, scope, version, authorized, belongs⟩
      rw [StringMap.getElem?_erase', if_neg other]
      exact gone

theorem Coherent.fails (coherent : reducer.Coherent) {event : VariableValidationFailedEvent}
    {error : VariableEnvironmentError} (identified : isEventIdentity event.binding.nodeId)
    (fails : reducer.Fails event error next) : next.Coherent := by
  obtain ⟨_, prepared, room, rfl⟩ := fails
  refine { coherent with bounded := ?_, failures := ?_ }
  · rw [List.length_append, List.length_singleton]
    omega
  · intro failure member
    rcases List.mem_append.mp member with earlier | last
    · exact coherent.failures failure earlier
    · rw [List.mem_singleton] at last
      subst last
      obtain ⟨⟨runId, nodeId, variableName, prior, later, valueHash, artifacts⟩, attempt, code⟩ :=
        failure
      simp only [prepareFailure, binding, bind_eq_ok, pure_eq_ok,
        VariableValidationFailedEvent.mk.injEq, CanonicalVariableEventBinding.mk.injEq] at prepared
      obtain ⟨hash, hashed, ⟨rfl, _, rfl, rfl, rfl, rfl, rfl⟩, _⟩ := prepared
      simp only [validateFailureStatic, bind_eq_ok, exists_unit, validateEventIdentity_eq_ok,
        refuseIf_eq_ok, hashed, ne_eq, not_true_eq_false, or_self, not_false_eq_true, true_and]
      exact ⟨⟨coherent.identity, identified⟩, _, rfl, not_not.mpr rfl⟩

/-- Every accepted event keeps a reducer coherent. -/
theorem Coherent.accepts (coherent : reducer.Coherent) {event : CanonicalVariableEvent}
    (accepted : reducer.Accepts event next) : next.Coherent := by
  cases event with
  | declared event =>
    obtain ⟨_, admitted, _, hashed, rfl⟩ := accepts_declared.mp accepted
    exact coherent.declared admitted hashed
  | assigned event =>
    obtain ⟨_, kept, ⟨entry, audits, leads⟩ | ⟨entry, environment, assigns, leads⟩⟩ :=
      (accepts_assigned coherent.knows).mp accepted
    · obtain ⟨_, _, _, seed, _⟩ := observesSeed_iff.mp audits.observes
      rw [audits.owned] at seed
      exact coherent.observeSeed seed leads
    · obtain ⟨declaration, writes, _, writer, produces, belongs⟩ :=
        CanonicalVariableEnvironment.assign_eq_ok.mp assigns.assigned
      have written := coherent.writes kept writes (writer ▸ belongs)
      unfold traceAssigned at leads
      split at leads
      · next first =>
        have declared : environment.declarations[event.binding.variableName]? =
            some declaration := by
          rw [writes.leads]
          exact writes.declared
        have runtime : declaration.producer = runtimeProducer := by
          rw [produces, first.1]
          rfl
        exact written.recordSeed declared runtime leads
      · cases leads
        exact written
  | merged event =>
    obtain ⟨_, kept, _, entry, environment, merges⟩ := accepts_merged.mp accepted
    obtain ⟨declaration, writes, merged, writer, outer⟩ :=
      CanonicalVariableEnvironment.mergeBranches_eq_ok.mp merges.merged
    obtain ⟨outside, shared, _⟩ := CanonicalVariableEnvironment.mergedValue_eq_ok merged
    rw [merges.leads]
    refine coherent.writes kept writes ?_
    rw [outer, writer]
    exact scope_of_outside outside shared
  | removed event =>
    obtain ⟨_, _, _, _, removes⟩ := accepts_removed.mp accepted
    exact coherent.removes removes
  | validationFailed event =>
    obtain ⟨⟨_, identified⟩, _, fails⟩ := accepts_failed.mp accepted
    exact coherent.fails identified fails

theorem coherent_new {runId : String} {limits : VariableEnvironmentLimits}
    (created : new runId limits = .ok reducer) : reducer.Coherent ∧ reducer.Faithful := by
  simp only [new, CanonicalVariableEnvironment.new, bind_eq_ok, exists_unit,
    validateEventIdentity_eq_ok, refuseIf_eq_ok, List.foldlM_nil, pure_eq_ok] at created
  obtain ⟨⟨identity, _⟩, _, ⟨limited, _, rfl, bounded, rfl⟩, hash, hashed, rfl⟩ := created
  have empty : (∅ : StringMap CanonicalVariableEntry).values = [] := by
    rw [StringMap.values_eq]
    simp
  refine ⟨⟨⟨limited, by simp, by simp, by simp, ?_⟩, identity, rfl, by simp, by simp,
    by simp, ⟨hash, hashed, rfl⟩, by simp, by simp, by simp [awaitsAudit], by simp, by simp,
    by simp⟩, by simp [CanonicalVariableEnvironment.Authorized], by simp, by simp⟩
  rw [CanonicalVariableEnvironment.validateEnvironmentSize_eq_ok]
  simp [empty]

theorem coherent_initialized {runId : String} {limits : VariableEnvironmentLimits}
    {declarations : List VariableDeclaration}
    {initialValues : List (String × CanonicalVariableValue)}
    (created : initializeReducer runId limits declarations initialValues = .ok reducer) :
    reducer.Coherent ∧ reducer.Faithful := by
  simp only [initializeReducer, bind_eq_ok, exists_unit, pure_eq_ok] at created
  obtain ⟨empty, fresh, declared, declares, seeded, seeds, _, refreshed, valid, rfl⟩ := created
  -- Seeding keeps the audit schema that `new` sets, so the final check speaks for the reducer.
  have schema : empty.initialAuditSchemaVersion = 1 := (coherent_new fresh).1.schema
  have declaredSchema : declared.initialAuditSchemaVersion = 1 := by
    refine foldlM_invariant (fun _ reducer => reducer.initialAuditSchemaVersion = 1) declares schema
      fun _ declaration _ before after _ kept taken => ?_
    simp only [seedDeclaration, bind_eq_ok, pure_eq_ok] at taken
    obtain ⟨_, _, _, _, _, _, _, _, rfl⟩ := taken
    exact kept
  have seededSchema : seeded.initialAuditSchemaVersion = 1 := by
    refine foldlM_invariant (fun _ reducer => reducer.initialAuditSchemaVersion = 1) seeds
      declaredSchema fun _ named _ before after _ kept taken => ?_
    simp only [seedValue, bind_eq_ok, pure_eq_ok] at taken
    obtain ⟨_, _, rfl⟩ := taken
    exact kept
  simp only [refreshInitialAssignmentAuditStateHash, bind_eq_ok, pure_eq_ok] at refreshed
  obtain ⟨_, _, rfl⟩ := refreshed
  refine (validateReplayed_eq_ok ?_).mp valid
  exact seededSchema

theorem Initial.coherent (initial : reducer.Initial) : reducer.Coherent ∧ reducer.Faithful := by
  cases initial with
  | new created => exact coherent_new created
  | initialized created => exact coherent_initialized created

theorem Coherent.run {start : CanonicalVariableEventReducer} {steps : List VariableStep}
    (coherent : start.Coherent) (run : Run VariableStep.Taken start steps reducer) :
    reducer.Coherent := by
  refine run.invariant coherent fun state step next taken kept => ?_
  exact kept.accepts taken.2.2

theorem Reachable.coherent (reachable : reducer.Reachable) : reducer.Coherent := by
  obtain ⟨start, steps, initial, run⟩ := reachable
  exact initial.coherent.1.run run

theorem Faithful.declared (faithful : reducer.Faithful) (coherent : reducer.Coherent)
    {event : VariableDeclaredEvent} (admitted : reducer.Admits event.declaration) :
    (reducer.applyDeclared event).Faithful := by
  refine ⟨?_, faithful.traced, faithful.spared⟩
  intro name entry declaration found known
  -- A variable with a live entry has been declared before.
  obtain ⟨held, declared, _⟩ := coherent.environment.entries name entry found
  rcases admitted with ⟨old, _⟩ | ⟨fresh, _⟩
  · rw [coherent.applyDeclared_known old] at known
    exact faithful.authorized name entry declaration found known
  · rw [applyDeclared, StringMap.getElem?_insertIfNew' fresh, if_neg] at known
    · exact faithful.authorized name entry declaration found known
    · rintro rfl
      rw [fresh] at declared
      contradiction

theorem Faithful.observeSeed (faithful : reducer.Faithful)
    (observed : reducer.observeSeed name hash = .ok next) : next.Faithful := by
  simp only [CanonicalVariableEventReducer.observeSeed, refreshInitialAssignmentAuditStateHash,
    bind_eq_ok, pure_eq_ok] at observed
  obtain ⟨_, _, rfl⟩ := observed
  refine ⟨faithful.authorized, faithful.traced, fun other held seeded unobserved => ?_⟩
  refine faithful.spared other held seeded fun present => unobserved ?_
  rw [Std.ExtTreeMap.contains_insert, present, Bool.or_true]

/-- A written entry keeps a reducer faithful exactly where it spares seeds before their audits, is
traced back to a seed if the runtime wrote it, and has an authorized writer. -/
theorem Faithful.writes_iff (faithful : reducer.Faithful) {expectedVersion : Option Nat}
    (writes : reducer.environment.Writes name declaration expectedVersion entry environment) :
    Faithful { reducer with environment } ↔ ¬ reducer.awaitsAudit name ∧
      (entry.writer = .runtime → reducer.seededInitialAssignmentHashes.contains name) ∧
      authorizeReplayedWriter declaration entry.writer = .ok () := by
  obtain ⟨declared, version, _, _, rfl, _⟩ := writes
  obtain ⟨expected, positive, _⟩ := nextVersion_eq_ok.mp version
  constructor
  · intro after
    refine ⟨fun awaits => ?_, fun runtime => after.traced name entry ?_ runtime,
      after.authorized name entry declaration ?_ declared⟩
    · -- The seed is live under the first version, so the write is under the second.
      obtain ⟨⟨hash, seeded⟩, unobserved⟩ := awaitsAudit_iff.mp awaits
      obtain ⟨seed, live, first, _⟩ := faithful.spared name hash seeded unobserved
      obtain ⟨held, found, still, _⟩ := after.spared name hash seeded unobserved
      simp only [StringMap.getElem?_insert', if_pos, Option.some.injEq] at found
      rw [live, Option.map_some, first] at expected
      rw [expected, Option.getD_some] at positive
      rw [found] at positive
      omega
    · simp only [StringMap.getElem?_insert', if_pos]
    · simp only [StringMap.getElem?_insert', if_pos]
  · rintro ⟨spares, traced, authorized⟩
    refine ⟨fun other held known found declares => ?_, fun other held found runtime => ?_,
      fun other held seeded unobserved => ?_⟩
    · simp only [StringMap.getElem?_insert'] at found
      split at found
      · next same =>
        cases same
        cases found
        rw [declared] at declares
        cases declares
        exact authorized
      · exact faithful.authorized other held known found declares
    · simp only [StringMap.getElem?_insert'] at found
      split at found
      · next same =>
        cases same
        cases found
        exact traced runtime
      · exact faithful.traced other held found runtime
    · obtain ⟨seed, live, rest⟩ := faithful.spared other held seeded unobserved
      refine ⟨seed, ?_, rest⟩
      simp only [StringMap.getElem?_insert']
      rw [if_neg]
      · exact live
      · rintro rfl
        exact spares (awaitsAudit_iff.mpr ⟨⟨held, seeded⟩, unobserved⟩)

/-- A first assignment by the runtime keeps a reducer faithful. -/
theorem Faithful.recordSeed (faithful : reducer.Faithful) {expectedVersion : Option Nat}
    (writes : reducer.environment.Writes name declaration expectedVersion entry environment)
    (authorized : authorizeReplayedWriter declaration entry.writer = .ok ())
    (recorded : recordSeed { reducer with environment } name hash = .ok next) :
    next.Faithful := by
  obtain ⟨declared, _, _, _, rfl, _⟩ := writes
  simp only [CanonicalVariableEventReducer.recordSeed, CanonicalVariableEventReducer.observeSeed,
    refreshInitialAssignmentAuditStateHash, bind_eq_ok, pure_eq_ok] at recorded
  obtain ⟨_, _, rfl⟩ := recorded
  refine ⟨fun other held known found declares => ?_, fun other held found runtime => ?_,
    fun other held seeded unobserved => ?_⟩
  · simp only [StringMap.getElem?_insert'] at found
    split at found
    · next same =>
      cases same
      cases found
      rw [declared] at declares
      cases declares
      exact authorized
    · exact faithful.authorized other held known found declares
  · simp only [StringMap.getElem?_insert'] at found
    rw [Std.ExtTreeMap.contains_insert]
    split at found
    · next same => simp [same]
    · rw [faithful.traced other held found runtime, Bool.or_true]
  · -- The recorded seed is observed, and the others are as before.
    rw [Std.ExtTreeMap.contains_insert, Bool.or_eq_true, not_or] at unobserved
    have differs : name ≠ other := by simpa using unobserved.1
    rw [StringMap.getElem?_insert', if_neg differs] at seeded
    obtain ⟨seed, live, rest⟩ := faithful.spared other held seeded unobserved.2
    refine ⟨seed, ?_, rest⟩
    simp only [StringMap.getElem?_insert', if_neg differs]
    exact live

omit [VariableSerde] [Hashing] in
theorem Faithful.removes_iff (faithful : reducer.Faithful) {event : VariableRemovedEvent}
    (removes : reducer.Removes event declaration entry next) :
    next.Faithful ↔ ¬ reducer.awaitsAudit event.binding.variableName := by
  obtain ⟨_, _, _, _, _, _, _, rfl⟩ := removes
  constructor
  · intro after awaits
    obtain ⟨⟨hash, seeded⟩, unobserved⟩ := awaitsAudit_iff.mp awaits
    obtain ⟨held, found, _⟩ := after.spared _ hash seeded unobserved
    simp at found
  · intro spares
    refine ⟨fun other held known found declares => ?_, fun other held found runtime => ?_,
      fun other held seeded unobserved => ?_⟩
    · simp only [StringMap.getElem?_erase'] at found
      split at found
      · contradiction
      · exact faithful.authorized other held known found declares
    · simp only [StringMap.getElem?_erase'] at found
      split at found
      · contradiction
      · exact faithful.traced other held found runtime
    · obtain ⟨seed, live, rest⟩ := faithful.spared other held seeded unobserved
      refine ⟨seed, ?_, rest⟩
      simp only [StringMap.getElem?_erase']
      rw [if_neg]
      · exact live
      · rintro rfl
        exact spares (awaitsAudit_iff.mpr ⟨⟨held, seeded⟩, unobserved⟩)

/-- An accepted event keeps a reducer faithful exactly where it keeps it replayable. -/
theorem Faithful.accepts_iff (faithful : reducer.Faithful) (coherent : reducer.Coherent)
    {event : CanonicalVariableEvent} (accepted : reducer.Accepts event next) :
    next.Faithful ↔ reducer.KeepsReplayable event := by
  cases event with
  | declared event =>
    obtain ⟨_, admitted, _, _, rfl⟩ := accepts_declared.mp accepted
    exact iff_of_true (faithful.declared coherent admitted) trivial
  | assigned event =>
    obtain ⟨_, kept, ⟨entry, audits, leads⟩ | ⟨entry, environment, assigns, leads⟩⟩ :=
      (accepts_assigned coherent.knows).mp accepted
    · exact iff_of_true (faithful.observeSeed leads) (.inl audits.observes)
    · obtain ⟨declaration, writes, _, writer, produces, _⟩ :=
        CanonicalVariableEnvironment.assign_eq_ok.mp assigns.assigned
      have authorized : authorizeReplayedWriter declaration entry.writer = .ok () :=
        authorizeReplayedWriter_eq_ok.mpr (.inl (writer ▸ produces))
      simp only [KeepsReplayable, assigns.observes, Bool.false_eq_true, false_or]
      unfold traceAssigned at leads
      split at leads
      · next first =>
        refine iff_of_true (faithful.recordSeed writes authorized leads)
          ⟨fun awaits => ?_, fun _ => .inl first.2⟩
        -- A seed that awaits its audit is live, so a write over it expects a version.
        obtain ⟨⟨hash, seeded⟩, unobserved⟩ := awaitsAudit_iff.mp awaits
        obtain ⟨seed, live, _⟩ := faithful.spared _ hash seeded unobserved
        have expected := (nextVersion_eq_ok.mp writes.version).1
        rw [live, first.2] at expected
        exact absurd expected (by simp)
      · next later =>
        cases leads
        rw [faithful.writes_iff writes, writer]
        refine and_congr_right fun _ => ?_
        constructor
        · rintro ⟨traced, _⟩ runtime
          exact .inr (traced runtime)
        · intro traced
          refine ⟨fun runtime => (traced runtime).resolve_left fun first => later ⟨runtime, first⟩,
            ?_⟩
          rwa [writer] at authorized
  | merged event =>
    obtain ⟨_, kept, _, entry, environment, merges⟩ := accepts_merged.mp accepted
    obtain ⟨declaration, writes, _, writer, _⟩ :=
      CanonicalVariableEnvironment.mergeBranches_eq_ok.mp merges.merged
    rw [merges.leads, faithful.writes_iff writes, writer]
    simp [KeepsReplayable, writes.declared]
  | removed event =>
    obtain ⟨_, _, _, _, removes⟩ := accepts_removed.mp accepted
    exact faithful.removes_iff removes
  | validationFailed event =>
    obtain ⟨_, _, fails⟩ := accepts_failed.mp accepted
    rw [fails.leads]
    exact iff_of_true ⟨faithful.authorized, faithful.traced, faithful.spared⟩ trivial

theorem Coherent.validateReplayed_iff (coherent : reducer.Coherent) :
    reducer.validateReplayed = .ok () ↔ reducer.Faithful := by
  rw [validateReplayed_eq_ok coherent.schema]
  exact and_iff_right coherent

/-- Along a run, every reducer passes its own snapshot check exactly when every event spares seeded
values before their audits, traces what the runtime writes back to a seed, and merges only as the
producer or an outside node. -/
theorem replay_validation_iff {start finish : CanonicalVariableEventReducer}
    {steps : List VariableStep} (initial : start.Initial)
    (run : Run VariableStep.Taken start steps finish) :
    (start.validateReplayed = .ok () ∧ ∀ step ∈ steps, step.after.validateReplayed = .ok ()) ↔
      ∀ step ∈ steps, step.before.KeepsReplayable step.event := by
  obtain ⟨coherent, faithful⟩ := initial.coherent
  rw [and_iff_right (coherent.validateReplayed_iff.mpr faithful)]
  -- While all events keep the reducer replayable, it is faithful, and the next event decides.
  suffices ((∀ step ∈ steps, step.after.validateReplayed = .ok ()) ↔
      ∀ step ∈ steps, step.before.KeepsReplayable step.event) ∧
      ((∀ step ∈ steps, step.before.KeepsReplayable step.event) → finish.Faithful) from this.1
  induction run with
  | nil => exact ⟨by simp, fun _ => faithful⟩
  | snoc earlier taken ih =>
    obtain ⟨rfl, rfl, accepted⟩ := taken
    have before := coherent.run earlier
    simp only [List.forall_mem_append, List.forall_mem_singleton]
    rw [ih.1]
    refine ⟨and_congr_right fun kept => ?_, fun kept => ?_⟩
    · rw [(before.accepts accepted).validateReplayed_iff]
      exact (ih.2 kept).accepts_iff before accepted
    · exact ((ih.2 kept.1).accepts_iff before accepted).mpr kept.2

end CanonicalVariableEventReducer

section Sample

attribute [local instance] plainVariables prefixHash

theorem run_of_accepts {start next : CanonicalVariableEventReducer}
    {event : CanonicalVariableEvent} (accepted : start.Accepts event next) :
    Run VariableStep.Taken start [⟨start, event, next⟩] next :=
  Run.nil.snoc ⟨rfl, rfl, accepted⟩

/-- The evaluation of the audit of the sample's seed. -/
instance seededFlag_audited : Fact ((returns seededFlag fun start =>
    returns (start.apply flagAudit) fun _ => start.isSeedAudit flagAudit) = true) where
  out := by decide +kernel

/-- The evaluation of a write over the sample's seed. -/
instance seededFlag_invalid : Fact ((returns seededFlag fun start =>
    returns (start.apply (flagCleared "intruder")) fun applied =>
      !returns applied.1.validateReplayed fun _ => true) = true) where
  out := by decide +kernel

theorem seededFlag_audit : ∃ start next : CanonicalVariableEventReducer,
    start.Initial ∧ start.Accepts flagAudit next ∧ start.isSeedAudit flagAudit := by
  obtain ⟨start, created, passes⟩ := returns_eq_true.mp seededFlag_audited.out
  obtain ⟨⟨next, outcome⟩, applied, audit⟩ := returns_eq_true.mp passes
  exact ⟨start, next, .initialized created, ⟨outcome, applied⟩, audit⟩

theorem seededFlag_cleared : ∃ start next : CanonicalVariableEventReducer,
    start.Initial ∧ start.Accepts (flagCleared "intruder") next ∧
      next.validateReplayed ≠ .ok () := by
  obtain ⟨start, created, passes⟩ := returns_eq_true.mp seededFlag_invalid.out
  obtain ⟨⟨next, outcome⟩, applied, rejected⟩ := returns_eq_true.mp passes
  refine ⟨start, next, .initialized created, ⟨outcome, applied⟩, fun validates => ?_⟩
  simp [returns, validates] at rejected

/-- An accepted event can leave a reducer that its own snapshot check rejects. -/
theorem not_replay_validates : ¬ ∀ reducer : CanonicalVariableEventReducer,
    reducer.Reachable → reducer.validateReplayed = .ok () := by
  intro validates
  obtain ⟨start, next, initial, accepted, rejected⟩ := seededFlag_cleared
  exact rejected (validates next ⟨start, _, initial, run_of_accepts accepted⟩)

/-- Behind the audit of its seed, the sample's reducer passes its own snapshot check. -/
theorem replay_validation_iff_sample : ∃ start next : CanonicalVariableEventReducer,
    start.Accepts flagAudit next ∧ next.validateReplayed = .ok () := by
  obtain ⟨start, next, initial, accepted, audit⟩ := seededFlag_audit
  have keeps : ∀ step ∈ [VariableStep.mk start flagAudit next],
      step.before.KeepsReplayable step.event :=
    List.forall_mem_singleton.mpr (.inl audit)
  have validates := (CanonicalVariableEventReducer.replay_validation_iff initial
    (run_of_accepts accepted)).mpr keeps
  exact ⟨start, next, accepted, validates.2 _ (List.mem_singleton_self _)⟩

end Sample

end AgentMod
