import AgentMod.Verified.Variables.Replay

/-! The history of a variable: its versions, its removal, and what other variables keep. -/

namespace AgentMod

section Histories

variable [VariableSerde] [Hashing] {reducer next : CanonicalVariableEventReducer}
  {environment : CanonicalVariableEnvironment} {declaration : VariableDeclaration}
  {entry : CanonicalVariableEntry} {name : String}

namespace CanonicalVariableEnvironment

theorem Writes.frame {before : CanonicalVariableEnvironment} {expectedVersion : Option Nat}
    (writes : before.Writes name declaration expectedVersion entry environment) :
    environment.entries[name]? = some entry ∧
      (∀ other, other ≠ name → environment.entries[other]? = before.entries[other]?) ∧
      environment.declarations = before.declarations := by
  obtain ⟨_, _, _, _, rfl, _⟩ := writes
  refine ⟨by simp only [StringMap.getElem?_insert', if_pos], fun other differs => ?_, rfl⟩
  simp only [StringMap.getElem?_insert', if_neg differs.symm]

end CanonicalVariableEnvironment

namespace CanonicalVariableEventReducer

theorem observeSeed_frame {hash : ContentHash}
    (observed : reducer.observeSeed name hash = .ok next) :
    next.environment = reducer.environment ∧ next.removed = reducer.removed := by
  simp only [observeSeed, refreshInitialAssignmentAuditStateHash, bind_eq_ok,
    pure_eq_ok] at observed
  obtain ⟨_, _, rfl⟩ := observed
  exact ⟨rfl, rfl⟩

theorem traceAssigned_frame {event : VariableAssignedEvent} {hash : ContentHash}
    (traced : reducer.traceAssigned event hash = .ok next) :
    next.environment = reducer.environment ∧ next.removed = reducer.removed := by
  unfold traceAssigned at traced
  split at traced
  · unfold recordSeed at traced
    have frame := observeSeed_frame traced
    exact frame
  · cases traced
    exact ⟨rfl, rfl⟩

/-- An event that only writes an entry follows the history of its variable. -/
theorem Coherent.follows_write (coherent : reducer.Coherent) {event : CanonicalVariableEvent}
    {expectedVersion : Option Nat}
    (writes : reducer.environment.Writes event.binding.variableName declaration expectedVersion
      entry environment)
    (kept : ¬ reducer.removed.contains event.binding.variableName)
    (changes : reducer.changesValue event) (stays : event.isRemoval = false)
    (leads : next.environment = environment) (buried : next.removed = reducer.removed) :
    VariableStep.FollowsHistory ⟨reducer, event, next⟩ := by
  obtain ⟨written, others, declares⟩ := writes.frame
  obtain ⟨expected, version, _⟩ := nextVersion_eq_ok.mp writes.version
  subst leads
  refine ⟨fun _ => ⟨entry, written, by rw [version, expected]⟩, fun quiet => ?_, fun removal => ?_,
    fun name record found => ?_, fun name held old found immutable live => ?_,
    fun name held known => by rwa [declares], fun name differs => ?_⟩
  · rw [changes] at quiet
    contradiction
  · rw [stays] at removal
    contradiction
  · -- What has a tombstone is not live, and another variable than the written one.
    obtain ⟨_, _, gone, _⟩ := coherent.tombstones name record found
    have differs : name ≠ event.binding.variableName := by
      rintro rfl
      exact kept (StringMap.contains_iff.mpr ⟨record, found⟩)
    exact ⟨by rw [buried, found], by rw [others name differs, gone]⟩
  · by_cases same : name = event.binding.variableName
    · -- A write over a live entry needs a mutable declaration.
      subst same
      rw [writes.declared] at found
      cases found
      have mutable := (nextVersion_eq_ok.mp writes.version).2.2 (by rw [live]; rfl)
      rw [immutable] at mutable
      exact absurd mutable.1 (by decide)
    · exact .inl (by rw [others name same, live])
  · exact ⟨others name differs, by rw [buried], by rw [declares]⟩

theorem Coherent.follows_quiet (coherent : reducer.Coherent) {event : CanonicalVariableEvent}
    (quiet : reducer.changesValue event = false) (stays : event.isRemoval = false)
    (same : next.environment.entries = reducer.environment.entries)
    (buried : next.removed = reducer.removed)
    (declares : ∀ (name : String) declaration,
      reducer.environment.declarations[name]? = some declaration →
        next.environment.declarations[name]? = some declaration)
    (frame : ∀ name, name ≠ event.binding.variableName →
      next.environment.declarations[name]? = reducer.environment.declarations[name]?) :
    VariableStep.FollowsHistory ⟨reducer, event, next⟩ := by
  refine ⟨fun changes => ?_, fun _ _ => same, fun removal => ?_, fun name record found => ?_,
    fun name held old found immutable live => .inl (by rw [same, live]), declares,
    fun name differs => ⟨by rw [same], by rw [buried], frame name differs⟩⟩
  · rw [quiet] at changes
    contradiction
  · rw [stays] at removal
    contradiction
  · obtain ⟨_, _, gone, _⟩ := coherent.tombstones name record found
    exact ⟨by rw [buried, found], by rw [same, gone]⟩

/-- Every accepted event follows the history of the variables. -/
theorem Coherent.follows (coherent : reducer.Coherent) {event : CanonicalVariableEvent}
    (accepted : reducer.Accepts event next) :
    VariableStep.FollowsHistory ⟨reducer, event, next⟩ := by
  cases event with
  | declared event =>
    obtain ⟨_, admitted, owned, _, rfl⟩ := accepts_declared.mp accepted
    have about : event.binding.variableName = event.declaration.name := by rw [owned]; rfl
    refine coherent.follows_quiet rfl rfl rfl rfl ?_ ?_
    · intro name declaration known
      rcases admitted with ⟨old, _⟩ | ⟨fresh, _⟩
      · rw [coherent.applyDeclared_known old]
        exact known
      · rw [applyDeclared, StringMap.getElem?_insertIfNew' fresh, if_neg]
        · exact known
        · rintro rfl
          rw [fresh] at known
          contradiction
    · intro name differs
      rw [CanonicalVariableEvent.binding, about] at differs
      rcases admitted with ⟨old, _⟩ | ⟨fresh, _⟩
      · rw [coherent.applyDeclared_known old]
      · rw [applyDeclared, StringMap.getElem?_insertIfNew' fresh, if_neg differs.symm]
  | assigned event =>
    obtain ⟨_, kept, ⟨entry, audits, leads⟩ | ⟨entry, environment, assigns, leads⟩⟩ :=
      (accepts_assigned coherent.knows).mp accepted
    · obtain ⟨same, buried⟩ := observeSeed_frame leads
      exact coherent.follows_quiet (by simp [changesValue, audits.observes]) rfl (by rw [same])
        buried (fun _ _ known => by rwa [same]) fun _ _ => by rw [same]
    · obtain ⟨declaration, writes, _⟩ :=
        CanonicalVariableEnvironment.assign_eq_ok.mp assigns.assigned
      obtain ⟨same, buried⟩ := traceAssigned_frame leads
      refine @follows_write _ _ _ _ _ _ _ coherent (.assigned event) _ writes kept ?_ rfl same
        buried
      simp [changesValue, assigns.observes]
  | merged event =>
    obtain ⟨_, kept, _, entry, environment, merges⟩ := accepts_merged.mp accepted
    obtain ⟨declaration, writes, _⟩ :=
      CanonicalVariableEnvironment.mergeBranches_eq_ok.mp merges.merged
    rw [merges.leads]
    exact @follows_write _ _ _ _ _ _ _ coherent (.merged event) _ writes kept rfl rfl rfl rfl
  | removed event =>
    obtain ⟨_, kept, declaration, entry, removes⟩ := accepts_removed.mp accepted
    rw [removes.leads]
    refine ⟨fun changes => absurd changes (by simp [changesValue]), fun _ stays => absurd stays
      (by simp [CanonicalVariableEvent.isRemoval]), fun _ => ?_, fun name record found => ?_,
      fun name held old found immutable live => ?_, fun _ _ known => known,
      fun name differs => ?_⟩
    · simp [CanonicalVariableEvent.binding]
    · obtain ⟨_, _, gone, _⟩ := coherent.tombstones name record found
      have differs : event.binding.variableName ≠ name := by
        rintro rfl
        exact kept (StringMap.contains_iff.mpr ⟨record, found⟩)
      simp only [StringMap.getElem?_insert', StringMap.getElem?_erase', if_neg differs]
      exact ⟨found, gone⟩
    · by_cases same : event.binding.variableName = name
      · refine .inr ?_
        simp only [Std.ExtTreeMap.contains_insert, same]
        simp
      · refine .inl ?_
        simp only [StringMap.getElem?_erase', if_neg same]
        exact live
    · have other : event.binding.variableName ≠ name := Ne.symm differs
      simp only [StringMap.getElem?_insert', StringMap.getElem?_erase', if_neg other, and_self]
  | validationFailed event =>
    obtain ⟨_, _, fails⟩ := accepts_failed.mp accepted
    rw [fails.leads]
    exact coherent.follows_quiet rfl rfl rfl rfl (fun _ _ known => known) fun _ _ => rfl

theorem entries_new {runId : String} {limits : VariableEnvironmentLimits}
    (created : new runId limits = .ok reducer) : reducer.environment.entries = ∅ := by
  simp only [new, CanonicalVariableEnvironment.new, bind_eq_ok, pure_eq_ok] at created
  obtain ⟨_, _, _, ⟨_, _, _, _, _, _, rfl⟩, _, _, rfl⟩ := created
  rfl

/-- The entries that a run starts with are under their first versions. -/
theorem Initial.versions (initial : reducer.Initial)
    (live : reducer.environment.entries[name]? = some entry) : entry.version = 1 := by
  cases initial with
  | new created =>
    rw [entries_new created] at live
    simp at live
  | initialized created =>
    simp only [initializeReducer, bind_eq_ok, exists_unit, pure_eq_ok] at created
    obtain ⟨empty, fresh, declared, declares, seeded, seeds, _, refreshed, _, rfl⟩ := created
    simp only [refreshInitialAssignmentAuditStateHash, bind_eq_ok, pure_eq_ok] at refreshed
    obtain ⟨_, _, rfl⟩ := refreshed
    have unassigned : declared.environment.entries = ∅ := by
      refine foldlM_invariant (fun _ reducer => reducer.environment.entries = ∅) declares
        (entries_new fresh) fun _ declaration _ before after _ kept taken => ?_
      simp only [seedDeclaration, bind_eq_ok, pure_eq_ok] at taken
      obtain ⟨_, _, _, _, _, _, _, _, rfl⟩ := taken
      exact kept
    -- A seed is a first assignment, which leaves the other entries.
    have first : ∀ (name : String) entry, seeded.environment.entries[name]? = some entry →
        entry.version = 1 := by
      refine foldlM_invariant (fun _ reducer => ∀ (name : String) entry,
        reducer.environment.entries[name]? = some entry → entry.version = 1) seeds
        (by simp [unassigned]) fun _ named _ before after _ kept taken => ?_
      simp only [seedValue, bind_eq_ok, pure_eq_ok] at taken
      obtain ⟨assigned, returned, rfl⟩ := taken
      obtain ⟨_, writes, _⟩ := CanonicalVariableEnvironment.assign_eq_ok.mp
        (Prod.ext returned rfl)
      obtain ⟨written, others, _⟩ := writes.frame
      intro name entry found
      by_cases same : name = named.1
      · subst same
        rw [written] at found
        cases found
        exact (nextVersion_eq_ok.mp writes.version).2.1
      · rw [others name same] at found
        exact kept name entry found
    exact first name entry live

end CanonicalVariableEventReducer

namespace VariableStep

variable {step : VariableStep}

omit [VariableSerde] [Hashing] in
/-- A step that changes a value counts its version on; any other step leaves the version. -/
theorem FollowsHistory.counted (follows : step.FollowsHistory) {count : Nat}
    (live : ∀ entry, step.before.environment.entries[name]? = some entry → entry.version = count)
    (unused : step.before.environment.entries[name]? = none →
      step.before.removed.contains name ∨ count = 0) :
    (∀ entry, step.after.environment.entries[name]? = some entry →
      entry.version = count + (if step.changes name then 1 else 0)) ∧
    (step.after.environment.entries[name]? = none → step.after.removed.contains name ∨
      count + (if step.changes name then 1 else 0) = 0) := by
  have stays : step.before.removed.contains name →
      step.after.removed.contains name ∧ step.after.environment.entries[name]? = none := by
    intro gone
    obtain ⟨record, found⟩ := StringMap.contains_iff.mp gone
    obtain ⟨kept, absent⟩ := follows.removed name record found
    exact ⟨StringMap.contains_iff.mpr ⟨record, kept⟩, absent⟩
  cases changes : step.changes name with
  | true =>
    obtain ⟨same, changed⟩ := Bool.and_eq_true_iff.mp changes
    rw [beq_iff_eq] at same
    obtain ⟨entry, written, version⟩ := follows.versions changed
    rw [same] at written version
    have prior : (step.before.environment.entries[name]?.map
        CanonicalVariableEntry.version).getD 0 = count := by
      cases found : step.before.environment.entries[name]? with
      | some old => simp [live old found]
      | none =>
        rcases unused found with gone | zero
        · have absent := (stays gone).2
          rw [written] at absent
          contradiction
        · simp [zero]
    refine ⟨fun other found => ?_, fun absent => ?_⟩
    · rw [written] at found
      cases found
      simp [version, prior]
    · rw [written] at absent
      contradiction
  | false =>
    simp only [Bool.false_eq_true, if_false, Nat.add_zero]
    -- The entry is as it was, unless the step removes it.
    have same : step.after.environment.entries[name]? = step.before.environment.entries[name]? ∨
        (step.after.removed.contains name ∧ step.after.environment.entries[name]? = none) := by
      by_cases about : step.event.binding.variableName = name
      · cases removal : step.event.isRemoval with
        | true =>
          obtain ⟨gone, absent⟩ := follows.buried removal
          exact .inr ⟨about ▸ gone, about ▸ absent⟩
        | false =>
          have quiet : step.before.changesValue step.event = false := by
            simpa [VariableStep.changes, about] using changes
          exact .inl (by rw [follows.quiet quiet removal])
      · exact .inl (follows.frame name (Ne.symm about)).1
    rcases same with same | ⟨gone, absent⟩
    · rw [same]
      refine ⟨live, fun absent => ?_⟩
      exact (unused absent).imp_left fun gone => (stays gone).1
    · exact ⟨fun entry found => absurd (absent.symm.trans found) (by simp), fun _ => .inl gone⟩

end VariableStep

theorem versions_of_run {start finish : CanonicalVariableEventReducer} {steps : List VariableStep}
    (run : Run VariableStep.Taken start steps finish)
    (follow : ∀ step ∈ steps, step.FollowsHistory) (name : String) :
    let count := (start.environment.entries[name]?.map CanonicalVariableEntry.version).getD 0 +
      steps.countP (VariableStep.changes name)
    (∀ entry, finish.environment.entries[name]? = some entry → entry.version = count) ∧
      (finish.environment.entries[name]? = none → finish.removed.contains name ∨ count = 0) := by
  induction run with
  | nil =>
    refine ⟨fun entry live => by simp [live], fun absent => .inr (by simp [absent])⟩
  | snoc earlier taken ih =>
    obtain ⟨rfl, rfl, _⟩ := taken
    obtain ⟨live, unused⟩ := ih fun step member => follow step (List.mem_append_left _ member)
    have counted := (follow _ (by simp)).counted live unused
    simpa only [List.countP_append, List.countP_singleton, Nat.add_assoc] using counted

theorem kept_of_run {start finish : CanonicalVariableEventReducer} {steps : List VariableStep}
    (run : Run VariableStep.Taken start steps finish)
    (follow : ∀ step ∈ steps, step.FollowsHistory) (name : String) :
    (∀ record, start.removed[name]? = some record → finish.removed[name]? = some record) ∧
      ∀ declaration entry, start.environment.declarations[name]? = some declaration →
        declaration.mutability = .immutable → start.environment.entries[name]? = some entry →
        finish.environment.declarations[name]? = some declaration ∧
          (finish.environment.entries[name]? = some entry ∨ finish.removed.contains name) := by
  induction run with
  | nil => exact ⟨fun _ found => found, fun _ _ known _ live => ⟨known, .inl live⟩⟩
  | snoc earlier taken ih =>
    obtain ⟨rfl, rfl, _⟩ := taken
    obtain ⟨removed, immutable⟩ := ih fun step member => follow step (List.mem_append_left _ member)
    have follows := follow _ (List.mem_append_right _ (List.mem_singleton_self _))
    refine ⟨fun record found => (follows.removed name record (removed record found)).1,
      fun declaration entry known fixed live => ?_⟩
    obtain ⟨declared, lives | gone⟩ := immutable declaration entry known fixed live
    · exact ⟨follows.declared name declaration declared,
        follows.immutable name declaration entry declared fixed lives⟩
    · obtain ⟨record, found⟩ := StringMap.contains_iff.mp gone
      exact ⟨follows.declared name declaration declared,
        .inr (StringMap.contains_iff.mpr ⟨record, (follows.removed name record found).1⟩)⟩

/-- Along every run, each event follows the history of the variables: the version of a live
variable starts at one and counts the changes of its value, a removed variable never lives again,
and an immutable value stays while it lives. -/
theorem variable_history {start finish : CanonicalVariableEventReducer} {steps : List VariableStep}
    (initial : start.Initial) (run : Run VariableStep.Taken start steps finish) :
    (∀ step ∈ steps, step.FollowsHistory) ∧
    (∀ (name : String) entry, start.environment.entries[name]? = some entry →
      entry.version = 1) ∧
    (∀ (name : String) entry, finish.environment.entries[name]? = some entry →
      entry.version = (if start.environment.entries.contains name then 1 else 0) +
        steps.countP (VariableStep.changes name)) ∧
    ∀ earlier later middle, steps = earlier ++ later →
      Run VariableStep.Taken start earlier middle → Run VariableStep.Taken middle later finish →
      (∀ (name : String) record, middle.removed[name]? = some record →
        finish.removed[name]? = some record ∧ finish.environment.entries[name]? = none) ∧
      ∀ (name : String) declaration old new,
        middle.environment.declarations[name]? = some declaration →
        declaration.mutability = .immutable → middle.environment.entries[name]? = some old →
        finish.environment.entries[name]? = some new → new = old := by
  have coherent := initial.coherent.1
  have follow : ∀ step ∈ steps, step.FollowsHistory := by
    induction run with
    | nil => simp
    | snoc earlier taken ih =>
      obtain ⟨rfl, rfl, accepted⟩ := taken
      rw [List.forall_mem_append]
      exact ⟨ih, by simpa using (coherent.run earlier).follows accepted⟩
  refine ⟨follow, fun name entry live => initial.versions live, fun name entry live => ?_, ?_⟩
  · rw [(versions_of_run run follow name).1 entry live]
    congr 1
    cases found : start.environment.entries[name]? with
    | some seed =>
      rw [if_pos (StringMap.contains_iff.mpr ⟨seed, found⟩)]
      exact initial.versions found
    | none =>
      rw [if_neg]
      · rfl
      · intro present
        obtain ⟨_, other⟩ := StringMap.contains_iff.mp present
        rw [found] at other
        contradiction
  · rintro earlier later middle rfl before after
    have finished := (coherent.run before).run after
    obtain laterFollow := fun step member => follow step (List.mem_append_right earlier member)
    refine ⟨fun name record found => ?_, fun name declaration old new known fixed lived lives => ?_⟩
    · have kept := (kept_of_run after laterFollow name).1 record found
      obtain ⟨_, _, buried⟩ := finished.tombstones name record kept
      exact ⟨kept, buried.gone⟩
    · rcases ((kept_of_run after laterFollow name).2 declaration old known fixed lived).2 with
        same | gone
      · rw [lives] at same
        exact Option.some.inj same
      · obtain ⟨record, found⟩ := StringMap.contains_iff.mp gone
        obtain ⟨_, _, buried⟩ := finished.tombstones name record found
        rw [buried.gone] at lives
        contradiction

end Histories

section Sample

attribute [local instance] plainVariables prefixHash

/-- The audit of the sample's seed leaves the flag under its first version. -/
theorem variable_history_sample : ∃ start next : CanonicalVariableEventReducer,
    start.Accepts flagAudit next ∧ ∀ (name : String) entry,
      next.environment.entries[name]? = some entry → entry.version =
        if start.environment.entries.contains name then 1 else 0 := by
  obtain ⟨start, next, initial, accepted, audit⟩ := seededFlag_audit
  obtain ⟨_, _, counted, _⟩ := variable_history initial (run_of_accepts accepted)
  refine ⟨start, next, accepted, fun name entry live => ?_⟩
  have quiet : (VariableStep.mk start flagAudit next).changes name = false := by
    simp [VariableStep.changes, CanonicalVariableEventReducer.changesValue, flagAudit,
      flagAssigned, show start.observesSeed _ = true from audit]
  simpa [quiet] using counted name entry live

end Sample

end AgentMod
