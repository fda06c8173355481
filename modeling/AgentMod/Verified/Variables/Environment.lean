import AgentMod.Verified.Primitives.Collections
import AgentMod.Variables.Environment
import AgentMod.Variables.Runs

/-! What assignments and merges do to an environment, and what they keep. -/

namespace AgentMod

section Checks

variable {declaration : VariableDeclaration} {writer : VariableWriter} {branchId : Option String}

theorem authorizeWriter_eq_ok :
    authorizeWriter declaration writer = .ok () ↔ declaration.producer = writer.nodeId := by
  simp [authorizeWriter]

theorem authorizeReplayedWriter_eq_ok : authorizeReplayedWriter declaration writer = .ok () ↔
    declaration.producer = writer.nodeId ∨
      (declaration.mergePolicy.isSome ∧ writer.isOutsideNode) := by
  simp only [authorizeReplayedWriter, refuseIf_eq_ok, not_not]

theorem branchId_of_scope (belongs : validateDirectWriteScope declaration writer = .ok branchId)
    (shared : declaration.scope ≠ .branch) : branchId = none := by
  unfold validateDirectWriteScope at belongs
  split at belongs
  · contradiction
  · contradiction
  · split at belongs <;> cases belongs
    rfl
  · split at belongs <;> cases belongs
    rfl
  · cases belongs
    rfl

theorem scope_of_outside (outside : writer.branch = none) (shared : declaration.scope ≠ .branch) :
    validateDirectWriteScope declaration writer = .ok none := by
  unfold validateDirectWriteScope
  rw [outside]
  cases scope : declaration.scope <;> simp_all

theorem validateDirectWriteScopeReplayed_eq_ok {retained : Option String} :
    validateDirectWriteScopeReplayed declaration writer retained = .ok retained ↔
      validateDirectWriteScope declaration writer = .ok retained := by
  simp only [validateDirectWriteScopeReplayed, bind_eq_ok, refuseIf_eq_ok, pure_eq_ok, exists_unit]
  constructor
  · rintro ⟨_, belongs, _, rfl⟩
    exact belongs
  · intro belongs
    refine ⟨retained, belongs, ?_, rfl⟩
    rintro ⟨shared, present⟩
    rw [branchId_of_scope belongs shared] at present
    exact absurd present (by simp)

theorem nextVersion_eq_ok {existing : Option CanonicalVariableEntry}
    {mutability : VariableMutability} {expectedVersion : Option Nat} {version : Nat} :
    nextVersion existing mutability expectedVersion = .ok version ↔
      expectedVersion = existing.map CanonicalVariableEntry.version ∧
        version = (expectedVersion.getD 0) + 1 ∧
        (existing.isSome → mutability = .mutable ∧ version < wordBound) := by
  cases existing with
  | none =>
    cases expectedVersion <;> simp [nextVersion, eq_comm]
  | some entry =>
    unfold nextVersion
    cases mutability with
    | immutable => simp
    | mutable =>
      by_cases expected : expectedVersion = some entry.version
      · subst expected
        by_cases fits : entry.version + 1 < wordBound
        · simp only [reduceCtorEq, if_false, if_true, if_pos fits, Except.ok.injEq]
          simp
          omega
        · simp only [reduceCtorEq, if_false, if_true, if_neg fits]
          simp
          omega
      · simp [expected]

end Checks

namespace CanonicalVariableEnvironment

variable [VariableSerde] [Hashing] {environment next : CanonicalVariableEnvironment}
  {name : String} {writer : VariableWriter} {expectedVersion : Option Nat}
  {entry : CanonicalVariableEntry} {declaration : VariableDeclaration}

/-- What the writes of an entry have in common. -/
structure Writes (environment : CanonicalVariableEnvironment) (name : String)
    (declaration : VariableDeclaration) (expectedVersion : Option Nat)
    (entry : CanonicalVariableEntry) (next : CanonicalVariableEnvironment) : Prop where
  declared : environment.declarations[name]? = some declaration
  version : nextVersion environment.entries[name]? declaration.mutability expectedVersion =
    .ok entry.version
  valid : environment.validateValue declaration entry.writer entry.value = .ok ()
  hash : AgentMod.valueHash entry.value = .ok entry.valueHash
  leads : next = { environment with entries := environment.entries.insert name entry }
  size : next.validateEnvironmentSize = .ok ()

omit [VariableSerde] [Hashing] in
@[simp] theorem declaration_eq_ok :
    environment.declaration name = .ok declaration ↔
      environment.declarations[name]? = some declaration := okOr_eq_ok

theorem install_eq_ok {mutability : VariableMutability} {branchId : Option String}
    {value : CanonicalVariableValue} :
    (install name mutability writer branchId expectedVersion value).apply environment =
      (.ok entry, next) ↔
    (nextVersion environment.entries[name]? mutability expectedVersion = .ok entry.version ∧
      AgentMod.valueHash value = .ok entry.valueHash ∧
      next = { environment with entries := environment.entries.insert name entry } ∧
      next.validateEnvironmentSize = .ok ()) ∧
    entry.value = value ∧ entry.writer = writer ∧ entry.branchId = branchId := by
  simp only [install, Updating.get_bind_eq_ok, Updating.ofExcept_bind_eq_ok,
    Updating.set_bind_eq_ok]
  constructor
  · rintro ⟨version, versioned, hash, hashed, installed⟩
    split at installed
    · simp [Updating.apply_bind] at installed
    · next sized =>
      -- The entry that is returned is the one that was put in place.
      simp only [Updating.apply_ofExcept, Prod.mk.injEq, okOr_eq_ok,
        Std.ExtTreeMap.getElem?_insert_self, Option.some.injEq] at installed
      obtain ⟨rfl, rfl⟩ := installed
      exact ⟨⟨versioned, hashed, rfl, sized⟩, rfl, rfl, rfl⟩
  · rintro ⟨⟨versioned, hashed, rfl, sized⟩, rfl, rfl, rfl⟩
    refine ⟨_, versioned, _, hashed, ?_⟩
    rw [sized]
    simp [okOr]

theorem assign_eq_ok {value : CanonicalVariableValue} :
    (assign name writer expectedVersion value).apply environment = (.ok entry, next) ↔
      ∃ declaration, environment.Writes name declaration expectedVersion entry next ∧
        entry.value = value ∧ entry.writer = writer ∧ declaration.producer = writer.nodeId ∧
        validateDirectWriteScope declaration writer = .ok entry.branchId := by
  simp only [assign, Updating.get_bind_eq_ok, Updating.ofExcept_bind_eq_ok, install_eq_ok,
    declaration_eq_ok, exists_unit, authorizeWriter_eq_ok]
  constructor
  · rintro ⟨declaration, declared, produces, _, belongs, valid,
      ⟨versioned, hashed, leads, sized⟩, rfl, rfl, rfl⟩
    exact ⟨declaration, ⟨declared, versioned, valid, hashed, leads, sized⟩, rfl, rfl, produces,
      belongs⟩
  · rintro ⟨declaration, ⟨declared, versioned, valid, hashed, leads, sized⟩, rfl, rfl, produces,
      belongs⟩
    exact ⟨declaration, declared, produces, _, belongs, valid,
      ⟨versioned, hashed, leads, sized⟩, rfl, rfl, rfl⟩

omit [Hashing] in
theorem mergedValue_eq_ok {branches : List BranchVariableValue} {value : CanonicalVariableValue}
    (merged : environment.mergedValue declaration writer branches = .ok value) :
    writer.branch = none ∧ declaration.scope ≠ .branch ∧ declaration.mergePolicy.isSome ∧
      environment.validateValue declaration writer value = .ok () := by
  simp only [mergedValue, bind_eq_ok, refuseIf_eq_ok, okOr_eq_ok, exists_unit, pure_eq_ok] at merged
  obtain ⟨outside, shared, policy, declared, _, _, _, _, _, valid, rfl⟩ := merged
  exact ⟨by simpa using outside, shared, by simp [declared], valid⟩

theorem mergeBranches_eq_ok {branches : List BranchVariableValue} :
    (mergeBranches name writer expectedVersion branches).apply environment = (.ok entry, next) ↔
      ∃ declaration, environment.Writes name declaration expectedVersion entry next ∧
        environment.mergedValue declaration writer branches = .ok entry.value ∧
        entry.writer = writer ∧ entry.branchId = none := by
  simp only [mergeBranches, Updating.get_bind_eq_ok, Updating.ofExcept_bind_eq_ok, install_eq_ok,
    declaration_eq_ok]
  constructor
  · rintro ⟨declaration, declared, _, merged, ⟨versioned, hashed, leads, sized⟩, rfl, rfl, outer⟩
    exact ⟨declaration, ⟨declared, versioned, (mergedValue_eq_ok merged).2.2.2, hashed, leads,
      sized⟩, merged, rfl, outer⟩
  · rintro ⟨declaration, ⟨declared, versioned, valid, hashed, leads, sized⟩, merged, rfl, outer⟩
    exact ⟨declaration, declared, _, merged, ⟨versioned, hashed, leads, sized⟩, rfl, rfl, outer⟩

/-- The number of bytes that an entry's value serializes to. -/
def entrySize (entry : CanonicalVariableEntry) : Nat :=
  ((VariableSerde.valueToVec entry.value).map List.length).getD 0

omit [Hashing] in
theorem addEntrySize_eq_ok {total result : Nat} : addEntrySize total entry = .ok result ↔
    (VariableSerde.valueToVec entry.value).isSome ∧ total + entrySize entry < wordBound ∧
      total + entrySize entry = result := by
  unfold addEntrySize canonicalValueBytes entrySize
  cases VariableSerde.valueToVec entry.value <;> simp [okOr]

omit [Hashing] in
theorem foldlM_addEntrySize {entries : List CanonicalVariableEntry} {total result : Nat} :
    entries.foldlM addEntrySize total = .ok result ↔
      (∀ entry ∈ entries, (VariableSerde.valueToVec entry.value).isSome) ∧
        total + (entries.map entrySize).sum = result ∧ (entries ≠ [] → result < wordBound) := by
  induction entries generalizing total with
  | nil => simp
  | cons entry rest ih =>
    simp only [List.foldlM_cons, bind_eq_ok, addEntrySize_eq_ok, ih, List.forall_mem_cons,
      List.map_cons, List.sum_cons]
    constructor
    · rintro ⟨_, ⟨serializes, fits, rfl⟩, others, sums, bounded⟩
      refine ⟨⟨serializes, others⟩, by omega, fun _ => ?_⟩
      cases rest with
      | nil => simpa [← sums] using fits
      | cons => exact bounded (by simp)
    · rintro ⟨⟨serializes, others⟩, sums, bounded⟩
      have fits := bounded (by simp)
      exact ⟨_, ⟨serializes, by omega, rfl⟩, others, by omega, fun _ => fits⟩

omit [Hashing] in
theorem validateEnvironmentSize_eq_ok : environment.validateEnvironmentSize = .ok () ↔
    (∀ entry ∈ environment.entries.values, (VariableSerde.valueToVec entry.value).isSome) ∧
      (environment.entries.values.map entrySize).sum ≤ environment.limits.maxEnvironmentBytes ∧
      (environment.entries.values ≠ [] →
        (environment.entries.values.map entrySize).sum < wordBound) := by
  simp only [validateEnvironmentSize, bind_eq_ok, foldlM_addEntrySize, refuseIf_eq_ok, Nat.zero_add]
  constructor
  · rintro ⟨_, ⟨serialize, rfl, fits⟩, bounded⟩
    exact ⟨serialize, by omega, fits⟩
  · rintro ⟨serialize, bounded, fits⟩
    exact ⟨_, ⟨serialize, rfl, fits⟩, by omega⟩

omit [Hashing] in
theorem size_erase (sized : environment.validateEnvironmentSize = .ok ())
    (found : environment.entries[name]? = some entry) :
    { environment with entries := environment.entries.erase name }.validateEnvironmentSize =
      .ok () := by
  rw [validateEnvironmentSize_eq_ok] at sized ⊢
  obtain ⟨serialize, bounded, fits⟩ := sized
  have split : environment.entries.values.Perm
      (entry :: (environment.entries.erase name).values) := by
    rw [StringMap.values_eq, StringMap.values_eq]
    exact (StringMap.toList_perm_erase found).map Prod.snd
  have sums := (split.map entrySize).sum_nat
  rw [List.map_cons, List.sum_cons] at sums
  have nonempty : environment.entries.values ≠ [] := by
    intro empty
    simp [empty] at split
  have below := fits nonempty
  exact ⟨fun other member => serialize other (split.symm.subset (List.mem_cons_of_mem _ member)),
    by simp only; omega, fun _ => by simp only; omega⟩

end CanonicalVariableEnvironment

namespace CanonicalVariableEnvironment

section Failures

variable [VariableSerde] [Hashing] {environment next : CanonicalVariableEnvironment} {name : String}
  {writer : VariableWriter} {expectedVersion : Option Nat} {error : VariableEnvironmentError}

omit [VariableSerde] [Hashing] in
theorem restore_insert (entry : CanonicalVariableEntry) :
    restore { environment with entries := environment.entries.insert name entry } name environment.entries[name]? =
      environment := by
  have undone : ∀ entries : StringMap CanonicalVariableEntry, entries = environment.entries →
      ({ environment with entries } : CanonicalVariableEnvironment) = environment := by
    rintro _ rfl
    rfl
  cases held : environment.entries[name]? with
  | some prior =>
    refine undone _ (Std.ExtTreeMap.ext_getElem? fun key => ?_)
    rw [Std.ExtTreeMap.getElem?_insert, Std.ExtTreeMap.getElem?_insert]
    split
    · next same =>
      rw [← Std.LawfulEqCmp.eq_of_compare same, held]
    · rfl
  | none =>
    refine undone _ (Std.ExtTreeMap.ext_getElem? fun key => ?_)
    rw [Std.ExtTreeMap.getElem?_erase, Std.ExtTreeMap.getElem?_insert]
    split
    · next same =>
      rw [← Std.LawfulEqCmp.eq_of_compare same, held]
    · rfl

theorem install_eq_error {mutability : VariableMutability} {branchId : Option String}
    {value : CanonicalVariableValue}
    (failed : (install name mutability writer branchId expectedVersion value).apply environment =
      (.error error, next)) : next = environment := by
  simp only [install, Updating.apply_bind, Updating.apply_get, Updating.apply_ofExcept] at failed
  cases versioned : nextVersion environment.entries[name]? mutability expectedVersion with
  | error refused =>
    rw [versioned] at failed
    cases failed
    rfl
  | ok version =>
    cases hashed : AgentMod.valueHash value with
    | error refused =>
      rw [versioned, hashed] at failed
      cases failed
      rfl
    | ok hash =>
      simp only [versioned, hashed, Updating.apply_set] at failed
      split at failed
      · -- The aggregate bound fails after the write, which is undone.
        simp only [Updating.apply_bind, Updating.apply_set, Updating.apply_throw, Prod.mk.injEq] at failed
        rw [← failed.2]
        exact restore_insert _
      · rw [Updating.apply_ofExcept, Prod.mk.injEq] at failed
        simp [okOr] at failed

omit [VariableSerde] [Hashing] in
theorem ofExcept_bind_eq_error {α β : Type} {outcome : VariableCheck α} {after : α → EnvironmentOperation β}
    (failed : (Updating.ofExcept outcome >>= after).apply environment = (.error error, next)) :
    next = environment ∨ ∃ value, (after value).apply environment = (.error error, next) := by
  rw [Updating.apply_bind, Updating.apply_ofExcept] at failed
  cases outcome with
  | error refused =>
    cases failed
    exact .inl rfl
  | ok value => exact .inr ⟨value, failed⟩

end Failures

/-- An assignment or a merge that fails leaves the environment as it was. -/
theorem failed_writes_restore [VariableSerde] [Hashing] {environment next : CanonicalVariableEnvironment}
    {name : String} {writer : VariableWriter} {expectedVersion : Option Nat} {error : VariableEnvironmentError} :
    (∀ value, (assign name writer expectedVersion value).apply environment = (.error error, next) →
      next = environment) ∧
    ∀ branches, (mergeBranches name writer expectedVersion branches).apply environment = (.error error, next) →
      next = environment := by
  constructor
  · intro value failed
    rw [assign, Updating.apply_bind, Updating.apply_get] at failed
    rcases ofExcept_bind_eq_error failed with same | ⟨_, failed⟩
    · exact same
    rcases ofExcept_bind_eq_error failed with same | ⟨_, failed⟩
    · exact same
    rcases ofExcept_bind_eq_error failed with same | ⟨_, failed⟩
    · exact same
    rcases ofExcept_bind_eq_error failed with same | ⟨_, failed⟩
    · exact same
    exact install_eq_error failed
  · intro branches failed
    rw [mergeBranches, Updating.apply_bind, Updating.apply_get] at failed
    rcases ofExcept_bind_eq_error failed with same | ⟨_, failed⟩
    · exact same
    rcases ofExcept_bind_eq_error failed with same | ⟨_, failed⟩
    · exact same
    exact install_eq_error failed

section Sample

attribute [local instance] plainVariables prefixHash

/-- An environment with a flag and no room for a value. -/
def crampedEnvironment : CanonicalVariableEnvironment where
  declarations := (∅ : StringMap VariableDeclaration).insert "flag" flagDeclaration
  entries := ∅
  limits := { VariableEnvironmentLimits.default with maxEnvironmentBytes := 8 }

instance crampedEnvironment_refuses : Fact (((assign "flag" .runtime none (.boolean true)).apply
    crampedEnvironment).1 = .error .environmentSizeExceeded) where
  out := by decide +kernel

/-- A flag that finds no room, which is noticed after it is put in place, leaves nothing behind. -/
theorem failed_writes_restore_sample : (assign "flag" .runtime none (.boolean true)).apply crampedEnvironment =
    (.error .environmentSizeExceeded, crampedEnvironment) := by
  have failed : (assign "flag" .runtime none (.boolean true)).apply crampedEnvironment =
      (.error .environmentSizeExceeded, ((assign "flag" .runtime none (.boolean true)).apply crampedEnvironment).2) :=
    Prod.ext crampedEnvironment_refuses.out rfl
  rw [failed, failed_writes_restore.1 _ failed]

end Sample

end CanonicalVariableEnvironment

end AgentMod
