import AgentMod.Verified.Continuation.Store

/-! Which crashes a continuation survives. -/

namespace AgentMod

section Crash

variable [ContinuationSerde] [Hashing] {disk crashed : Disk String}
  {record : DependencyContinuationRecord} {bytes : List UInt8}

theorem createContinuation_crashes (creatable : record.Creatable)
    (encodes : encodeRecord record = .ok bytes)
    (absent : recordContent disk record.sessionId record.id = none)
    (crashes : (createContinuation record).Crashes disk crashed) :
    recordContent crashed record.sessionId record.id = none ∨
      ∃ part, part <+: bytes ∧ recordContent crashed record.sessionId record.id = some part := by
  rw [Filing.Crashes, createContinuation_new creatable absent encodes] at crashes
  cases crashes with
  | stopped => exact .inl absent
  | torn front => exact .inr ⟨_, front, by rw [recordContent_save, if_pos ⟨rfl, rfl⟩]⟩
  | passed finished =>
    rw [interrupted_nil] at finished
    exact .inr ⟨bytes, List.prefix_rfl, by rw [finished, recordContent_save, if_pos ⟨rfl, rfl⟩]⟩

variable (lawful : LawfulContinuations)
include lawful

theorem createsLoadable_of_absent (creatable : record.Creatable)
    (encodes : encodeRecord record = .ok bytes)
    (absent : recordContent disk record.sessionId record.id = none) :
    CreatesLoadable disk record ↔ bytes.length ≤ maxRecordBytes := by
  have creates : (createContinuation record).run disk = (.ok (),
      (FileStep.save record.sessionId (recordName record.id) bytes).apply disk) := by
    rw [Filing.run, createContinuation_new creatable absent encodes]
    rfl
  have saved : recordContent ((FileStep.save record.sessionId (recordName record.id) bytes).apply
      disk) record.sessionId record.id = some bytes := by
    rw [recordContent_save, if_pos ⟨rfl, rfl⟩]
  rw [CreatesLoadable, creates, ← loads_of_encodes lawful encodes saved]
  simp

theorem createsLoadable_of_whole (creatable : record.Creatable)
    (encodes : encodeRecord record = .ok bytes)
    (found : recordContent disk record.sessionId record.id = some bytes) :
    CreatesLoadable disk record ↔ bytes.length ≤ maxRecordBytes := by
  rw [CreatesLoadable, Filing.run, createContinuation_existing creatable found]
  constructor
  · rintro ⟨next, returns, loads⟩
    obtain ⟨-, same⟩ := Prod.mk.inj returns
    rw [applySteps_nil] at same
    exact (loads_of_encodes lawful encodes found).mp (same ▸ loads)
  · intro short
    refine ⟨disk, ?_, (loads_of_encodes lawful encodes found).mpr short⟩
    rw [decodeRecord_of_le lawful encodes short]
    simp [Except.bind, refuseIf]

theorem not_createsLoadable_of_torn (creatable : record.Creatable)
    (encodes : encodeRecord record = .ok bytes) {part : List UInt8} (front : part <+: bytes)
    (proper : part ≠ bytes)
    (found : recordContent disk record.sessionId record.id = some part) :
    ¬ CreatesLoadable disk record := by
  rintro ⟨next, returns, -⟩
  obtain ⟨error, fails⟩ := decodeRecord_torn lawful encodes front proper
  rw [Filing.run, createContinuation_existing creatable found, fails] at returns
  cases (Prod.mk.inj returns).1

/-- A create survives a crash exactly where the file is absent or whole and not too long; a transition
survives one where its new version is not too long, or the old one is still there. -/
theorem continuation_crash_safe_iff :
    (∀ record bytes disk crashed, record.Creatable → encodeRecord record = .ok bytes →
      recordContent disk record.sessionId record.id = none →
      (createContinuation record).Crashes disk crashed →
      (CreatesLoadable crashed record ↔ bytes.length ≤ maxRecordBytes ∧
        (recordContent crashed record.sessionId record.id = none ∨
          recordContent crashed record.sessionId record.id = some bytes))) ∧
    ∀ (record : DependencyContinuationRecord) target bytes disk crashed, Loads disk record →
      (transitionContinuation ⟨record.sessionId, record.id, .pending, target⟩).Crashes disk crashed →
      encodeRecord { record with state := target } = .ok bytes →
      (Loads crashed record ∨ Loads crashed { record with state := target } ↔
        bytes.length ≤ maxRecordBytes ∨
          recordContent crashed record.sessionId record.id =
            recordContent disk record.sessionId record.id) := by
  constructor
  · intro record bytes disk crashed creatable encodes absent crashes
    rcases createContinuation_crashes creatable encodes absent crashes with gone | ⟨part, front, found⟩
    · simp [createsLoadable_of_absent lawful creatable encodes gone, gone]
    · by_cases whole : part = bytes
      · rw [whole] at found
        simp [createsLoadable_of_whole lawful creatable encodes found, found]
      · simp [not_createsLoadable_of_torn lawful creatable encodes front whole found, found, whole]
  · intro record target bytes disk crashed loads crashes encodes
    obtain ⟨valid, stored⟩ := loads_iff.mp loads
    -- Where the file is as before, the old record is loaded.
    have keeps : recordContent crashed record.sessionId record.id =
        recordContent disk record.sessionId record.id → Loads crashed record := by
      intro same
      rw [loads_iff, storedRecord, same]
      exact ⟨valid, stored⟩
    have quiet : crashed = disk → (Loads crashed record ∨ Loads crashed { record with state := target } ↔
        bytes.length ≤ maxRecordBytes ∨ recordContent crashed record.sessionId record.id =
          recordContent disk record.sessionId record.id) := by
      rintro rfl
      simp [loads]
    rw [Filing.Crashes] at crashes
    by_cases attempted : DependencyTransitionContinuationRequest.Attempted
        ⟨record.sessionId, record.id, .pending, target⟩
    · by_cases pending : record.state = .pending
      · rw [transitionContinuation_pending attempted stored pending encodes] at crashes
        rcases recordContent_of_interrupted crashes with same | replaced
        · have unchanged := same record.sessionId record.id
          simp [keeps unchanged, unchanged]
        · -- The new version is in place: it is loaded, or nothing is.
          have found : recordContent crashed record.sessionId record.id = some bytes := by
            rw [replaced, recordContent_replaceSteps, if_pos ⟨rfl, rfl⟩]
          have newer := loads_of_encodes lawful encodes found
          constructor
          · rintro (older | loadsNew)
            · by_contra neither
              rw [not_or] at neither
              have stuck := storedRecord_of_encodes lawful encodes found
              rw [if_neg neither.1] at stuck
              cases stuck.symm.trans (loads_iff.mp older).2
            · exact .inl (newer.mp loadsNew)
          · rintro (short | unchanged)
            · exact .inr (newer.mpr short)
            · exact .inl (keeps unchanged)
      · rw [transitionContinuation_ended attempted stored pending, interrupted_nil] at crashes
        exact quiet crashes
    · obtain ⟨error, rejects⟩ : ∃ error, transitionContinuation _ disk = (.error error, []) :=
        transitionContinuation_rejected attempted
      rw [rejects, interrupted_nil] at crashes
      exact quiet crashes

end Crash

section Sample

attribute [local instance] prefixHash segmentedContinuations

/-- The sample's continuation is created again behind a crash that came before its file. -/
theorem continuation_crash_safe_iff_sample : CreatesLoadable emptyDisk sampleContinuation := by
  have absent : recordContent emptyDisk sampleContinuation.sessionId sampleContinuation.id = none :=
    Std.ExtTreeMap.getElem?_empty
  obtain ⟨creates, -⟩ := continuation_crash_safe_iff lawful_segmentedContinuations
  exact (creates _ _ _ _ creatable_sampleContinuation encodeRecord_sampleContinuation absent
    .stopped).mpr ⟨sampleRecordBytes_short, .inl absent⟩

/-- A crash behind the creation of the sample's file leaves it empty, and the continuation cannot be
created again. -/
theorem not_continuation_crash_safe : ∃ crashed,
    (createContinuation sampleContinuation).Crashes emptyDisk crashed ∧
      recordContent crashed sampleContinuation.sessionId sampleContinuation.id = some [] ∧
      ¬ CreatesLoadable crashed sampleContinuation := by
  have absent : recordContent emptyDisk sampleContinuation.sessionId sampleContinuation.id = none :=
    Std.ExtTreeMap.getElem?_empty
  let crashed := (FileStep.save sampleContinuation.sessionId (recordName sampleContinuation.id)
    []).apply emptyDisk
  have empty : recordContent crashed sampleContinuation.sessionId sampleContinuation.id = some [] := by
    rw [recordContent_save, if_pos ⟨rfl, rfl⟩]
  refine ⟨crashed, ?_, empty, ?_⟩
  · rw [Filing.Crashes, createContinuation_new creatable_sampleContinuation absent
      encodeRecord_sampleContinuation]
    exact .torn (List.nil_prefix)
  · exact not_createsLoadable_of_torn lawful_segmentedContinuations creatable_sampleContinuation
      encodeRecord_sampleContinuation List.nil_prefix (by decide) empty

end Sample

end AgentMod
