import AgentMod.Verified.Conversation.Identity

/-! What a compaction keeps of a projection, and what the material of a summary request holds. -/

namespace AgentMod

section Compaction

variable {strategy : CompactionStrategy} {source replacement : List ConversationEntry}

theorem mem_kept {entry : ConversationEntry} : entry ∈ strategy.kept source ↔
    ∃ index : Nat, source[index]? = some entry ∧
      (strategy.keeps source.length index || entry.isProtected) = true := by
  rw [CompactionStrategy.kept, List.mem_map]
  constructor
  · rintro ⟨indexed, listed, rfl⟩
    obtain ⟨inside, keeps⟩ := List.mem_filter.mp listed
    exact ⟨indexed.2, List.mem_zipIdx_iff_getElem?.mp inside, keeps⟩
  · rintro ⟨index, found, keeps⟩
    exact ⟨(entry, index), List.mem_filter.mpr ⟨List.mem_zipIdx_iff_getElem?.mpr found, keeps⟩, rfl⟩

theorem kept_sublist : (strategy.kept source).Sublist source := by
  have selected := (List.filter_sublist (l := source.zipIdx) (p := fun indexed =>
    strategy.keeps source.length indexed.2 || indexed.1.isProtected)).map Prod.fst
  rwa [List.zipIdx_map_fst] at selected

theorem map_filter_isProtected : (source.zipIdx.filter fun indexed => indexed.1.isProtected).map
    Prod.fst = protectedEntries source := by
  have selected : (source.zipIdx.map Prod.fst).filter ConversationEntry.isProtected =
      (source.zipIdx.filter fun indexed => indexed.1.isProtected).map Prod.fst := List.filter_map
  rw [← selected, List.zipIdx_map_fst, protectedEntries]

theorem protectedEntries_sublist_kept :
    (protectedEntries source).Sublist (strategy.kept source) := by
  have kept : (source.zipIdx.filter fun indexed => indexed.1.isProtected).Sublist
      (source.zipIdx.filter fun indexed =>
        strategy.keeps source.length indexed.2 || indexed.1.isProtected) :=
    List.monotone_filter_right _ fun indexed isProtected => by simp [isProtected]
  have mapped := kept.map Prod.fst
  rwa [map_filter_isProtected] at mapped

theorem kept_of_keeps (all : ∀ index, strategy.keeps source.length index = true) :
    strategy.kept source = source := by
  rw [CompactionStrategy.kept, List.filter_eq_self.mpr fun indexed _ => by simp [all],
    List.zipIdx_map_fst]

theorem kept_of_not_keeps (none : ∀ index, strategy.keeps source.length index = false) :
    strategy.kept source = protectedEntries source := by
  simp only [CompactionStrategy.kept, none, Bool.false_or]
  exact map_filter_isProtected

theorem utf8Length_truncateUtf8 {text : List Char} {maxBytes : Nat} :
    utf8Length (truncateUtf8 text maxBytes) ≤ maxBytes := by
  induction text generalizing maxBytes with
  | nil => simp [truncateUtf8, utf8Length]
  | cons character rest ih =>
    rw [truncateUtf8]
    split
    · next fits =>
      have shorter := @ih (maxBytes - character.utf8Size)
      simp only [utf8Length, List.map_cons, List.sum_cons] at shorter ⊢
      omega
    · simp [utf8Length]

theorem shows_of_evictToolOutput {maxVisibleBytes : Nat} {entry shown : ConversationEntry}
    (evicts : evictToolOutput maxVisibleBytes entry = .ok shown) :
    (CompactionStrategy.toolOutputEviction maxVisibleBytes).Shows entry shown := by
  unfold evictToolOutput at evicts
  split at evicts
  · next result =>
    split at evicts
    · split at evicts
      · cases evicts
      · next artifactId isArtifact =>
        cases evicts
        refine Or.inr ⟨_, result, _, rfl, rfl, by rw [isArtifact]; rfl, rfl, ?_⟩
        rw [String.toList_ofList]
        exact utf8Length_truncateUtf8
    · cases evicts
      exact Or.inl rfl
  · cases evicts
    exact Or.inl rfl

/-- What a strategy makes of a projection: the kept entries, as it shows them, and the added one. -/
theorem shown_of_strategyReplacement {committedAt : Sequence}
    {made : List ConversationEntry × String × Option ArtifactId}
    (makes : strategyReplacement strategy source committedAt = .ok made) :
    ∃ shown added, List.Forall₂ strategy.Shows (strategy.kept source) shown ∧
      made.1 = shown ++ added ∧ added.length ≤ 1 ∧ ∀ entry ∈ added, strategy.Adds entry := by
  have unchanged : ∀ entries : List ConversationEntry,
      List.Forall₂ strategy.Shows entries entries := fun entries =>
    List.forall₂_same.mpr fun entry _ => Or.inl rfl
  unfold strategyReplacement at makes
  split at makes
  · -- The projection stays.
    cases makes
    refine ⟨source, [], ?_, (List.append_nil _).symm, Nat.zero_le _, fun _ listed => by cases listed⟩
    rw [kept_of_keeps fun _ => rfl]
    exact unchanged source
  · -- The window keeps what it shows.
    split at makes
    · cases makes
    · next maxRecentEntries _ =>
      cases makes
      refine ⟨_, [], ?_, (List.append_nil _).symm, Nat.zero_le _, fun _ listed => by cases listed⟩
      have window : slidingWindow source maxRecentEntries =
          (CompactionStrategy.slidingWindow maxRecentEntries).kept source := by
        rw [slidingWindow, CompactionStrategy.kept]
        congr 1
        refine List.filter_congr fun indexed _ => ?_
        simp only [CompactionStrategy.keeps]
        congr 1
        exact decide_eq_decide.mpr (by omega)
      rw [window]
      exact unchanged _
  · -- A summary stands behind the protected entries.
    split at makes
    · cases makes
    · split at makes
      · cases makes
      · cases makes
        refine ⟨protectedEntries source, _, ?_, rfl, Nat.le_refl _, ?_⟩
        · rw [kept_of_not_keeps fun _ => rfl]
          exact unchanged _
        · intro entry listed
          rw [List.mem_singleton.mp listed]
          exact ⟨rfl, Or.inl ⟨_, rfl⟩⟩
  · split at makes
    · cases makes
    · cases makes
      refine ⟨protectedEntries source, _, ?_, rfl, Nat.le_refl _, ?_⟩
      · rw [kept_of_not_keeps fun _ => rfl]
        exact unchanged _
      · intro entry listed
        rw [List.mem_singleton.mp listed]
        exact ⟨rfl, Or.inr ⟨_, rfl⟩⟩
  · -- Every entry is shown, some of them evicted.
    split at makes
    · cases makes
    · simp only [bind_eq_ok, pure_eq_ok] at makes
      obtain ⟨shown, evicts, rfl⟩ := makes
      refine ⟨shown, [], ?_, (List.append_nil _).symm, Nat.zero_le _, fun _ listed => by cases listed⟩
      rw [kept_of_keeps fun _ => rfl]
      rw [evictToolOutputs, mapM_eq_ok] at evicts
      exact evicts.imp fun _ _ => shows_of_evictToolOutput

section Shown

variable {kept shown added : List ConversationEntry}
  (shows : List.Forall₂ strategy.Shows kept shown)
include shows

theorem protectedEntries_sublist_shown : (protectedEntries kept).Sublist shown := by
  induction shows with
  | nil => exact List.Sublist.refl _
  | cons entry_shown _ ih =>
    next entry shownEntry _ _ =>
    rw [protectedEntries, List.filter_cons]
    split
    · next isProtected =>
      rcases entry_shown with rfl | ⟨_, result, _, _, rfl, artifact, _, _⟩
      · exact ih.cons_cons _
      · simp [ConversationEntry.isProtected] at isProtected
        simp [isProtected] at artifact
    · exact ih.cons _

theorem answered_shown {callId : String} : Answered shown callId ↔ Answered kept callId := by
  constructor
  · rintro ⟨result, listed, rfl⟩
    obtain ⟨entry, inside, entryShown⟩ := exists_of_forall₂_right shows listed
    rcases entryShown with rfl | ⟨_, original, _, _, rfl, _, same, _⟩
    · exact ⟨result, inside, rfl⟩
    · cases same
      exact ⟨original, inside, rfl⟩
  · rintro ⟨result, listed, rfl⟩
    obtain ⟨entry, inside, entryShown⟩ := exists_of_forall₂_left shows listed
    rcases entryShown with rfl | ⟨_, original, content, _, same, _, rfl, _⟩
    · exact ⟨result, inside, rfl⟩
    · cases same
      exact ⟨_, inside, rfl⟩

end Shown

theorem answered_kept {callId : String} : Answered (strategy.kept source) callId ↔
    ∃ result index, source[index]? = some (.toolResult result) ∧ result.callId = callId ∧
      (result.artifactId = none ∨ strategy.keeps source.length index) := by
  constructor
  · rintro ⟨result, listed, rfl⟩
    obtain ⟨index, found, keeps⟩ := mem_kept.mp listed
    rw [Bool.or_eq_true, ConversationEntry.isProtected, Option.isNone_iff_eq_none] at keeps
    exact ⟨result, index, found, rfl, keeps.symm⟩
  · rintro ⟨result, index, found, rfl, keeps⟩
    refine ⟨result, mem_kept.mpr ⟨index, found, ?_⟩, rfl⟩
    rw [Bool.or_eq_true, ConversationEntry.isProtected, Option.isNone_iff_eq_none]
    exact keeps.symm

theorem not_adds_toolResult {result : ToolResultEntry} : ¬ strategy.Adds (.toolResult result) := by
  rintro ⟨_, ⟨_, same⟩ | ⟨_, same⟩⟩
  · cases same
  · cases same

/-- A successful compaction shows every protected entry and only entries of the projection, in their
order and with distinct identifiers, in front of the entry that it adds; a tool result keeps its request,
and a request its result where the method keeps that or the result has no artifact. -/
theorem compaction_safe {conversation : ConversationState} {context : CompactionContext}
    {plan : CompactionPlan} (compacted : compactProjection conversation strategy context = .ok plan) :
    SafeCompaction strategy conversation.providerProjection plan.replacement := by
  simp only [compactProjection, bind_eq_ok, exists_unit] at compacted
  obtain ⟨_, made, makes, compacted⟩ := compacted
  have distinct : firstRepeated ∅ (made.1.map ConversationEntry.id) = none ∧
      plan.replacement = made.1 := by
    split at compacted
    · cases compacted
    · next unrepeated =>
      cases compacted
      exact ⟨unrepeated, rfl⟩
  obtain ⟨shown, added, shows, same, length, adds⟩ := shown_of_strategyReplacement makes
  have protectedShown : (protectedEntries conversation.providerProjection).Sublist shown := by
    have kept : (protectedEntries conversation.providerProjection).Sublist
        (protectedEntries (strategy.kept conversation.providerProjection)) := by
      have filtered := (@protectedEntries_sublist_kept strategy
        conversation.providerProjection).filter ConversationEntry.isProtected
      rwa [protectedEntries, List.filter_filter, List.filter_congr (q := ConversationEntry.isProtected)
        fun _ _ => Bool.and_self _] at filtered
    exact kept.trans (protectedEntries_sublist_shown shows)
  rw [distinct.2]
  refine ⟨(firstRepeated_eq_none.mp distinct.1).1, ?_, ?_, ?_, ?_⟩
  · rw [same]
    exact protectedShown.trans (List.sublist_append_left _ _)
  · exact ⟨_, shown, added, kept_sublist, shows, same, length, adds⟩
  · rintro result _ ⟨call, listed, called⟩
    -- Every request is protected.
    refine ⟨call, ?_, called⟩
    rw [same]
    exact List.mem_append_left _ (protectedShown.subset (List.mem_filter.mpr ⟨listed, rfl⟩))
  · intro call _
    rw [← answered_kept, ← answered_shown shows, same]
    constructor
    · rintro ⟨result, listed, answers⟩
      rcases List.mem_append.mp listed with inside | last
      · exact ⟨result, inside, answers⟩
      · exact absurd (adds _ last) not_adds_toolResult
    · rintro ⟨result, listed, answers⟩
      exact ⟨result, List.mem_append_left _ listed, answers⟩

end Compaction

section Summary

theorem projectionRange_eq_none {source : List ConversationEntry}
    (missing : projectionRange source = none) : source = [] := by
  have widened : ∀ (ranges : List (Sequence × Sequence)) range,
      (ranges.foldl widenRange (some range)).isSome := by
    intro ranges
    induction ranges with
    | nil => exact fun _ => rfl
    | cons first rest ih => exact fun range => ih _
  cases source with
  | nil => rfl
  | cons entry rest =>
    have found := widened (rest.map ConversationEntry.range) entry.range
    change projectionRange (entry :: rest) = none at missing
    rw [projectionRange, List.map_cons, List.foldl_cons, widenRange] at missing
    rw [missing] at found
    exact absurd found Bool.false_ne_true

theorem saturateU64_le {bytes limit : Nat} (below : limit < UInt64.size - 1)
    (fits : saturateU64 bytes ≤ limit) : bytes ≤ limit := by
  rw [saturateU64] at fits
  omega

theorem saturateU64_add {left right : Nat} :
    saturateU64 (saturateU64 left + right) = saturateU64 (left + right) := by
  simp only [saturateU64]
  omega

variable [EntrySerde] {maxBytes recentStart bytes : Nat} {isRequired : ConversationEntry → Bool}

theorem takeSummaryEntry_eq {taken : List ConversationEntry × Nat} {indexed : ConversationEntry × Nat}
    {encoded : Nat} (encodes : EntrySerde.entryBytes indexed.1 = some encoded) :
    takeSummaryEntry maxBytes recentStart isRequired taken indexed =
      if isRequired indexed.1 || indexed.2 ≥ recentStart then
        if saturateU64 (taken.2 + summaryBytes indexed.1) > maxBytes then
          if isRequired indexed.1 then .error .summaryMaterialTooLarge else .ok taken
        else .ok (taken.1 ++ [indexed.1], saturateU64 (taken.2 + summaryBytes indexed.1))
      else .ok taken := by
  have contribution : serializedEntryBytes indexed.1 = .ok (summaryBytes indexed.1) := by
    rw [serializedEntryBytes, summaryBytes, encodes]
    rfl
  rw [takeSummaryEntry, contribution]
  rfl

theorem bytesBehind_singleton {indexed : ConversationEntry × Nat} :
    bytesBehind maxBytes recentStart isRequired bytes [indexed] =
      if (isRequired indexed.1 || indexed.2 ≥ recentStart) &&
        saturateU64 (bytes + summaryBytes indexed.1) ≤ maxBytes then
        saturateU64 (bytes + summaryBytes indexed.1) else bytes := by
  rw [bytesBehind, bytesBehind, bytesBehind]

theorem bytesBehind_cons {indexed : ConversationEntry × Nat} {rest : List (ConversationEntry × Nat)} :
    bytesBehind maxBytes recentStart isRequired bytes (indexed :: rest) =
      bytesBehind maxBytes recentStart isRequired
        (bytesBehind maxBytes recentStart isRequired bytes [indexed]) rest := by
  simp only [bytesBehind]
  split <;> rfl

theorem requiredFit_cons {indexed : ConversationEntry × Nat}
    {rest : List (ConversationEntry × Nat)} :
    RequiredFit maxBytes recentStart isRequired bytes (indexed :: rest) ↔
      (isRequired indexed.1 → saturateU64 (bytes + summaryBytes indexed.1) ≤ maxBytes) ∧
      RequiredFit maxBytes recentStart isRequired
        (bytesBehind maxBytes recentStart isRequired bytes [indexed]) rest := by
  constructor
  · intro fit
    refine ⟨fun required => fit [] indexed rest rfl required, fun before entry after split required => ?_⟩
    have behind := fit (indexed :: before) entry after (by rw [split]; rfl) required
    rwa [bytesBehind_cons] at behind
  · rintro ⟨first, others⟩ before entry after split required
    cases before with
    | nil =>
      obtain ⟨rfl, -⟩ := List.cons.inj split
      exact first required
    | cons earlier before =>
      obtain ⟨rfl, later⟩ := List.cons.inj split
      rw [bytesBehind_cons]
      exact others before entry after later required

theorem bytesBehind_le {indexed : List (ConversationEntry × Nat)} (room : bytes ≤ maxBytes) :
    bytesBehind maxBytes recentStart isRequired bytes indexed ≤ maxBytes := by
  induction indexed generalizing bytes with
  | nil => exact room
  | cons first rest ih =>
    rw [bytesBehind]
    split
    · next taken =>
      rw [Bool.and_eq_true, decide_eq_true_eq] at taken
      exact ih taken.2
    · exact ih room

theorem requiredBytes_le {indexed : List (ConversationEntry × Nat)} (room : bytes ≤ maxBytes)
    (below : maxBytes < UInt64.size - 1)
    (fit : RequiredFit maxBytes recentStart isRequired bytes indexed) :
    bytes + requiredBytes isRequired (indexed.map Prod.fst) ≤ maxBytes := by
  induction indexed generalizing bytes with
  | nil => simpa [requiredBytes] using room
  | cons first rest ih =>
    obtain ⟨fits, others⟩ := requiredFit_cons.mp fit
    have later := ih (bytesBehind_le room) others
    rw [bytesBehind_singleton] at later
    rw [requiredBytes] at later
    rw [requiredBytes, List.map_cons, List.filter_cons]
    by_cases required : isRequired first.1
    · have small := fits required
      have exactly := saturateU64_le below small
      rw [required, Bool.true_or, Bool.true_and, if_pos (decide_eq_true small)] at later
      rw [if_pos required, List.map_cons, List.sum_cons]
      simp only [saturateU64] at later
      omega
    · rw [if_neg required]
      split at later
      · simp only [saturateU64] at later
        omega
      · exact later

/-- The loop takes what fits, and fails where a required entry does not. -/
theorem foldlM_takeSummaryEntry {indexed : List (ConversationEntry × Nat)}
    {entries : List ConversationEntry} (encodes : EntriesEncode (indexed.map Prod.fst))
    (small : saturateU64 bytes = bytes) :
    (RequiredFit maxBytes recentStart isRequired bytes indexed → ∃ added,
      indexed.foldlM (takeSummaryEntry maxBytes recentStart isRequired) (entries, bytes) =
        .ok (entries ++ added, bytesBehind maxBytes recentStart isRequired bytes indexed) ∧
      ((indexed.map Prod.fst).filter isRequired).Sublist added ∧
      added.Sublist (indexed.map Prod.fst) ∧
      bytesBehind maxBytes recentStart isRequired bytes indexed =
        saturateU64 (bytes + (added.map summaryBytes).sum)) ∧
    (¬ RequiredFit maxBytes recentStart isRequired bytes indexed →
      indexed.foldlM (takeSummaryEntry maxBytes recentStart isRequired) (entries, bytes) =
        .error .summaryMaterialTooLarge) := by
  induction indexed generalizing bytes entries with
  | nil =>
    refine ⟨fun _ => ⟨[], by rw [List.append_nil]; rfl, List.Sublist.refl _, List.Sublist.refl _, ?_⟩,
      fun unfit => absurd (fun before _ after split => by simp at split) unfit⟩
    simpa [bytesBehind] using small.symm
  | cons first rest ih =>
    obtain ⟨encodesFirst, encodesRest⟩ := List.forall_mem_cons.mp encodes
    obtain ⟨encoded, isEncoded⟩ := Option.isSome_iff_exists.mp encodesFirst
    have behind := @bytesBehind_cons _ maxBytes recentStart bytes isRequired first rest
    rw [bytesBehind_singleton] at behind
    rw [List.foldlM_cons, takeSummaryEntry_eq isEncoded, requiredFit_cons, bytesBehind_singleton, behind]
    dsimp only
    by_cases selected : (isRequired first.1 || decide (first.2 ≥ recentStart)) = true
    · rw [selected, Bool.true_and, if_pos rfl]
      by_cases fits : saturateU64 (bytes + summaryBytes first.1) ≤ maxBytes
      · -- The entry is taken.
        rw [if_pos (decide_eq_true fits), if_neg (by omega)]
        obtain ⟨taken, refused⟩ := @ih (saturateU64 (bytes + summaryBytes first.1))
          (entries ++ [first.1]) encodesRest (by simp only [saturateU64]; omega)
        refine ⟨fun fit => ?_, fun unfit => refused fun others => unfit ⟨fun _ => fits, others⟩⟩
        obtain ⟨added, folded, requiredOnes, listed, sum⟩ := taken fit.2
        refine ⟨first.1 :: added, ?_, ?_, listed.cons_cons _, ?_⟩
        · have regrouped : entries ++ first.1 :: added = entries ++ [first.1] ++ added :=
            List.append_cons entries first.1 added
          rw [regrouped]
          exact folded
        · rw [List.map_cons, List.filter_cons]
          split
          · exact requiredOnes.cons_cons _
          · exact requiredOnes.cons _
        · rw [sum, saturateU64_add, List.map_cons, List.sum_cons, Nat.add_assoc]
      · rw [if_neg (by simpa using fits), if_pos (by omega)]
        by_cases required : isRequired first.1
        · -- A required entry does not fit.
          rw [if_pos required]
          exact ⟨fun fit => absurd (fit.1 required) fits, fun _ => rfl⟩
        · rw [if_neg required]
          obtain ⟨taken, refused⟩ := @ih bytes entries encodesRest small
          refine ⟨fun fit => ?_, fun unfit => refused fun others =>
            unfit ⟨fun isRequired => absurd isRequired required, others⟩⟩
          obtain ⟨added, folded, requiredOnes, listed, sum⟩ := taken fit.2
          refine ⟨added, folded, ?_, listed.cons _, sum⟩
          rwa [List.map_cons, List.filter_cons, if_neg required]
    · -- The entry is neither required nor recent.
      have required : ¬ isRequired first.1 := fun required => selected (by rw [required]; rfl)
      rw [if_neg selected, if_neg (by simp [selected])]
      obtain ⟨taken, refused⟩ := @ih bytes entries encodesRest small
      refine ⟨fun fit => ?_, fun unfit => refused fun others =>
        unfit ⟨fun isRequired => absurd isRequired required, others⟩⟩
      obtain ⟨added, folded, requiredOnes, listed, sum⟩ := taken fit.2
      refine ⟨added, folded, ?_, listed.cons _, sum⟩
      rwa [List.map_cons, List.filter_cons, if_neg required]

theorem requiredFit_of_greatest {indexed : List (ConversationEntry × Nat)}
    (greatest : UInt64.size - 1 ≤ maxBytes) :
    RequiredFit maxBytes recentStart isRequired bytes indexed := by
  intro before entry after _ _
  simp only [saturateU64]
  omega

section Request

variable {conversation : ConversationState} {requirements : List String} {recentWindow : Nat}
  {range : Sequence × Sequence}

/-- The loop over a projection. -/
def takenOf (conversation : ConversationState) (maxBytes : Nat) (requirements : List String)
    (recentWindow : Nat) : Except CompactionError (List ConversationEntry × Nat) :=
  conversation.providerProjection.zipIdx.foldlM (takeSummaryEntry maxBytes
    (conversation.providerProjection.length - recentWindow) (summaryEntryIsRequired
      (currentInput conversation.providerProjection) requirements)) ([], 0)

theorem build_of_empty (missing : projectionRange conversation.providerProjection = none) :
    buildSummaryRequestMaterial conversation maxBytes requirements recentWindow =
      .error .missingSourceRange := by
  rw [buildSummaryRequestMaterial, missing]
  rfl

theorem build_of_unbounded (ranged : projectionRange conversation.providerProjection = some range)
    (unbounded : maxBytes = 0 ∨ recentWindow = 0) :
    buildSummaryRequestMaterial conversation maxBytes requirements recentWindow =
      .error .invalidSummaryMaterial := by
  rw [buildSummaryRequestMaterial, ranged, refuseIf, if_pos unbounded]
  rfl

variable (ranged : projectionRange conversation.providerProjection = some range)
  (bounded : ¬ (maxBytes = 0 ∨ recentWindow = 0))
include ranged bounded

theorem build_of_refused {error : CompactionError}
    (refused : takenOf conversation maxBytes requirements recentWindow = .error error) :
    buildSummaryRequestMaterial conversation maxBytes requirements recentWindow = .error error := by
  rw [takenOf] at refused
  rw [buildSummaryRequestMaterial, ranged, refuseIf, if_neg bounded]
  simp only [okOr, refused]
  rfl

theorem build_of_taken {taken : List ConversationEntry × Nat}
    (took : takenOf conversation maxBytes requirements recentWindow = .ok taken) :
    buildSummaryRequestMaterial conversation maxBytes requirements recentWindow =
        .ok ⟨taken.1, some range, taken.2⟩ ∨
      ∃ id, buildSummaryRequestMaterial conversation maxBytes requirements recentWindow =
        .error (.duplicateProjectionEntry id) := by
  rw [takenOf] at took
  rw [buildSummaryRequestMaterial, ranged, refuseIf, if_neg bounded]
  simp only [okOr, took, bind, Except.bind]
  split
  · exact Or.inr ⟨_, rfl⟩
  · exact Or.inl rfl

end Request

variable {conversation : ConversationState} {requirements : List String} {recentWindow : Nat}

/-- A summary request is refused exactly when its required entries are too large, and its material is
sound, exactly when no recent entry takes the room of a required one. -/
theorem summary_material_sound_iff (encodes : EntriesEncode conversation.providerProjection) :
    SoundMaterial conversation maxBytes requirements recentWindow ↔
      RequiredHaveRoom conversation.providerProjection maxBytes (summaryEntryIsRequired
        (currentInput conversation.providerProjection) requirements) recentWindow := by
  generalize isRequired : summaryEntryIsRequired
    (currentInput conversation.providerProjection) requirements = required
  cases ranged : projectionRange conversation.providerProjection with
  | none =>
    -- Nothing is required of an empty projection.
    have empty := projectionRange_eq_none ranged
    have built := @build_of_empty _ maxBytes conversation requirements recentWindow ranged
    constructor
    · exact fun _ => by rw [empty]; exact ⟨fun _ => Nat.zero_le _, fun large => absurd large (Nat.not_lt_zero _),
        fun _ _ _ before _ after split => by simp at split⟩
    · intro _
      refine ⟨iff_of_false (by rw [built]; exact fun same => by cases same) ?_,
        fun _ made => by rw [built] at made; cases made⟩
      rw [empty]
      exact Nat.not_lt_zero _
  | some range =>
    by_cases unbounded : maxBytes = 0 ∨ recentWindow = 0
    · have built := @build_of_unbounded _ maxBytes conversation requirements recentWindow range ranged
        unbounded
      have refused : ¬ buildSummaryRequestMaterial conversation maxBytes requirements recentWindow =
          .error .summaryMaterialTooLarge := fun large => by rw [built] at large; cases large
      constructor
      · intro sound
        have small : requiredBytes required conversation.providerProjection ≤ maxBytes := by
          refine not_lt.mp fun large => refused (sound.tooLarge.mpr ?_)
          rwa [isRequired]
        exact ⟨fun _ => small, fun large => absurd large (not_lt.mpr small),
          fun positive open_ => by omega⟩
      · intro room
        refine ⟨iff_of_false refused ?_, fun _ made => by rw [built] at made; cases made⟩
        rw [isRequired]
        exact not_lt.mpr (room.bounds unbounded)
    · have encodesIndexed : EntriesEncode (conversation.providerProjection.zipIdx.map Prod.fst) := by
        rwa [List.zipIdx_map_fst]
      obtain ⟨takes, refuses⟩ := @foldlM_takeSummaryEntry _ maxBytes
        (conversation.providerProjection.length - recentWindow) 0 required _ [] encodesIndexed rfl
      by_cases fit : RequiredFit maxBytes (conversation.providerProjection.length - recentWindow)
        required 0 conversation.providerProjection.zipIdx
      · obtain ⟨added, folded, requiredOnes, listed, sum⟩ := takes fit
        rw [List.zipIdx_map_fst] at requiredOnes listed
        have bound := @bytesBehind_le _ maxBytes
          (conversation.providerProjection.length - recentWindow) 0 required
          conversation.providerProjection.zipIdx (Nat.zero_le _)
        generalize bytesBehind maxBytes (conversation.providerProjection.length - recentWindow) required
          0 conversation.providerProjection.zipIdx = behind at folded sum bound
        have took : takenOf conversation maxBytes requirements recentWindow = .ok (added, behind) := by
          rw [takenOf, isRequired]
          exact folded
        have built := build_of_taken ranged unbounded took
        have material : ∀ material,
            buildSummaryRequestMaterial conversation maxBytes requirements recentWindow =
              .ok material → material = ⟨added, some range, behind⟩ := by
          intro material made
          rcases built with ok | ⟨id, repeated⟩
          · exact Except.ok.inj (made.symm.trans ok)
          · rw [repeated] at made
            cases made
        have refused : ¬ buildSummaryRequestMaterial conversation maxBytes requirements recentWindow =
            .error .summaryMaterialTooLarge := by
          intro large
          rcases built with ok | ⟨id, repeated⟩
          · rw [ok] at large
            cases large
          · rw [repeated] at large
            cases large
        constructor
        · intro sound
          have small : requiredBytes required conversation.providerProjection ≤ maxBytes := by
            refine not_lt.mp fun large => refused (sound.tooLarge.mpr ?_)
            rwa [isRequired]
          exact ⟨fun _ => small, fun large => absurd large (not_lt.mpr small), fun _ _ _ => fit⟩
        · intro room
          refine ⟨iff_of_false refused ?_, fun one made => ?_⟩
          · -- Required entries that fit are not too large below the greatest bound.
            rw [isRequired]
            intro large
            have small := requiredBytes_le (Nat.zero_le _) (room.large large) fit
            rw [List.zipIdx_map_fst] at small
            omega
          · rw [material one made, isRequired]
            refine ⟨requiredOnes, listed, bound, ?_⟩
            rw [Nat.zero_add] at sum
            exact sum
      · -- Some required entry does not fit.
        have refused : takenOf conversation maxBytes requirements recentWindow =
            .error .summaryMaterialTooLarge := by
          rw [takenOf, isRequired]
          exact refuses fit
        have built := build_of_refused ranged unbounded refused
        constructor
        · intro sound
          have large := sound.tooLarge.mp built
          rw [isRequired] at large
          refine ⟨fun none => absurd none unbounded, fun _ => ?_,
            fun _ _ small => absurd large (not_lt.mpr small)⟩
          by_contra greatest
          exact fit (requiredFit_of_greatest (by omega))
        · intro room
          have positive : 0 < maxBytes ∧ 0 < recentWindow := by omega
          refine ⟨iff_of_true built ?_, fun _ made => by rw [built] at made; cases made⟩
          rw [isRequired]
          exact not_le.mp fun small => fit (room.fit positive.1 positive.2 small)

end Summary

section Sample

/-- A request for a tool whose output an artifact holds. -/
def sampleToolCall : ConversationEntry := .toolCallRequest ⟨"call", "c", "read", .null, 1⟩

/-- The output of the tool, which the artifact holds. -/
def sampleToolResult : ConversationEntry := .toolResult ⟨"result", "c", "text", some "artifact", false, 2⟩

/-- A conversation of some entries. -/
def conversationOf (entries : List ConversationEntry) : ConversationState := ⟨entries, entries, none, ∅⟩

/-- A summary of the call and its result. -/
def toolSummary : CompactionStrategy := .summary "summary" "The file was read." none

/-- The call stays without its result. -/
def unansweredPlan : CompactionPlan where
  replacement := [sampleToolCall,
    .contextSummary ⟨"summary", "The file was read.", 1, 2, "summary", none⟩]
  provenance := ⟨"p", some (1, 2), "summary", 3, none⟩

theorem compact_toolSummary : compactProjection (conversationOf [sampleToolCall, sampleToolResult])
    toolSummary ⟨"p", 3⟩ = .ok unansweredPlan := by
  rfl

/-- A compaction can leave a tool call without the result that it had. -/
theorem not_compaction_pairs : ¬ ∀ (conversation : ConversationState) (strategy : CompactionStrategy)
    (context : CompactionContext) (plan : CompactionPlan),
    (entryIds conversation.providerProjection).Nodup →
    compactProjection conversation strategy context = .ok plan →
    (∀ call, .toolCallRequest call ∈ conversation.providerProjection →
      Answered conversation.providerProjection call.callId) →
    ∀ call, .toolCallRequest call ∈ plan.replacement → Answered plan.replacement call.callId := by
  intro pairs
  have distinct : (entryIds [sampleToolCall, sampleToolResult]).Nodup := by decide
  obtain ⟨result, listed, _⟩ := pairs _ _ _ _ distinct compact_toolSummary
    (fun call listed => ⟨⟨"result", "c", "text", some "artifact", false, 2⟩, by
      simp [conversationOf, sampleToolResult], by
      have same : call = ⟨"call", "c", "read", .null, 1⟩ := by
        simpa [conversationOf, sampleToolCall, sampleToolResult] using listed
      rw [same]⟩)
    ⟨"call", "c", "read", .null, 1⟩ List.mem_cons_self
  simp [unansweredPlan, sampleToolCall] at listed

/-- The summary of the sample is safe. -/
theorem compaction_safe_toolSummary :
    SafeCompaction toolSummary [sampleToolCall, sampleToolResult] unansweredPlan.replacement :=
  compaction_safe compact_toolSummary

/-- The encoding of a message, as long as the serializer makes it. -/
def encodedMessage (kind : String) (message : TextEntry) : String :=
  "\x7b\"kind\":\"" ++ kind ++ "\",\"content\":\x7b\"id\":\"" ++ message.id ++ "\",\"text\":\"" ++
    message.text ++ "\",\"source_sequence\":" ++ toString message.sourceSequence ++ "\x7d\x7d"

/-- A serializer of plain messages. -/
abbrev messageSerde : EntrySerde where
  entryBytes
    | .userMessage message => some (encodedMessage "user_message" message).utf8ByteSize
    | .assistantMessage message => some (encodedMessage "assistant_message" message).utf8ByteSize
    | _ => some 0

attribute [local instance] messageSerde

/-- A question behind an answer. -/
def questionBehindAnswer : ConversationState := conversationOf
  [.assistantMessage ⟨"a", "Done.", 1⟩, .userMessage ⟨"u", "Why?", 2⟩]

/-- The error with which a computation ends. -/
def refusal {ε α : Type} (outcome : Except ε α) : Option ε :=
  match outcome with
  | .ok _ => none
  | .error error => some error

theorem eq_error_of_refusal {ε α : Type} {outcome : Except ε α} {error : ε}
    (refused : refusal outcome = some error) : outcome = .error error := by
  cases outcome with
  | ok value => cases refused
  | error other => rw [Option.some.inj refused]

/-- The question alone has room, but behind the answer it does not fit. -/
instance questionBehindAnswer_refused : Fact (
    refusal (buildSummaryRequestMaterial questionBehindAnswer 100 [] 2) =
      some .summaryMaterialTooLarge ∧
    ¬ 100 < requiredBytes (summaryEntryIsRequired
      (currentInput questionBehindAnswer.providerProjection) [])
        questionBehindAnswer.providerProjection) where
  out := by decide +kernel

theorem entriesEncode_sample : EntriesEncode questionBehindAnswer.providerProjection := by
  intro entry listed
  simp only [questionBehindAnswer, conversationOf, List.mem_cons, List.not_mem_nil, or_false] at listed
  rcases listed with rfl | rfl
  · rfl
  · rfl

/-- An answer that the request could leave out takes the room of the question behind it. -/
theorem not_summary_material_sound : ¬ ∀ (conversation : ConversationState) (maxBytes : Nat)
    (requirements : List String) (recentWindow : Nat), 0 < maxBytes → 0 < recentWindow →
    EntriesEncode conversation.providerProjection →
    SoundMaterial conversation maxBytes requirements recentWindow := by
  intro sound
  have request := sound questionBehindAnswer 100 [] 2 (by decide) (by decide) entriesEncode_sample
  obtain ⟨refused, small⟩ := questionBehindAnswer_refused.out
  exact small (request.tooLarge.mp (eq_error_of_refusal refused))

/-- With a window of one message, the sample's request is as sound as there is room. -/
theorem summary_material_sound_sample : SoundMaterial questionBehindAnswer 100 [] 1 ↔
    RequiredHaveRoom questionBehindAnswer.providerProjection 100 (summaryEntryIsRequired
      (currentInput questionBehindAnswer.providerProjection) []) 1 :=
  summary_material_sound_iff entriesEncode_sample

end Sample

end AgentMod
