import AgentMod.Conversation.Compaction
import AgentMod.Verified.Primitives.Collections

/-! Identifiers of conversation entries over any run of accepted calls. -/

namespace AgentMod

theorem firstRepeated_eq_none {seen : StringSet} {ids : List ConversationEntryId} :
    firstRepeated seen ids = none ↔ ids.Nodup ∧ ∀ id ∈ ids, id ∉ seen := by
  induction ids generalizing seen with
  | nil => simp [firstRepeated]
  | cons id rest ih =>
    rw [firstRepeated, List.nodup_cons, List.forall_mem_cons]
    by_cases present : id ∈ seen
    · rw [if_pos (Std.ExtTreeSet.mem_iff_contains.mp present)]
      simp [present]
    · rw [if_neg (by rwa [← Std.ExtTreeSet.mem_iff_contains]), ih]
      simp only [Std.ExtTreeSet.mem_insert, Std.LawfulEqCmp.compare_eq_iff_eq, not_or]
      constructor
      · rintro ⟨distinct, unseen⟩
        exact ⟨⟨fun inside => (unseen id inside).1 rfl, distinct⟩, present, fun other inside =>
          (unseen other inside).2⟩
      · rintro ⟨⟨apart, distinct⟩, -, unseen⟩
        exact ⟨distinct, fun other inside => ⟨fun same => apart (same ▸ inside), unseen other inside⟩⟩

theorem not_nodup_of_firstRepeated {ids : List ConversationEntryId} {id : ConversationEntryId}
    (repeated : firstRepeated ∅ ids = some id) : ¬ ids.Nodup := by
  intro distinct
  rw [firstRepeated_eq_none.mpr ⟨distinct, fun _ _ => Std.ExtTreeSet.not_mem_empty⟩] at repeated
  cases repeated

theorem firstRepeated_append {seen : StringSet} {ids : List ConversationEntryId}
    {last id : ConversationEntryId} (distinct : firstRepeated seen ids = none)
    (repeated : firstRepeated seen (ids ++ [last]) = some id) : id = last ∧ (last ∈ ids ∨ last ∈ seen) := by
  induction ids generalizing seen with
  | nil =>
    rw [List.nil_append, firstRepeated] at repeated
    split at repeated
    · rename_i present
      cases repeated
      exact ⟨rfl, .inr (Std.ExtTreeSet.mem_iff_contains.mpr present)⟩
    · cases repeated
  | cons first rest ih =>
    rw [firstRepeated] at distinct
    rw [List.cons_append, firstRepeated] at repeated
    split at distinct
    · cases distinct
    · rename_i absent
      rw [if_neg absent] at repeated
      obtain ⟨same, inside | seen⟩ := ih distinct repeated
      · exact ⟨same, .inl (List.mem_cons_of_mem _ inside)⟩
      · rw [Std.ExtTreeSet.mem_insert, Std.LawfulEqCmp.compare_eq_iff_eq] at seen
        rcases seen with rfl | earlier
        · exact ⟨same, .inl List.mem_cons_self⟩
        · exact ⟨same, .inr earlier⟩

section Calls

variable {state next : ConversationState} {entry : ConversationEntry} {call : ConversationCall}

theorem entryAppend_eq_ok : state.append entry = .ok next ↔
    state.entryPositions[entry.id]? = none ∧
    next = { state with
      entryPositions := state.entryPositions.insert entry.id state.history.length
      history := state.history ++ [entry]
      providerProjection := state.providerProjection ++ [entry] } := by
  rw [ConversationState.append]
  cases found : state.entryPositions[entry.id]? with
  | none =>
    have absent : ¬ state.entryPositions.contains entry.id := by
      rw [StringMap.contains_iff, found]
      exact nofun
    rw [if_neg absent]
    simp [eq_comm]
  | some index =>
    rw [if_pos (StringMap.contains_iff.mpr ⟨index, found⟩)]
    simp

theorem replaceProjection_eq_ok {replacement : List ConversationEntry}
    {provenance : ProjectionProvenance} :
    state.replaceProjection replacement provenance = .ok next ↔
    ConversationState.reversedRange provenance.sourceRange = none ∧ (entryIds replacement).Nodup ∧
    next = { state with
      providerProjection := replacement
      projectionProvenance := some provenance } := by
  rw [ConversationState.replaceProjection]
  cases ConversationState.reversedRange provenance.sourceRange with
  | some range => simp
  | none =>
    cases repeated : firstRepeated ∅ (replacement.map ConversationEntry.id) with
    | some id => simp [entryIds, not_nodup_of_firstRepeated repeated]
    | none => simp [entryIds, (firstRepeated_eq_none.mp repeated).1, eq_comm]

/-- Every call keeps the index of the history. -/
theorem Indexed.apply (indexed : Indexed state) (accepted : ConversationAccepts state call next) :
    Indexed next := by
  cases call with
  | replaceProjection replacement provenance =>
    obtain ⟨-, -, rfl⟩ := replaceProjection_eq_ok.mp accepted
    exact ⟨indexed.distinct, indexed.positions⟩
  | append entry =>
    obtain ⟨absent, rfl⟩ := entryAppend_eq_ok.mp accepted
    have fresh : entry.id ∉ entryIds state.history := fun inside => by
      obtain ⟨index, found⟩ := List.mem_iff_getElem?.mp inside
      rw [(indexed.positions _ _).mpr found] at absent
      cases absent
    refine ⟨?_, fun id index => ?_⟩
    · simpa [entryIds] using List.nodup_append.mpr ⟨indexed.distinct, List.nodup_singleton entry.id,
        fun id inside other last same => fresh (List.mem_singleton.mp last ▸ same ▸ inside)⟩
    · -- The appended identifier is at the end, and the others stay where they were.
      have length : (entryIds state.history).length = state.history.length := List.length_map ..
      simp only [StringMap.getElem?_insert', entryIds, List.map_append, List.map_cons, List.map_nil]
      change _ ↔ (entryIds state.history ++ [entry.id])[index]? = some id
      by_cases same : entry.id = id
      · subst same
        rw [if_pos rfl, List.getElem?_append]
        split
        · rename_i within
          constructor
          · intro last
            cases last
            exact absurd within (by omega)
          · exact fun found => absurd (List.mem_of_getElem? found) fresh
        · rw [List.getElem?_singleton]
          constructor
          · intro last
            cases last
            simp [length]
          · intro found
            have last : index = state.history.length := by
              by_contra other
              rw [if_neg (by omega)] at found
              cases found
            rw [last]
      · rw [if_neg same, indexed.positions, List.getElem?_append]
        split
        · rfl
        · rename_i beyond
          rw [List.getElem?_eq_none (by omega), List.getElem?_singleton]
          split <;> simp [same]

/-- Behind an accepted call, the projection is distinct exactly when it was and the call was fresh, or
when the call replaced it. -/
theorem projected_iff (projected : Projected state) (accepted : ConversationAccepts state call next) :
    Projected next ↔ call.Fresh state := by
  cases call with
  | replaceProjection replacement provenance =>
    obtain ⟨-, distinct, rfl⟩ := replaceProjection_eq_ok.mp accepted
    exact ⟨fun _ => trivial, fun _ => distinct⟩
  | append entry =>
    obtain ⟨-, rfl⟩ := entryAppend_eq_ok.mp accepted
    simp only [Projected, entryIds, List.map_append, List.map_cons, List.map_nil,
      ConversationCall.Fresh]
    rw [List.nodup_append]
    constructor
    · rintro ⟨-, -, apart⟩ inside
      exact apart entry.id inside entry.id (by simp) rfl
    · intro fresh
      exact ⟨projected, List.nodup_singleton _, fun id inside other same => by
        rintro rfl
        exact fresh (by simpa [List.mem_singleton.mp same] using inside)⟩

end Calls

section Compactions

variable {state : ConversationState} {source replacement : List ConversationEntry}
variable {strategy : CompactionStrategy}

theorem slidingWindow_sublist {maxRecentEntries : Nat} :
    (slidingWindow source maxRecentEntries).Sublist source := by
  rw [slidingWindow]
  have selected := (List.filter_sublist (l := source.zipIdx) (p := fun placed =>
    placed.2 ≥ source.length - maxRecentEntries || placed.1.isProtected)).map Prod.fst
  rwa [List.zipIdx_map_fst] at selected

theorem id_evictToolOutput {maxVisibleBytes : Nat} {entry result : ConversationEntry}
    (evicted : evictToolOutput maxVisibleBytes entry = .ok result) : result.id = entry.id := by
  cases entry with
  | toolResult entry =>
    rw [evictToolOutput] at evicted
    split at evicted
    · split at evicted
      · cases evicted
      · cases evicted
        rfl
    · cases evicted
      rfl
  | _ => cases evicted; rfl

theorem entryIds_evictToolOutputs {maxVisibleBytes : Nat}
    (evicted : evictToolOutputs source maxVisibleBytes = .ok replacement) :
    entryIds replacement = entryIds source := by
  have all := mapM_eq_ok.mp evicted
  induction all with
  | nil => rfl
  | cons first _ ih =>
    have rest := ih (mapM_eq_ok.mpr ‹_›)
    simp only [entryIds, List.map_cons] at rest ⊢
    rw [id_evictToolOutput first, rest]

/-- What a strategy makes of a projection has the identifiers of some of its entries, in their order,
and behind those of the protected ones the identifier that the strategy adds. -/
theorem entryIds_strategyReplacement {committedAt : Sequence} {method : String}
    {artifactId : Option ArtifactId}
    (replaced : strategyReplacement strategy source committedAt = .ok (replacement, method, artifactId)) :
    (entryIds replacement).Sublist (entryIds source) ∨
      ∃ added, strategy.added = some added ∧
        entryIds replacement = entryIds (protectedEntries source) ++ [added] := by
  cases strategy with
  | none =>
    cases replaced
    exact .inl (.refl _)
  | slidingWindow maxRecentEntries =>
    rw [strategyReplacement] at replaced
    split at replaced
    · cases replaced
    · cases replaced
      exact .inl (slidingWindow_sublist.map _)
  | summary summaryId summary artifact =>
    rw [strategyReplacement] at replaced
    split at replaced
    · cases replaced
    · split at replaced
      · cases replaced
      · cases replaced
        exact .inr ⟨summaryId, rfl, by simp [entryIds, ConversationEntry.id]⟩
  | artifactHandoff entryId artifact reference contentHash label =>
    rw [strategyReplacement] at replaced
    split at replaced
    · cases replaced
    · cases replaced
      exact .inr ⟨entryId, rfl, by simp [entryIds, ConversationEntry.id]⟩
  | toolOutputEviction maxVisibleBytes =>
    rw [strategyReplacement] at replaced
    split at replaced
    · cases replaced
    · obtain ⟨_, evicted, same⟩ := bind_eq_ok.mp replaced
      cases same
      exact .inl (entryIds_evictToolOutputs evicted ▸ .refl _)

theorem evictToolOutput_ne_duplicate {maxVisibleBytes : Nat} {entry : ConversationEntry}
    {id : ConversationEntryId} :
    evictToolOutput maxVisibleBytes entry ≠ .error (.duplicateProjectionEntry id) := by
  cases entry with
  | toolResult entry =>
    rw [evictToolOutput]
    split
    · split <;> exact nofun
    · exact nofun
  | _ => exact nofun

theorem strategyReplacement_ne_duplicate {committedAt : Sequence} {id : ConversationEntryId} :
    strategyReplacement strategy source committedAt ≠ .error (.duplicateProjectionEntry id) := by
  cases strategy with
  | none => exact nofun
  | slidingWindow maxRecentEntries =>
    rw [strategyReplacement]
    split <;> exact nofun
  | summary summaryId summary artifact =>
    rw [strategyReplacement]
    split
    · exact nofun
    · split <;> exact nofun
  | artifactHandoff entryId artifact reference contentHash label =>
    rw [strategyReplacement]
    split <;> exact nofun
  | toolOutputEviction maxVisibleBytes =>
    rw [strategyReplacement]
    split
    · exact nofun
    · intro failed
      rcases bind_eq_error.mp failed with evicted | ⟨_, -, returned⟩
      · obtain ⟨entry, -, fails⟩ := exists_of_mapM_eq_error evicted
        exact evictToolOutput_ne_duplicate fails
      · cases returned

/-- A distinct projection is refused for a repeated identifier only where a strategy adds the identifier of
a protected entry. -/
theorem Projected.compaction {context : CompactionContext} {id : ConversationEntryId}
    (projected : Projected state) (refused : compactProjection state strategy context =
      .error (.duplicateProjectionEntry id)) :
    strategy.added = some id ∧ id ∈ entryIds (protectedEntries state.providerProjection) := by
  rcases bind_eq_error.mp refused with blank | ⟨-, -, refused⟩
  · rw [refuseIf] at blank
    split at blank <;> cases blank
  rcases bind_eq_error.mp refused with strategic | ⟨⟨replacement, method, artifactId⟩, replaced, refused⟩
  · exact absurd strategic strategyReplacement_ne_duplicate
  have repeated : firstRepeated ∅ (entryIds replacement) = some id := by
    dsimp only at refused
    split at refused
    · rename_i other found
      cases refused
      exact found
    · cases refused
  rcases entryIds_strategyReplacement replaced with selected | ⟨added, adds, same⟩
  · exact absurd (projected.sublist selected) (not_nodup_of_firstRepeated repeated)
  · -- The protected entries are distinct, so only the added identifier can repeat one of theirs.
    rw [same] at repeated
    have kept : (entryIds (protectedEntries state.providerProjection)).Nodup :=
      projected.sublist (List.filter_sublist.map _)
    have distinct := firstRepeated_eq_none.mpr ⟨kept, fun id _ => Std.ExtTreeSet.not_mem_empty⟩
    obtain ⟨rfl, inside | seen⟩ := firstRepeated_append distinct repeated
    · exact ⟨adds, inside⟩
    · exact absurd seen Std.ExtTreeSet.not_mem_empty

theorem compactProjection_none_of_repeated {context : CompactionContext} {id : ConversationEntryId}
    (named : ¬ isBlank context.projectionId)
    (repeated : firstRepeated ∅ (entryIds state.providerProjection) = some id) :
    compactProjection state .none context = .error (.duplicateProjectionEntry id) := by
  refine bind_eq_error.mpr (.inr ⟨(), refuseIf_eq_ok.mpr named, ?_⟩)
  refine bind_eq_error.mpr (.inr ⟨(state.providerProjection, "none", none), rfl, ?_⟩)
  rw [entryIds] at repeated
  dsimp only
  rw [repeated]

end Compactions

section Runs

variable {calls : List ConversationCall} {state : ConversationState}

theorem indexed_of_run (run : Run ConversationAccepts .new calls state) : Indexed state :=
  run.invariant ⟨List.nodup_nil, by simp [ConversationState.new, entryIds]⟩
    fun _ _ _ accepted indexed => indexed.apply accepted

/-- A run from a distinct projection goes through distinct projections exactly when all of its calls
are fresh. -/
theorem projected_of_run {start : ConversationState} (run : Run ConversationAccepts start calls state)
    (projected : Projected start) :
    (∀ first second middle, calls = first ++ second → Run ConversationAccepts start first middle →
      Projected middle) ↔
    Run (fun state call next => ConversationAccepts state call next ∧ call.Fresh state) start calls state := by
  constructor
  · intro distinct
    induction run with
    | nil => exact .nil
    | snoc before accepted ih =>
      rename_i calls call middle next
      have earlier := ih fun first second middle same => distinct first (second ++ [call]) middle
        (by rw [same, List.append_assoc])
      have here : Projected middle := distinct calls [call] middle rfl before
      have there : Projected next :=
        distinct (calls ++ [call]) [] next (by rw [List.append_nil]) (before.snoc accepted)
      exact earlier.snoc ⟨accepted, (projected_iff here accepted).mp there⟩
  · rintro fresh first second middle rfl before
    -- The fresh run goes through the same states.
    obtain ⟨reached, earlier, -⟩ := fresh.split
    have same : reached = middle :=
      (earlier.mono fun _ _ _ step => step.1).unique before fun _ _ _ _ accepted accepting =>
        Except.ok.inj (accepted.symm.trans accepting)
    exact same ▸ earlier.invariant projected fun _ _ _ step distinct =>
      (projected_iff distinct step.1).mpr step.2

/-- Over any run of accepted calls, the history has distinct identifiers that are mapped exactly to their
indices, and the projection has distinct ones in all states exactly when no call appends what the projection
shows already; a compaction is then refused only for the identifier that its strategy adds. -/
theorem conversation_identity (calls : List ConversationCall) (state : ConversationState)
    (run : Run ConversationAccepts .new calls state) :
    Indexed state ∧
    ((∀ first second middle, calls = first ++ second → Run ConversationAccepts .new first middle →
        Projected middle) ↔
      Run (fun state call next => ConversationAccepts state call next ∧ call.Fresh state) .new calls
        state) ∧
    (Run (fun state call next => ConversationAccepts state call next ∧ call.Fresh state) .new calls state →
      ∀ strategy context id,
        compactProjection state strategy context = .error (.duplicateProjectionEntry id) →
        strategy.added = some id ∧ id ∈ entryIds (protectedEntries state.providerProjection)) := by
  refine ⟨indexed_of_run run, projected_of_run run List.nodup_nil, fun fresh strategy context id => ?_⟩
  exact Projected.compaction (fresh.invariant List.nodup_nil fun _ _ _ step distinct =>
    (projected_iff distinct step.1).mpr step.2)

end Runs

section Sample

/-- A summary that only a projection shows. -/
def projectedSummary : ConversationEntry := .contextSummary ⟨"a", "summary", 1, 1, "summary", none⟩

/-- A message with the identifier of the summary. -/
def repeatedMessage : ConversationEntry := .userMessage ⟨"a", "message", 3⟩

theorem accepts_repeatedMessage : ConversationAccepts .new (.append repeatedMessage)
    ⟨[repeatedMessage], [repeatedMessage], none, (∅ : StringMap Nat).insert "a" 0⟩ :=
  entryAppend_eq_ok.mpr ⟨Std.ExtTreeMap.getElem?_empty, rfl⟩

/-- The message alone is a run that keeps the projection distinct. -/
theorem conversation_identity_repeatedMessage :
    Indexed ⟨[repeatedMessage], [repeatedMessage], none, (∅ : StringMap Nat).insert "a" 0⟩ :=
  (conversation_identity [.append repeatedMessage] _ (Run.nil.snoc accepts_repeatedMessage)).1

/-- The provenance of the summary. -/
def summaryProvenance : ProjectionProvenance := ⟨"p", some (1, 1), "summary", 2, none⟩

/-- A message with an identifier that only the projection shows is accepted, the projection shows the
identifier twice, and a compaction that changes nothing is refused. -/
theorem not_conversation_identity : ∃ state,
    Run ConversationAccepts .new
      [.replaceProjection [projectedSummary] summaryProvenance, .append repeatedMessage] state ∧
    entryIds state.providerProjection = ["a", "a"] ∧
    compactProjection state .none ⟨"q", 4⟩ = .error (.duplicateProjectionEntry "a") := by
  let replaced : ConversationState := ⟨[], [projectedSummary], some summaryProvenance, ∅⟩
  have first : ConversationAccepts .new (.replaceProjection [projectedSummary] summaryProvenance)
      replaced := by
    have ordered : ConversationState.reversedRange summaryProvenance.sourceRange = none := by decide
    have distinct : (entryIds [projectedSummary]).Nodup := List.nodup_singleton _
    exact replaceProjection_eq_ok.mpr ⟨ordered, distinct, rfl⟩
  have second : ConversationAccepts replaced (.append repeatedMessage)
      ⟨[repeatedMessage], [projectedSummary, repeatedMessage], some summaryProvenance,
        (∅ : StringMap Nat).insert "a" 0⟩ :=
    entryAppend_eq_ok.mpr ⟨Std.ExtTreeMap.getElem?_empty, rfl⟩
  refine ⟨_, (Run.nil.snoc first).snoc second, rfl, ?_⟩
  have named : ¬ isBlank "q" := by decide
  have repeated : firstRepeated ∅ ["a", "a"] = some "a" := by decide
  exact compactProjection_none_of_repeated named repeated

end Sample

end AgentMod
