import AgentMod.Graph.Sample
import AgentMod.InformationFlow.Decision
import AgentMod.Verified.Scheduler.Occurrences

/-! A flow is allowed exactly within its clearances, a denial names who is responsible, and the order of the
sources does not matter. -/

namespace AgentMod

open InformationFlowClassification

namespace InformationFlowClassification

section Classes

variable {left right middle joined : InformationFlowClassification}

theorem dominatesOrdinary_iff : left.dominatesOrdinary right = true ↔ right.AtMost left := by
  cases left <;> cases right <;> simp [dominatesOrdinary, AtMost, level]

theorem isOrdinary_iff : left.isOrdinary = true ↔ ∃ height, left.level = some height := by
  cases left <;> simp [isOrdinary, level]

theorem level_inj (same : left.level = right.level) (ordinary : left.isOrdinary = true) : left = right := by
  cases left <;> cases right <;> simp_all [level, isOrdinary]

theorem AtMost.refl (ordinary : left.isOrdinary = true) : left.AtMost left := by
  obtain ⟨height, here⟩ := isOrdinary_iff.mp ordinary
  exact ⟨height, here, height, here, le_rfl⟩

theorem AtMost.trans (first : left.AtMost middle) (second : middle.AtMost right) : left.AtMost right := by
  obtain ⟨low, here, between, there, below⟩ := first
  obtain ⟨other, same, high, top, above⟩ := second
  cases there.symm.trans same
  exact ⟨low, here, high, top, below.trans above⟩

theorem AtMost.antisymm (first : left.AtMost right) (second : right.AtMost left) : left = right := by
  obtain ⟨low, here, high, there, below⟩ := first
  obtain ⟨other, same, another, again, above⟩ := second
  cases there.symm.trans same
  cases here.symm.trans again
  exact level_inj (here.trans ((congrArg some (below.antisymm above)).trans there.symm))
    (isOrdinary_iff.mpr ⟨low, here⟩)

theorem joinOrdinary_spec (first : left.isOrdinary = true) (second : right.isOrdinary = true) :
    ∃ joined, left.joinOrdinary right = some joined ∧ (joined = left ∨ joined = right) ∧
      left.AtMost joined ∧ right.AtMost joined := by
  cases left <;> cases right <;> simp_all [joinOrdinary, isOrdinary, AtMost, level]

end Classes

end InformationFlowClassification

section Sources

variable {left right sources : List InformationFlowSource} {start : InformationFlowClassification}

/-- What the classes of some sources join to. -/
structure Joins (start : InformationFlowClassification) (sources : List InformationFlowSource)
    (joined : InformationFlowClassification) : Prop where
  above : start.AtMost joined
  each : ∀ source ∈ sources, source.classification.AtMost joined
  attained : joined = start ∨ ∃ source ∈ sources, source.classification = joined

theorem foldlM_joinSource (ordinary : ∀ source ∈ sources, source.classification.isOrdinary)
    (startOrdinary : start.isOrdinary = true) :
    ∃ joined, sources.foldlM joinSource start = .ok joined ∧ Joins start sources joined := by
  induction sources generalizing start with
  | nil => exact ⟨start, rfl, .refl startOrdinary, fun _ => nofun, .inl rfl⟩
  | cons first rest ih =>
    have firstOrdinary := ordinary first List.mem_cons_self
    obtain ⟨next, joins, either, above, covered⟩ := joinOrdinary_spec startOrdinary firstOrdinary
    have nextOrdinary : next.isOrdinary = true := by
      rcases either with rfl | rfl
      · exact startOrdinary
      · exact firstOrdinary
    obtain ⟨joined, folded, reached⟩ :=
      ih (fun source listed => ordinary source (List.mem_cons_of_mem _ listed)) nextOrdinary
    refine ⟨joined, ?_, above.trans reached.above, ?_, ?_⟩
    · rw [List.foldlM_cons, joinSource, joins]
      exact folded
    · intro source listed
      rcases List.mem_cons.mp listed with rfl | behind
      · exact covered.trans reached.above
      · exact reached.each source behind
    · rcases reached.attained with rfl | ⟨source, listed, same⟩
      · exact either.imp id fun same => ⟨first, List.mem_cons_self, same.symm⟩
      · exact .inr ⟨source, List.mem_cons_of_mem _ listed, same⟩

theorem Joins.unique {joined other : InformationFlowClassification} (first : Joins start sources joined)
    (second : Joins start sources other) : joined = other := by
  have below : ∀ {low high}, Joins start sources low → Joins start sources high → low.AtMost high := by
    intro low high reached bound
    rcases reached.attained with rfl | ⟨source, listed, rfl⟩
    · exact bound.above
    · exact bound.each source listed
  exact (below first second).antisymm (below second first)

theorem Joins.perm {joined : InformationFlowClassification} (joins : Joins start left joined)
    (same : left.Perm right) : Joins start right joined := by
  refine ⟨joins.above, fun source listed => joins.each source (same.mem_iff.mpr listed), ?_⟩
  exact joins.attained.imp_right fun ⟨source, listed, equal⟩ => ⟨source, same.mem_iff.mp listed, equal⟩

instance : Std.TransCmp compareHashes :=
  inferInstanceAs (Std.TransCmp (compareOn ContentHash.toHex))

theorem sortBy_compareHashes {hashes others : List ContentHash} (same : hashes.Perm others) :
    sortBy compareHashes hashes = sortBy compareHashes others :=
  sortBy_eq same fun _ _ _ _ equal => ContentHash.toHex_inj (Std.LawfulEqCmp.eq_of_compare equal)

theorem mem_dedupNeighbours {α : Type} [DecidableEq α] {items : List α} {item : α} :
    item ∈ dedupNeighbours items ↔ item ∈ items := by
  induction items with
  | nil => rfl
  | cons first rest ih =>
    rw [dedupNeighbours]
    split
    · next repeated =>
      have held : first ∈ rest := List.mem_of_mem_head? repeated
      rw [ih, List.mem_cons]
      exact ⟨.inr, fun listed => listed.elim (fun same => same ▸ held) id⟩
    · rw [List.mem_cons, List.mem_cons, ih]

variable [InformationFlowSerde] [Hashing] {envelope : InformationFlowEnvelope} {code : InformationFlowDenialCode}
  {reason : String}

theorem deniedFlowDecision_perm (same : left.Perm right) :
    deniedFlowDecision envelope code reason left = deniedFlowDecision envelope code reason right := by
  rw [deniedFlowDecision, deniedFlowDecision, sortBy_compareHashes (same.map _)]

theorem flowDecision_perm (same : left.Perm right) : flowDecision envelope left = flowDecision envelope right := by
  have chosen : ∀ exceeds : InformationFlowSource → Bool,
      (if left.filter exceeds = [] then left else left.filter exceeds).Perm
        (if right.filter exceeds = [] then right else right.filter exceeds) := by
    intro exceeds
    have filtered := same.filter exceeds
    have empty : left.filter exceeds = [] ↔ right.filter exceeds = [] := by
      rw [← List.length_eq_zero_iff, ← List.length_eq_zero_iff, filtered.length_eq]
    by_cases none : left.filter exceeds = []
    · rw [if_pos none, if_pos (empty.mp none)]
      exact same
    · rw [if_neg none, if_neg (empty.not.mp none)]
      exact filtered
  rw [flowDecision, flowDecision]
  refine ite_congr rfl (fun _ => deniedFlowDecision_perm same) fun _ => ?_
  refine ite_congr rfl (fun _ => deniedFlowDecision_perm (chosen _)) fun _ => ?_
  refine ite_congr rfl (fun _ => deniedFlowDecision_perm (same.filter _)) fun _ => ?_
  exact ite_congr rfl (fun _ => deniedFlowDecision_perm (same.filter _)) fun _ => rfl

theorem evaluateInformationFlow_perm {identity : String} {sink : InformationFlowSink}
    {destination : InformationFlowClassification} (same : left.Perm right) :
    evaluateInformationFlow identity sink destination left =
      evaluateInformationFlow identity sink destination right := by
  have empty : left = [] ↔ right = [] := by
    rw [← List.length_eq_zero_iff, ← List.length_eq_zero_iff, same.length_eq]
  have checked : ∀ check : InformationFlowSource → Bool, left.any check = right.any check := fun check =>
    Bool.eq_iff_iff.mpr (by simp only [List.any_eq_true, same.mem_iff])
  have hashes := sortBy_compareHashes (same.map (·.sourceHash))
  rw [evaluateInformationFlow, evaluateInformationFlow]
  simp only [empty, same.length_eq, checked, hashes, flowDecision_perm same]
  by_cases refused : ¬ validFlowIdentity identity ∨ right = [] ∨ right.length > maxInformationFlowSources ∨
    right.any fun source => !validFlowIdentity source.identity || !source.classification.isOrdinary
  · rw [refuseIf, if_pos refused]
    rfl
  · have ordinary : ∀ source ∈ right, source.classification.isOrdinary := by
      simp only [not_or, List.any_eq_true, not_exists, not_and, Bool.or_eq_true, Bool.not_eq_true'] at refused
      intro source listed
      simpa using (refused.2.2.2 source listed).2
    obtain ⟨joined, folded, joins⟩ := @foldlM_joinSource left .public
      (fun source listed => ordinary source (same.mem_iff.mp listed)) rfl
    obtain ⟨other, foldedRight, joinsRight⟩ := @foldlM_joinSource right .public ordinary rfl
    rw [folded, foldedRight, (joins.perm same).unique joinsRight]

theorem deniedFlowDecision_eq_ok (writes : InformationFlowSerde.Writes) :
    ∃ hashes decisionHash, deniedFlowDecision envelope code reason sources =
        .ok (.denied envelope.envelopeHash code reason hashes decisionHash) ∧
      ∀ hash, hash ∈ hashes ↔ ∃ source ∈ sources, source.sourceHash = hash := by
  obtain ⟨bytes, written⟩ := Option.isSome_iff_exists.mp (writes.denied ⟨"denied", envelope.envelopeHash, code,
    reason, dedupNeighbours (sortBy compareHashes (sources.map (·.sourceHash)))⟩)
  refine ⟨dedupNeighbours (sortBy compareHashes (sources.map (·.sourceHash))),
    Hashing.digest (utf8Bytes "agentmod.information-flow.decision@1\x00".toList ++ bytes), ?_, fun hash => ?_⟩
  · rw [deniedFlowDecision, hashFlowMaterial, written]
    rfl
  · rw [mem_dedupNeighbours, (sortBy_perm).mem_iff, List.mem_map]

section Denials

variable {sink : InformationFlowSink} {destination : InformationFlowClassification} {offending : List ContentHash}

omit [InformationFlowSerde] [Hashing] in
theorem denies_of_filter {exceeds : InformationFlowSource → Bool}
    (exceeding : ∀ source, exceeds source = true ↔ source.Exceeds sink destination code)
    (some_ : ∃ source ∈ sources, source.Exceeds sink destination code)
    (names : ∀ hash, hash ∈ offending ↔ ∃ source ∈ sources.filter exceeds, source.sourceHash = hash) :
    Denies sink destination sources code offending := by
  have exactly : ∀ hash, hash ∈ offending ↔
      ∃ source ∈ sources, source.Exceeds sink destination code ∧ source.sourceHash = hash := by
    intro hash
    simp only [names, List.mem_filter, exceeding, and_assoc]
  refine ⟨.inl some_, ?_, ?_, fun _ => exactly⟩
  · obtain ⟨source, listed, exceeds⟩ := some_
    exact List.ne_nil_of_mem ((exactly _).mpr ⟨source, listed, exceeds, rfl⟩)
  · intro hash listed
    obtain ⟨source, inSources, _, same⟩ := (exactly hash).mp listed
    exact ⟨source, inSources, same⟩

omit [InformationFlowSerde] [Hashing] in
theorem denies_of_all (filled : sources ≠ [])
    (violated : code = .invalidDestinationClassification ∧ destination.isOrdinary = false ∨
      code = .sinkClearanceExceeded ∧ ¬ destination.AtMost sink.maximumClassification)
    (none : ¬ ∃ source ∈ sources, source.Exceeds sink destination code)
    (names : ∀ hash, hash ∈ offending ↔ ∃ source ∈ sources, source.sourceHash = hash) :
    Denies sink destination sources code offending := by
  refine ⟨.inr violated, ?_, fun hash listed => (names hash).mp listed, fun exceeds => absurd exceeds none⟩
  obtain ⟨source, listed⟩ := List.exists_mem_of_ne_nil sources filled
  exact List.ne_nil_of_mem ((names _).mpr ⟨source, listed, rfl⟩)

omit [InformationFlowSerde] [Hashing] in
theorem Denies.not_permitted (denies : Denies sink destination sources code offending) :
    ¬ Permitted sink destination sources := by
  intro permitted
  rcases denies.violated with ⟨source, listed, exceeds⟩ | ⟨_, extraordinary⟩ | ⟨_, above⟩
  · cases code with
    | invalidDestinationClassification => exact exceeds
    | sinkClearanceExceeded => exact exceeds ((permitted.rising source listed).trans permitted.cleared)
    | declassificationProhibited => exact exceeds (permitted.rising source listed)
    | secretReferenceProhibited => exact exceeds.2 (permitted.references ⟨source, listed, exceeds.1⟩)
  · obtain ⟨low, here, _⟩ := permitted.cleared
    have ordinary := isOrdinary_iff.mpr ⟨low, here⟩
    rw [extraordinary] at ordinary
    exact Bool.noConfusion ordinary
  · exact above permitted.cleared

omit [InformationFlowSerde] [Hashing] in
theorem Joins.atMost_iff {joined bound : InformationFlowClassification} (joins : Joins .public sources joined)
    (filled : sources ≠ []) :
    joined.AtMost bound ↔ ∀ source ∈ sources, source.classification.AtMost bound := by
  refine ⟨fun below source listed => (joins.each source listed).trans below, fun each => ?_⟩
  rcases joins.attained with rfl | ⟨source, listed, rfl⟩
  · obtain ⟨source, listed⟩ := List.exists_mem_of_ne_nil sources filled
    have least : InformationFlowClassification.public.AtMost source.classification := by
      obtain ⟨height, here, _⟩ := joins.each source listed
      exact ⟨0, rfl, height, here, Nat.zero_le _⟩
    exact least.trans (each source listed)
  · exact each source listed

/-- A flow within its clearances is allowed, and any other one is denied. -/
theorem flowDecision_spec (writes : InformationFlowSerde.Writes) (filled : sources ≠ [])
    (joins : Joins .public sources envelope.joinedClassification)
    (references : envelope.containsSecretReferences = sources.any (·.secretReference)) :
    ∃ decision, flowDecision envelope sources = .ok decision ∧
      ((∃ decisionHash, decision = .allowed envelope.envelopeHash decisionHash) ∧
          Permitted envelope.sink envelope.destinationClassification sources ∨
        ∃ code reason offending decisionHash,
          decision = .denied envelope.envelopeHash code reason offending decisionHash ∧
            Denies envelope.sink envelope.destinationClassification sources code offending) := by
  have exceeding : ∀ (bound : InformationFlowClassification) (source : InformationFlowSource),
      (!bound.dominatesOrdinary source.classification) = true ↔ ¬ source.classification.AtMost bound := by
    intro bound source
    rw [← dominatesOrdinary_iff, Bool.not_eq_true', Bool.not_eq_true]
  have above : ∀ bound : InformationFlowClassification, ¬ envelope.joinedClassification.AtMost bound ↔
      ∃ source ∈ sources, ¬ source.classification.AtMost bound := by
    intro bound
    rw [joins.atMost_iff filled]
    simp
  rw [flowDecision]
  split
  · next extraordinary =>
    obtain ⟨hashes, decisionHash, denied, names⟩ := @deniedFlowDecision_eq_ok sources _ _ envelope
      .invalidDestinationClassification "destination classification is not an ordinary v1 class" writes
    refine ⟨_, denied, .inr ⟨_, _, _, _, rfl, denies_of_all filled (.inl ⟨rfl, ?_⟩) ?_ names⟩⟩
    · simpa using extraordinary
    · rintro ⟨_, _, exceeds⟩
      exact exceeds
  · split
    · next cleared =>
      rw [dominatesOrdinary_iff, dominatesOrdinary_iff, above] at cleared
      set offending := sources.filter fun source =>
        !envelope.sink.maximumClassification.dominatesOrdinary source.classification with chosen
      obtain ⟨hashes, decisionHash, denied, names⟩ := @deniedFlowDecision_eq_ok
        (if offending = [] then sources else offending) _ _ envelope .sinkClearanceExceeded
        "source or destination exceeds the bounded sink clearance" writes
      refine ⟨_, denied, .inr ⟨_, _, _, _, rfl, ?_⟩⟩
      by_cases some_ : ∃ source ∈ sources, ¬ source.classification.AtMost envelope.sink.maximumClassification
      · have some' : offending ≠ [] := by
          obtain ⟨source, listed, exceeds⟩ := some_
          exact List.ne_nil_of_mem (List.mem_filter.mpr ⟨listed, (exceeding _ source).mpr exceeds⟩)
        rw [if_neg some'] at names
        exact denies_of_filter (exceeding _) some_ names
      · have none : offending = [] := by
          rw [chosen, List.filter_eq_nil_iff]
          exact fun source listed exceeds => some_ ⟨source, listed, (exceeding _ source).mp exceeds⟩
        rw [if_pos none] at names
        exact denies_of_all filled (.inr ⟨rfl, cleared.resolve_right some_⟩) some_ names
    · next cleared =>
      rw [dominatesOrdinary_iff, dominatesOrdinary_iff, not_or, not_not, not_not] at cleared
      split
      · next weakened =>
        rw [dominatesOrdinary_iff, above] at weakened
        obtain ⟨hashes, decisionHash, denied, names⟩ := @deniedFlowDecision_eq_ok
          (sources.filter fun source => !envelope.destinationClassification.dominatesOrdinary source.classification)
          _ _ envelope .declassificationProhibited "destination classification does not dominate every source" writes
        exact ⟨_, denied, .inr ⟨_, _, _, _, rfl, denies_of_filter (exceeding _) weakened names⟩⟩
      · next strong =>
        rw [dominatesOrdinary_iff, not_not, joins.atMost_iff filled] at strong
        rw [references]
        split
        · next secrets =>
          obtain ⟨hashes, decisionHash, denied, names⟩ := @deniedFlowDecision_eq_ok
            (sources.filter (·.secretReference)) _ _ envelope .secretReferenceProhibited
            "sink does not admit secret-reference capabilities" writes
          obtain ⟨source, listed, secret⟩ := List.any_eq_true.mp secrets.1
          refine ⟨_, denied, .inr ⟨_, _, _, _, rfl, denies_of_filter (fun source => ?_)
            ⟨source, listed, secret, secrets.2⟩ names⟩⟩
          exact (and_iff_left secrets.2).symm
        · next admitted =>
          obtain ⟨bytes, written⟩ := Option.isSome_iff_exists.mp (writes.allowed ⟨"allowed", envelope.envelopeHash⟩)
          refine ⟨.allowed envelope.envelopeHash
            (Hashing.digest (utf8Bytes "agentmod.information-flow.decision@1\x00".toList ++ bytes)), ?_,
            .inl ⟨⟨_, rfl⟩, strong, cleared.1, fun secret => ?_⟩⟩
          · rw [hashFlowMaterial, written]
            rfl
          · by_contra refused
            exact admitted ⟨List.any_eq_true.mpr secret, refused⟩

end Denials

end Sources

/-- An admissible flow is allowed exactly when it is permitted, its class is the highest of its sources, a denial
names exactly who is responsible, and nothing depends on the order of the sources. -/
theorem information_flow_decided [InformationFlowSerde] [Hashing] (writes : InformationFlowSerde.Writes)
    (identity : String) (sink : InformationFlowSink) (destination : InformationFlowClassification)
    (sources : List InformationFlowSource) (admissible : AdmissibleSources identity sources) :
    (∃ envelope decision,
      evaluateInformationFlow identity sink destination sources = .ok (envelope, decision) ∧
      ((∃ decisionHash, decision = .allowed envelope.envelopeHash decisionHash) ↔
        Permitted sink destination sources) ∧
      ((∃ source ∈ sources, source.classification = envelope.joinedClassification) ∧
        ∀ source ∈ sources, source.classification.AtMost envelope.joinedClassification) ∧
      ∀ envelopeHash code reason offending decisionHash,
        decision = .denied envelopeHash code reason offending decisionHash →
          Denies sink destination sources code offending) ∧
    ∀ others, sources.Perm others →
      evaluateInformationFlow identity sink destination others =
        evaluateInformationFlow identity sink destination sources := by
  refine ⟨?_, fun others same => (evaluateInformationFlow_perm same).symm⟩
  obtain ⟨joined, folded, joins⟩ := @foldlM_joinSource sources .public admissible.ordinary rfl
  have passes : ¬ (¬ validFlowIdentity identity ∨ sources = [] ∨ sources.length > maxInformationFlowSources ∨
      sources.any fun source => !validFlowIdentity source.identity || !source.classification.isOrdinary) := by
    simp only [not_or, not_not, List.any_eq_true, not_exists, not_and, Bool.or_eq_true, Bool.not_eq_true', not_lt,
      gt_iff_lt, Bool.not_eq_false]
    exact ⟨admissible.named, admissible.filled, admissible.bounded, fun source listed =>
      ⟨admissible.wellNamed source listed, admissible.ordinary source listed⟩⟩
  have distinct : (sortBy compareHashes (sources.map (·.sourceHash))).Nodup :=
    sortBy_perm.nodup_iff.mpr admissible.distinct
  obtain ⟨bytes, written⟩ := Option.isSome_iff_exists.mp (writes.envelope ⟨identity, sink, destination, joined,
    sources.any (·.secretReference), sortBy compareHashes (sources.map (·.sourceHash))⟩)
  have hashed : hashFlowMaterial "agentmod.information-flow.envelope@1\x00" (InformationFlowSerde.envelopeToVec
      ⟨identity, sink, destination, joined, sources.any (·.secretReference),
        sortBy compareHashes (sources.map (·.sourceHash))⟩) =
      .ok (Hashing.digest (utf8Bytes "agentmod.information-flow.envelope@1\x00".toList ++ bytes)) := by
    rw [hashFlowMaterial, written]
    rfl
  let envelope : InformationFlowEnvelope := ⟨identity, sink, destination, joined, sources.any (·.secretReference),
    sortBy compareHashes (sources.map (·.sourceHash)),
    Hashing.digest (utf8Bytes "agentmod.information-flow.envelope@1\x00".toList ++ bytes)⟩
  obtain ⟨decision, decides, outcome⟩ := @flowDecision_spec sources _ _ envelope writes admissible.filled joins rfl
  refine ⟨envelope, decision, ?_, ?_, ⟨?_, joins.each⟩, ?_⟩
  · rw [evaluateInformationFlow]
    exact bind_eq_ok.mpr ⟨(), refuseIf_eq_ok.mpr passes, bind_eq_ok.mpr ⟨joined, folded, bind_eq_ok.mpr ⟨(),
      refuseIf_eq_ok.mpr (not_not.mpr distinct), bind_eq_ok.mpr ⟨_, hashed, bind_eq_ok.mpr ⟨decision, decides, rfl⟩⟩⟩⟩⟩
  · rcases outcome with ⟨allowed, permitted⟩ | ⟨code, reason, offending, decisionHash, rfl, denies⟩
    · exact iff_of_true allowed permitted
    · refine iff_of_false ?_ denies.not_permitted
      rintro ⟨_, same⟩
      cases same
  · rcases joins.attained with rfl | attained
    · obtain ⟨source, listed⟩ := List.exists_mem_of_ne_nil sources admissible.filled
      have least : InformationFlowClassification.public.AtMost source.classification := by
        obtain ⟨height, here, _⟩ := joins.each source listed
        exact ⟨0, rfl, height, here, Nat.zero_le _⟩
      exact ⟨source, listed, (joins.each source listed).antisymm least⟩
    · exact attained
  · rintro envelopeHash code reason offending decisionHash rfl
    rcases outcome with ⟨⟨_, allowed⟩, _⟩ | ⟨_, _, _, _, same, denies⟩
    · cases allowed
    · cases same
      exact denies

section Sample

/-- A stand-in serializer, which writes the texts of the materials. -/
abbrev plainFlows : InformationFlowSerde where
  sourceToVec material := some (utf8Bytes material.identity.toList)
  envelopeToVec material := some (utf8Bytes material.identity.toList)
  allowedToVec material := some (utf8Bytes material.decision.toList)
  deniedToVec material := some (utf8Bytes material.reason.toList)

attribute [local instance] plainFlows prefixHash

/-- A source of the sample, with some class. -/
def flowSource (identity : String) (classification : InformationFlowClassification) : InformationFlowSource :=
  ⟨identity, classification, false, Hashing.digest [], Hashing.digest (utf8Bytes identity.toList)⟩

/-- A public and a private source. -/
def flowSources : List InformationFlowSource := [flowSource "notes" .public, flowSource "mail" .private]

instance distinct_flowSources : Fact (flowSources.map (·.sourceHash)).Nodup where
  out := by decide +kernel

/-- Private mail may be projected to a model, and in either order of the sources. -/
theorem information_flow_decided_sample :
    (∃ envelope decisionHash, evaluateInformationFlow "turn" .modelProjection .private flowSources =
      .ok (envelope, .allowed envelope.envelopeHash decisionHash)) ∧
    evaluateInformationFlow "turn" .modelProjection .private flowSources.reverse =
      evaluateInformationFlow "turn" .modelProjection .private flowSources := by
  have writes : InformationFlowSerde.Writes := ⟨fun _ => rfl, fun _ => rfl, fun _ => rfl⟩
  have admissible : AdmissibleSources "turn" flowSources :=
    ⟨by decide +kernel, by decide, by decide, by decide +kernel, by decide, distinct_flowSources.out⟩
  obtain ⟨⟨envelope, decision, evaluated, allowed, _⟩, ordered⟩ :=
    information_flow_decided writes "turn" .modelProjection .private flowSources admissible
  have permitted : Permitted .modelProjection .private flowSources := by
    refine ⟨?_, ⟨2, rfl, 3, rfl, by decide⟩, ?_⟩
    · rintro source listed
      rcases List.mem_pair.mp listed with rfl | rfl
      · exact ⟨0, rfl, 2, rfl, by decide⟩
      · exact ⟨2, rfl, 2, rfl, by decide⟩
    · rintro ⟨source, listed, secret⟩
      rcases List.mem_pair.mp listed with rfl | rfl <;> cases secret
  obtain ⟨decisionHash, rfl⟩ := allowed.mpr permitted
  exact ⟨⟨envelope, decisionHash, evaluated⟩, ordered _ (List.reverse_perm _).symm⟩

end Sample

end AgentMod
