import AgentMod.Verified.Pipeline.Constraints

/-! The execution order of valid declarations: always the least available handler comes next, and
the handlers that are never available lie on a cycle or behind one. -/

namespace AgentMod

section Ready

variable {specifications : List OrderingSpec}

/-- The specifications of uniquely identified handlers, by identifier. -/
def specificationsById (specifications : List OrderingSpec) : StringMap OrderingSpec :=
  .ofList (specifications.map fun specification => (specification.handler, specification))

theorem getElem?_specificationsById
    (unique : (specifications.map OrderingSpec.handler).Nodup) {handler : HandlerId}
    {specification : OrderingSpec} :
    (specificationsById specifications)[handler]? = some specification ↔
      specification ∈ specifications ∧ specification.handler = handler := by
  have distinct : ((specifications.map fun specification =>
      (specification.handler, specification)).map Prod.fst).Nodup := by
    simpa [List.map_map, Function.comp_def] using unique
  rw [specificationsById, StringMap.getElem?_ofList distinct, List.mem_map]
  constructor
  · rintro ⟨_, member, same⟩
    cases same
    exact ⟨member, rfl⟩
  · rintro ⟨member, rfl⟩
    exact ⟨specification, member, rfl⟩

/-- A set of keys holds those of the registered handlers with a property. -/
def ReadyKeys (specifications : List OrderingSpec) (ready : Std.ExtTreeSet ReadyKey)
    (isReady : HandlerId → Prop) : Prop :=
  ∀ key, key ∈ ready ↔ ∃ specification ∈ specifications,
    isReady specification.handler ∧ readyKey specification = key

theorem ReadyKeys.makeReady {ready : Std.ExtTreeSet ReadyKey} {isReady : HandlerId → Prop}
    (keys : ReadyKeys specifications ready isReady)
    (unique : (specifications.map OrderingSpec.handler).Nodup) (handler : HandlerId) :
    ReadyKeys specifications (makeReady (specificationsById specifications) ready handler)
      fun other => isReady other ∨ other = handler := by
  intro key
  unfold AgentMod.makeReady
  split
  · next absent =>
    -- An unregistered handler has no key.
    rw [keys key]
    refine exists_congr fun specification => and_congr_right fun member => and_congr_left fun _ => ?_
    refine (or_iff_left ?_).symm
    rintro rfl
    have found := (getElem?_specificationsById unique).mpr ⟨member, rfl⟩
    rw [absent] at found
    cases found
  · next specification found =>
    obtain ⟨member, rfl⟩ := (getElem?_specificationsById unique).mp found
    rw [Std.ExtTreeSet.mem_insert, Std.LawfulEqCmp.compare_eq_iff_eq, keys key]
    constructor
    · rintro (rfl | ⟨other, there, ready, same⟩)
      · exact ⟨specification, member, .inr rfl, rfl⟩
      · exact ⟨other, there, .inl ready, same⟩
    · rintro ⟨other, there, ready | same, rfl⟩
      · exact .inr ⟨other, there, ready, rfl⟩
      · exact .inl (congrArg readyKey (List.inj_on_of_nodup_map unique member there same.symm))

theorem ReadyKeys.congr {ready : Std.ExtTreeSet ReadyKey} {first second : HandlerId → Prop}
    (keys : ReadyKeys specifications ready first) (same : ∀ handler, first handler ↔ second handler) :
    ReadyKeys specifications ready second := by
  intro key
  simp only [keys key, same]

end Ready

section Take

variable {specifications : List OrderingSpec} {state : OrderState} {counted : Kahn.State HandlerId}

/-- An order state tracks a state of the counting loop. -/
structure Tracks (specifications : List OrderingSpec) (state : OrderState)
    (counted : Kahn.State HandlerId) : Prop where
  incoming : state.incoming = counted.incoming
  ready : ReadyKeys specifications state.ready (· ∈ counted.ready)

theorem Tracks.release (tracks : Tracks specifications state counted)
    (unique : (specifications.map OrderingSpec.handler).Nodup) {target : HandlerId}
    {next : Kahn.State HandlerId}
    (released : Kahn.release (ε := CompileError) counted target = .ok next) :
    ∃ after, releaseTarget (specificationsById specifications) state target = .ok after ∧
      Tracks specifications after next ∧ after.handlers = state.handlers := by
  unfold Kahn.release at released
  unfold releaseTarget
  rw [tracks.incoming]
  split at released
  · cases released
  · cases released
  · next edges found =>
    cases released
    rw [found]
    refine ⟨_, rfl, ⟨rfl, ?_⟩, rfl⟩
    show ReadyKeys _ _ _
    by_cases last : edges = 0
    · simp only [last, if_true]
      refine (tracks.ready.makeReady unique target).congr fun handler => ?_
      rw [Std.ExtTreeSet.mem_insert, Std.LawfulEqCmp.compare_eq_iff_eq, or_comm, @eq_comm _ target]
    · simpa only [last, if_false] using tracks.ready

theorem Tracks.releases {targets : List HandlerId} (tracks : Tracks specifications state counted)
    (unique : (specifications.map OrderingSpec.handler).Nodup) {next : Kahn.State HandlerId}
    (released : targets.foldlM (Kahn.release (ε := CompileError)) counted = .ok next) :
    ∃ after, targets.foldlM (releaseTarget (specificationsById specifications)) state = .ok after ∧
      Tracks specifications after next ∧ after.handlers = state.handlers := by
  induction targets generalizing state counted with
  | nil =>
    cases released
    exact ⟨state, rfl, tracks, rfl⟩
  | cons target rest ih =>
    rw [List.foldlM_cons, bind_eq_ok] at released
    obtain ⟨between, first, later⟩ := released
    obtain ⟨reached, returned, tracked, same⟩ := tracks.release unique first
    obtain ⟨after, continued, final, kept⟩ := ih tracked later
    refine ⟨after, ?_, final, kept.trans same⟩
    rw [List.foldlM_cons, returned]
    exact continued

end Take

/-- Declarations whose diagnostics are empty: unique identifiers, and targets that exist. -/
structure Declared (specifications : List OrderingSpec) : Prop where
  unique : (specifications.map OrderingSpec.handler).Nodup
  exist : ∀ specification ∈ specifications, ∀ relation,
    ∀ handler ∈ specification.named relation, Registered specifications handler

/-- The graph of all declared constraints. -/
def declaredGraph (specifications : List OrderingSpec) : OrderingGraph :=
  orderingGraph (knownHandlers specifications) specifications

section Declared

variable {specifications : List OrderingSpec} (declared : Declared specifications)
include declared

theorem Declared.constrains {source target : HandlerId}
    (constrains : Constrains specifications source target) :
    Registered specifications source ∧ Registered specifications target := by
  obtain ⟨specification, member, ⟨rfl, listed⟩ | ⟨rfl, listed⟩⟩ := constrains
  · exact ⟨⟨specification, member, rfl⟩, declared.exist specification member .before target listed⟩
  · exact ⟨declared.exist specification member .after source listed, ⟨specification, member, rfl⟩⟩

theorem Declared.holds : Holds (knownHandlers specifications).toList
    (specifications.flatMap OrderingSpec.constraints) (declaredGraph specifications) :=
  holds_orderingGraph fun _ _ constrains =>
    (declared.constrains constrains).imp mem_knownHandlers.mpr mem_knownHandlers.mpr

theorem Declared.mem_targets {source target : HandlerId} :
    target ∈ (declaredGraph specifications).targets source ↔
      Constrains specifications source target := by
  rw [OrderingGraph.targets, Std.ExtTreeSet.mem_toList, declared.holds.targets, mem_constraints,
    Std.ExtTreeSet.mem_toList, mem_knownHandlers, and_iff_right_iff_imp]
  exact fun constrains => (declared.constrains constrains).1

theorem Declared.edge : Kahn.Edge (declaredGraph specifications).targets
    (knownHandlers specifications).toList = Constrains specifications := by
  funext source target
  rw [Kahn.Edge, declared.mem_targets, Std.ExtTreeSet.mem_toList, mem_knownHandlers, eq_iff_iff,
    and_iff_right_iff_imp]
  exact fun constrains => (declared.constrains constrains).1

theorem Declared.targets (source : HandlerId) :
    ((declaredGraph specifications).targets source).Nodup ∧
      (declaredGraph specifications).targets source ⊆ (knownHandlers specifications).toList := by
  refine ⟨StringSet.nodup_toList, fun target listed => ?_⟩
  rw [Std.ExtTreeSet.mem_toList, mem_knownHandlers]
  exact (declared.constrains (declared.mem_targets.mp listed)).2

omit declared

/-- Every handler of an order was the least available one when it was taken. -/
def Greedy (specifications : List OrderingSpec) (order : List HandlerId) : Prop :=
  ∀ earlier handler later, order = earlier ++ handler :: later →
    ∃ specification, specification.handler = handler ∧
      Available specifications earlier specification ∧
      ∀ other, Available specifications earlier other →
        (compare (readyKey specification) (readyKey other)).isLE

theorem Greedy.snoc {order : List HandlerId} (greedy : Greedy specifications order)
    {specification : OrderingSpec} (available : Available specifications order specification)
    (least : ∀ other, Available specifications order other →
      (compare (readyKey specification) (readyKey other)).isLE) :
    Greedy specifications (order ++ [specification.handler]) := by
  intro earlier handler later same
  rcases List.eq_nil_or_concat later with rfl | ⟨init, last, rfl⟩
  · obtain ⟨rfl, ends⟩ := List.append_inj' same rfl
    cases ends
    exact ⟨specification, rfl, available, least⟩
  · rw [List.concat_eq_append, ← List.cons_append, ← List.append_assoc] at same
    exact greedy earlier handler init (List.append_inj' same rfl).1

theorem Greedy.respects {order : List HandlerId} (greedy : Greedy specifications order) :
    order.Pairwise fun first second => ¬ Constrains specifications second first := by
  induction order using List.reverseRecOn with
  | nil => exact .nil
  | append_singleton init last ih =>
    have before : Greedy specifications init := fun earlier handler later same =>
      greedy earlier handler (later ++ [last]) (by rw [same, List.append_assoc, List.cons_append])
    obtain ⟨_, rfl, available, _⟩ := greedy init last [] rfl
    refine List.pairwise_append.mpr ⟨ih before, List.pairwise_singleton _ _, ?_⟩
    intro handler listed last isLast constrains
    -- Whatever precedes a handler was taken before it.
    obtain ⟨earlier, later, rfl⟩ := List.append_of_mem listed
    obtain ⟨_, rfl, first, _⟩ := before earlier handler later rfl
    rw [List.mem_singleton] at isLast
    subst isLast
    exact available.waiting (List.mem_append_left _ (first.preceded _ constrains))

/-- What holds between two iterations, for the taken and the remaining handlers. -/
structure Taking (specifications : List OrderingSpec) (done remaining : List HandlerId)
    (counted : Kahn.State HandlerId) (state : OrderState) : Prop where
  invariant : Kahn.Invariant (declaredGraph specifications).targets
    (knownHandlers specifications).toList done remaining counted
  tracks : Tracks specifications state counted
  handlers : state.handlers = done.reverse
  greedy : Greedy specifications state.handlers

variable {done remaining : List HandlerId} {counted : Kahn.State HandlerId} {state : OrderState}

include declared

theorem Declared.available (taking : Taking specifications done remaining counted state)
    {specification : OrderingSpec} : Available specifications state.handlers specification ↔
      specification ∈ specifications ∧ specification.handler ∈ counted.ready := by
  rw [taking.invariant.mem_ready StringSet.nodup_toList, declared.edge]
  have listed : specification ∈ specifications →
      specification.handler ∈ done ++ remaining := fun member =>
    taking.invariant.split.symm.subset (Std.ExtTreeSet.mem_toList.mpr
      (mem_knownHandlers.mpr ⟨specification, member, rfl⟩))
  have apart := (List.nodup_append.mp
    (taking.invariant.split.nodup_iff.mpr StringSet.nodup_toList)).2.2
  have same : ∀ handler, handler ∈ state.handlers ↔ handler ∈ done := by simp [taking.handlers]
  constructor
  · rintro ⟨member, waiting, preceded⟩
    rw [same] at waiting
    exact ⟨member, (List.mem_append.mp (listed member)).resolve_left waiting,
      fun source constrains => (same source).mp (preceded source constrains)⟩
  · rintro ⟨member, there, preceded⟩
    exact ⟨member, fun taken => apart _ ((same _).mp taken) _ there rfl,
      fun source constrains => (same source).mpr (preceded source constrains)⟩

/-- Taking the first ready handler keeps what holds. -/
theorem Declared.take (taking : Taking specifications done remaining counted state)
    {next : ReadyKey} (first : state.ready.min? = some next) :
    next.handler ∈ remaining ∧ ∃ after later,
      ((declaredGraph specifications).targets next.handler).foldlM
        (releaseTarget (specificationsById specifications))
        { state with ready := state.ready.erase next, handlers := state.handlers ++ [next.handler] } =
          .ok after ∧
      Taking specifications (next.handler :: done) (remaining.erase next.handler) later after := by
  obtain ⟨member, least⟩ := Std.ExtTreeSet.min?_eq_some_iff_mem_and_forall.mp first
  obtain ⟨specification, registered, ready, rfl⟩ := (taking.tracks.ready next).mp member
  obtain ⟨later, returned, kept⟩ := taking.invariant.step (ε := CompileError)
    StringSet.nodup_toList (fun source _ => declared.targets source) ready
  refine ⟨((taking.invariant.mem_ready StringSet.nodup_toList).mp ready).1, ?_⟩
  have erased : Tracks specifications
      { state with
        ready := state.ready.erase (readyKey specification)
        handlers := state.handlers ++ [specification.handler] }
      { counted with
        ready := counted.ready.erase specification.handler
        processed := counted.processed + 1 } := by
    refine ⟨taking.tracks.incoming, fun key => ?_⟩
    -- The key of a handler holds its identifier.
    simp only [Std.ExtTreeSet.mem_erase, ne_eq, Std.LawfulEqCmp.compare_eq_iff_eq,
      taking.tracks.ready key]
    constructor
    · rintro ⟨apart, other, there, isReady, rfl⟩
      refine ⟨other, there, ⟨fun same => apart ?_, isReady⟩, rfl⟩
      exact congrArg readyKey (List.inj_on_of_nodup_map declared.unique registered there same)
    · rintro ⟨other, there, ⟨apart, isReady⟩, rfl⟩
      exact ⟨fun same => apart (congrArg ReadyKey.handler same), other, there, isReady, rfl⟩
  obtain ⟨after, continued, tracked, same⟩ := erased.releases declared.unique returned
  refine ⟨after, later, continued, kept, tracked, ?_, ?_⟩
  · rw [same, List.reverse_cons, ← taking.handlers]
    rfl
  · rw [same]
    refine taking.greedy.snoc ((declared.available taking).mpr ⟨registered, ready⟩)
      fun other available => ?_
    obtain ⟨there, isReady⟩ := (declared.available taking).mp available
    exact least _ ((taking.tracks.ready _).mpr ⟨other, there, isReady, rfl⟩)

theorem Declared.takes {fuel : Nat} (taking : Taking specifications done remaining counted state)
    (enough : remaining.length < fuel) : ∃ after done remaining counted,
      takeReady (specificationsById specifications) (declaredGraph specifications) fuel state =
        .ok after ∧
      Taking specifications done remaining counted after ∧ ∀ handler, handler ∉ counted.ready := by
  induction fuel generalizing done remaining counted state with
  | zero => omega
  | succ fuel ih =>
    unfold takeReady
    cases first : state.ready.min? with
    | some next =>
      obtain ⟨member, after, later, released, kept⟩ := declared.take taking first
      have fewer := List.length_erase_of_mem member
      have some := List.length_pos_of_mem member
      simp only [released, Except.bind, bind]
      exact ih kept (by omega)
    | none =>
      refine ⟨state, done, remaining, counted, rfl, taking, fun handler ready => ?_⟩
      have there := ((taking.invariant.mem_ready StringSet.nodup_toList).mp ready).1
      have known := taking.invariant.split.subset (List.mem_append_right done there)
      obtain ⟨specification, registered, rfl⟩ :=
        mem_knownHandlers.mp (Std.ExtTreeSet.mem_toList.mp known)
      have listed := (taking.tracks.ready _).mpr ⟨specification, registered, ready, rfl⟩
      rw [Std.ExtTreeSet.min?_eq_none_iff.mp first] at listed
      exact Std.ExtTreeSet.not_mem_empty listed

omit declared in
theorem readyKeys_fold (entries : List (HandlerId × Nat)) (isReady : HandlerId → Prop)
    (ready : Std.ExtTreeSet ReadyKey) (unique : (specifications.map OrderingSpec.handler).Nodup)
    (keys : ReadyKeys specifications ready isReady) :
    ReadyKeys specifications (entries.foldl (fun ready entry =>
      makeReady (specificationsById specifications) ready entry.1) ready)
      fun handler => isReady handler ∨ handler ∈ entries.map Prod.fst := by
  induction entries generalizing ready isReady with
  | nil => simpa using keys
  | cons entry rest ih =>
    refine (ih _ _ (keys.makeReady unique entry.1)).congr fun handler => ?_
    rw [List.map_cons, List.mem_cons, or_assoc]

/-- What holds before the first iteration. -/
theorem Declared.taking : ∃ ready, Taking specifications [] (knownHandlers specifications).toList
    ⟨(declaredGraph specifications).incoming, ready, 0⟩
    ⟨(declaredGraph specifications).incoming,
      ((declaredGraph specifications).incoming.toList.filter fun entry => entry.2 == 0).foldl
        (fun ready entry => makeReady (specificationsById specifications) ready entry.1) ∅, []⟩ := by
  let graph := declaredGraph specifications
  let listed := graph.incoming.toList.filter fun entry => entry.2 == 0
  have counts : Kahn.Counts (knownHandlers specifications).toList graph.incoming fun target =>
      (knownHandlers specifications).toList.countP fun source => target ∈ graph.targets source := by
    have same : ∀ source target, target ∈ graph.targets source ↔
        (source, target) ∈ specifications.flatMap OrderingSpec.constraints := fun source target =>
      declared.mem_targets.trans mem_constraints.symm
    simpa only [same] using declared.holds.counts
  have zero : ∀ handler, handler ∈ listed.map Prod.fst ↔ graph.incoming[handler]? = some 0 := by
    intro handler
    simp [listed]
  refine ⟨.ofList (listed.map Prod.fst), ⟨?_, counts, fun handler => ?_, rfl, ?_, ?_⟩, ⟨rfl, ?_⟩, rfl,
    fun earlier handler later same => ?_⟩
  · simp
  · rw [Std.ExtTreeSet.mem_ofList, List.contains_iff_mem, zero]
    refine ⟨fun found => ⟨?_, found⟩, And.right⟩
    have := counts handler
    rw [found] at this
    by_contra absent
    rw [if_neg absent] at this
    cases this
  · simp
  · simp
  · refine (readyKeys_fold listed (fun _ => False) ∅ declared.unique (by simp [ReadyKeys])).congr
      fun handler => ?_
    rw [false_or, Std.ExtTreeSet.mem_ofList, List.contains_iff_mem]
  · simp at same

omit declared in
theorem findCycle_of_closes {graph : OrderingGraph} {unresolved : StringSet} {path : List HandlerId}
    (closes : unresolved.toList.foldlM (Search.visit
      (fun handler => (graph.targets handler).filter fun target => unresolved.contains target)
      (unresolved.toList.length + 1) []) [] = reject path) :
    findCycle graph unresolved = .ok path := by
  unfold findCycle
  simp only [closes]
  rfl

/-- A handler that still waits when no other is ready lies on a cycle or behind one. -/
theorem Declared.findCycle_eq_ok (taking : Taking specifications done remaining counted state)
    (none : ∀ handler, handler ∉ counted.ready) (some : remaining ≠ []) : ∃ path,
      findCycle (declaredGraph specifications) (.ofList
        ((state.incoming.toList.filter fun entry => entry.2 > 0).map Prod.fst)) = .ok path ∧
      ClosedCycle specifications path := by
  let unresolved : StringSet :=
    .ofList ((state.incoming.toList.filter fun entry => entry.2 > 0).map Prod.fst)
  have member : ∀ handler, handler ∈ unresolved.toList ↔ handler ∈ remaining := by
    intro handler
    rw [taking.invariant.mem_remaining StringSet.nodup_toList none, ← taking.tracks.incoming]
    simp [unresolved]
  let targets (handler : HandlerId) : List HandlerId :=
    ((declaredGraph specifications).targets handler).filter fun target => unresolved.contains target
  have mem : ∀ source target, target ∈ targets source ↔
      Constrains specifications source target ∧ target ∈ remaining := by
    intro source target
    rw [List.mem_filter, declared.mem_targets, Std.ExtTreeSet.contains_iff_mem,
      ← Std.ExtTreeSet.mem_toList, member]
  have known : ∀ source ∈ unresolved.toList, targets source ⊆ unresolved.toList :=
    fun source _ target listed => (member target).mpr ((mem source target).mp listed).2
  have nonempty : unresolved.toList ≠ [] := by
    obtain ⟨handler, there⟩ := List.exists_mem_of_ne_nil remaining some
    exact List.ne_nil_of_mem ((member handler).mpr there)
  obtain ⟨path, closes, first, rest, rfl, cycle⟩ := Search.search_closes known nonempty
    (fun target there => by
      obtain ⟨source, waiting, edge⟩ := taking.invariant.waits none target ((member target).mp there)
      rw [declared.edge] at edge
      exact ⟨source, (member source).mpr waiting,
        (mem source target).mpr ⟨edge, (member target).mp there⟩⟩)
    (Nat.lt_succ_self unresolved.toList.length)
  exact ⟨_, findCycle_of_closes closes, first, rest, rfl,
    cycle.imp fun source target listed => ((mem source target).mp listed).1⟩

/-- The order of valid declarations follows the constraints, unless they contain a cycle. -/
theorem Declared.ordersOrCycles :
    (∃ order, orderHandlers (specificationsById specifications) (declaredGraph specifications)
        specifications.length = .ok order ∧ Acyclic (Constrains specifications) ∧
        FollowsConstraints specifications order.handlers) ∨
      ∃ path, orderHandlers (specificationsById specifications) (declaredGraph specifications)
        specifications.length = reject ⟨[.orderingCycle path]⟩ ∧
        ¬ Acyclic (Constrains specifications) ∧ ClosedCycle specifications path := by
  obtain ⟨ready, initial⟩ := declared.taking
  have all : (knownHandlers specifications).toList.Perm
      (specifications.map OrderingSpec.handler) := by
    refine (List.perm_ext_iff_of_nodup StringSet.nodup_toList declared.unique).mpr fun handler => ?_
    rw [Std.ExtTreeSet.mem_toList, mem_knownHandlers, mem_handlers]
  have size := all.length_eq
  rw [List.length_map] at size
  have enough : (knownHandlers specifications).toList.length < specifications.length + 1 := by omega
  obtain ⟨after, done, remaining, counted, taken, taking, none⟩ := declared.takes initial enough
  have length := taking.invariant.split.length_eq
  rw [List.length_append, size] at length
  have finished := taking.invariant.finished none
  rw [declared.edge] at finished
  have handlers : after.handlers.length = done.length := by rw [taking.handlers, List.length_reverse]
  unfold orderHandlers
  simp only [taken, Except.bind, bind]
  by_cases empty : remaining = []
  · refine .inl ⟨⟨after.handlers⟩, ?_, finished.mp empty, ?_, ?_, taking.greedy⟩
    · rw [empty, List.length_nil] at length
      rw [if_neg (by omega)]
      rfl
    · have perm := taking.invariant.split
      rw [empty, List.append_nil] at perm
      rw [taking.handlers]
      exact (List.reverse_perm done).trans (perm.trans all)
    · exact taking.greedy.respects
  · obtain ⟨path, found, closed⟩ := declared.findCycle_eq_ok taking none empty
    refine .inr ⟨path, ?_, fun acyclic => empty (finished.mpr acyclic), closed⟩
    have some := List.length_pos_of_ne_nil empty
    rw [if_pos (by omega)]
    simp only [found]

end Declared

section Permuted

variable {specifications permuted : List OrderingSpec} (same : specifications.Perm permuted)
include same

theorem registered_perm {handler : HandlerId} :
    Registered specifications handler ↔ Registered permuted handler := by
  simp only [Registered, same.mem_iff]

theorem constrains_perm {source target : HandlerId} :
    Constrains specifications source target ↔ Constrains permuted source target := by
  simp only [Constrains, same.mem_iff]

theorem knownHandlers_perm : knownHandlers specifications = knownHandlers permuted := by
  rw [knownHandlers, knownHandlers, registrationCounts_perm same]

theorem Declared.perm (declared : Declared specifications) : Declared permuted where
  unique := (same.map OrderingSpec.handler).nodup_iff.mp declared.unique
  exist specification member relation handler listed := (registered_perm same).mp
    (declared.exist specification (same.mem_iff.mpr member) relation handler listed)

theorem Declared.graph_perm (declared : Declared specifications) :
    declaredGraph specifications = declaredGraph permuted := by
  have first := declared.holds
  have second := (declared.perm same).holds
  rw [← knownHandlers_perm same] at second
  have edges : ∀ edge, edge ∈ specifications.flatMap OrderingSpec.constraints ↔
      edge ∈ permuted.flatMap OrderingSpec.constraints := fun edge =>
    mem_constraints.trans ((constrains_perm same).trans mem_constraints.symm)
  have outgoing : (declaredGraph specifications).outgoing = (declaredGraph permuted).outgoing := by
    apply Std.ExtTreeMap.ext_getElem?
    intro source
    have targets : (declaredGraph specifications).outgoing[source]?.getD ∅ =
        (declaredGraph permuted).outgoing[source]?.getD ∅ := by
      apply Std.ExtTreeSet.ext_mem
      intro target
      rw [first.targets, second.targets, edges]
    have known := (first.sources source).trans (second.sources source).symm
    revert targets known
    cases (declaredGraph specifications).outgoing[source]? <;>
      cases (declaredGraph permuted).outgoing[source]? <;> simp
  have incoming : (declaredGraph specifications).incoming = (declaredGraph permuted).incoming := by
    apply Std.ExtTreeMap.ext_getElem?
    intro target
    rw [first.counts, second.counts]
    simp only [edges]
  calc declaredGraph specifications
    _ = ⟨(declaredGraph specifications).outgoing, (declaredGraph specifications).incoming⟩ := rfl
    _ = declaredGraph permuted := by rw [outgoing, incoming]

theorem Declared.byId_perm (declared : Declared specifications) :
    specificationsById specifications = specificationsById permuted := by
  apply Std.ExtTreeMap.ext_getElem?
  intro handler
  apply Option.ext
  intro specification
  rw [getElem?_specificationsById declared.unique,
    getElem?_specificationsById (declared.perm same).unique, same.mem_iff]

end Permuted

end AgentMod
