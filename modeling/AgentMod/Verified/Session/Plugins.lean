import AgentMod.Graph.Sample
import AgentMod.Verified.Session.Replay
import AgentMod.Session.Plugins
import AgentMod.Session.StyleSample

/-! Disabled and quarantined plugins stay out of the activated set unless a whole-set activation names them. -/

namespace AgentMod

section Settled

variable {events : List PluginSessionEvent} {event : PluginSessionEvent} {pluginId : String}

theorem settledState_changed {changed : PluginLifecycleChangedEvent}
    (payload : event.payload = .part (.pluginLifecycleChanged changed)) :
    settledState (events ++ [event]) pluginId =
      if changed.pluginId = pluginId then some changed.state else settledState events pluginId := by
  rw [settledState, List.reverse_append, List.reverse_singleton, List.singleton_append,
    List.findSome?_cons]
  simp only [payload]
  by_cases same : changed.pluginId = pluginId
  · rw [if_pos same, if_pos same]
  · rw [if_neg same, if_neg same]
    rfl

theorem settledState_other (other : ∀ changed, event.payload ≠ .part (.pluginLifecycleChanged changed)) :
    settledState (events ++ [event]) pluginId = settledState events pluginId := by
  rw [settledState, List.reverse_append, List.reverse_singleton, List.singleton_append,
    List.findSome?_cons]
  split
  · rename_i found
    split at found
    · exact absurd ‹_› (other _)
    · cases found
  · rfl

theorem inactive_other (other : ∀ changed, event.payload ≠ .part (.pluginLifecycleChanged changed)) :
    Inactive (events ++ [event]) pluginId ↔ Inactive events pluginId := by
  rw [Inactive, Inactive, settledState_other other]

end Settled

theorem mem_reactivated_other {activated : List String} {changed state pluginId : String}
    (other : pluginId ≠ changed) : pluginId ∈ PluginExecutionState.reactivated activated changed state ↔ pluginId ∈ activated := by
  rw [PluginExecutionState.reactivated]
  split
  · split
    · rfl
    · simp [other]
  · simp [other]

theorem active_of_mem_reactivated {activated : List String} {state pluginId : String}
    (inside : pluginId ∈ PluginExecutionState.reactivated activated pluginId state) : state = "active" := by
  by_contra inactive
  rw [PluginExecutionState.reactivated, if_neg inactive] at inside
  simp at inside

section Safety

variable [ReceiptSerde] [Hashing]
variable {events : List PluginSessionEvent} {event : PluginSessionEvent}
variable {state next : Session PluginExecutionState}

/-- No activated plugin was settled as disabled or quarantined. -/
def ActivatedSafely (events : List PluginSessionEvent) (state : Session PluginExecutionState) : Prop :=
  ∀ pluginId ∈ state.part.activatedPluginIds, ¬ Inactive events pluginId

/-- What an accepted event makes of the activated plugins. -/
theorem activated_of_applyEvent {plugins applied : PluginExecutionState}
    {styleBinding : Option SessionStyleBinding} {sequence : Sequence} {payload : PluginEvent}
    (accepted : plugins.applyEvent styleBinding sequence payload = .ok applied) :
    (∃ activated, payload = .pluginSetActivated activated ∧
      applied.activatedPluginIds = activated.pluginIds) ∨
    (∃ changed, payload = .pluginLifecycleChanged changed ∧ applied.activatedPluginIds =
      PluginExecutionState.reactivated plugins.activatedPluginIds changed.pluginId changed.state) ∨
    ((∀ activated, payload ≠ .pluginSetActivated activated) ∧
      (∀ changed, payload ≠ .pluginLifecycleChanged changed) ∧
      applied.activatedPluginIds = plugins.activatedPluginIds) := by
  cases payload with
  | pluginSetActivated activated =>
    obtain ⟨_, -, accepted⟩ := bind_eq_ok.mp accepted
    obtain ⟨_, -, returned⟩ := bind_eq_ok.mp accepted
    cases returned
    exact .inl ⟨activated, rfl, rfl⟩
  | pluginLifecycleChanged changed =>
    obtain ⟨_, -, accepted⟩ := bind_eq_ok.mp accepted
    obtain ⟨_, -, accepted⟩ := bind_eq_ok.mp accepted
    obtain ⟨_, -, returned⟩ := bind_eq_ok.mp accepted
    cases returned
    exact .inr (.inl ⟨changed, rfl, rfl⟩)
  | pluginLifecycleChangeRequested requested =>
    obtain ⟨_, -, accepted⟩ := bind_eq_ok.mp accepted
    obtain ⟨_, -, returned⟩ := bind_eq_ok.mp accepted
    cases returned
    exact .inr (.inr ⟨nofun, nofun, rfl⟩)
  | pluginObserverDeliveryProposed identity =>
    obtain ⟨_, -, returned⟩ := bind_eq_ok.mp accepted
    cases returned
    exact .inr (.inr ⟨nofun, nofun, rfl⟩)
  | pluginObserverDeliveryDispatched invocationId requestHash =>
    obtain ⟨_, -, accepted⟩ := bind_eq_ok.mp accepted
    obtain ⟨_, -, returned⟩ := bind_eq_ok.mp accepted
    cases returned
    exact .inr (.inr ⟨nofun, nofun, rfl⟩)
  | pluginInvocationCompleted completed =>
    obtain ⟨_, -, returned⟩ := bind_eq_ok.mp accepted
    cases returned
    exact .inr (.inr ⟨nofun, nofun, rfl⟩)
  | other eventType =>
    cases accepted
    exact .inr (.inr ⟨nofun, nofun, rfl⟩)
  | _ =>
    -- The four receipts of an observer delivery are recorded alike.
    obtain ⟨_, -, accepted⟩ := bind_eq_ok.mp accepted
    obtain ⟨_, -, accepted⟩ := bind_eq_ok.mp accepted
    obtain ⟨_, -, returned⟩ := bind_eq_ok.mp accepted
    cases returned
    exact .inr (.inr ⟨nofun, nofun, rfl⟩)

variable [EventChecksum (SessionPayload PluginEvent)]

/-- Behind an accepted event, no inactive plugin is activated exactly when the event activates none as part
of a whole set. -/
theorem activatedSafely_iff (safe : ActivatedSafely events state)
    (step : SessionStep state event next) :
    ActivatedSafely (events ++ [event]) next ↔ ¬ Overrides events event := by
  rcases step.part with ⟨unchanged, other⟩ | ⟨payload, family, applied⟩
  · refine iff_of_true (fun pluginId inside => ?_) (fun ⟨activated, payload, _⟩ => other _ payload)
    rw [inactive_other fun changed => other _]
    exact safe pluginId (unchanged ▸ inside)
  rcases activated_of_applyEvent applied with
    ⟨activated, rfl, ids⟩ | ⟨changed, rfl, ids⟩ | ⟨notSet, notChanged, ids⟩
  · -- The activated plugins are those of the set, and nothing is settled.
    rw [ActivatedSafely, ids]
    have settles : ∀ changed, event.payload ≠ .part (.pluginLifecycleChanged changed) := by
      intro changed same
      cases family.symm.trans same
    simp only [inactive_other settles]
    constructor
    · rintro apart ⟨_, same, pluginId, inside, inactive⟩
      cases family.symm.trans same
      exact apart pluginId inside inactive
    · exact fun apart pluginId inside inactive => apart ⟨activated, family, pluginId, inside, inactive⟩
  · -- The changed plugin stays only where it is settled as active, and no other one is settled.
    refine iff_of_true (fun pluginId inside => ?_) ?_
    · rw [ids] at inside
      rw [Inactive, settledState_changed family]
      by_cases same : changed.pluginId = pluginId
      · subst same
        rw [if_pos rfl, active_of_mem_reactivated inside]
        decide
      · rw [if_neg same]
        exact safe pluginId ((mem_reactivated_other (Ne.symm same)).mp inside)
    · rintro ⟨activated, same, _⟩
      cases family.symm.trans same
  · refine iff_of_true (fun pluginId inside => ?_) ?_
    · have settles : ∀ changed, event.payload ≠ .part (.pluginLifecycleChanged changed) := by
        intro changed same
        exact notChanged changed (SessionPayload.part.inj (family.symm.trans same))
      rw [inactive_other settles]
      exact safe pluginId (ids ▸ inside)
    · rintro ⟨activated, same, _⟩
      exact notSet activated (SessionPayload.part.inj (family.symm.trans same))

theorem activated_of_delivery {identity : PluginObserverDeliveryIdentity}
    (step : SessionStep state event next)
    (proposed : event.payload = .part (.pluginObserverDeliveryProposed identity)) :
    identity.pluginId ∈ state.part.activatedPluginIds := by
  rcases step.part with ⟨-, other⟩ | ⟨payload, family, applied⟩
  · exact absurd proposed (other _)
  · cases SessionPayload.part.inj (family.symm.trans proposed)
    obtain ⟨_, passes, -⟩ := bind_eq_ok.mp applied
    rw [refuseIf_eq_ok] at passes
    by_contra missing
    exact passes (by simp [missing])

/-- No prefix of the events leads to an activated plugin that it settled as disabled or quarantined, and none
is followed by a delivery for one. -/
def QuarantineSafe (events : List PluginSessionEvent) : Prop :=
  (∀ earlier later state, events = earlier ++ later → replay earlier = .ok state →
    ActivatedSafely earlier state) ∧
  ∀ earlier event later identity, events = earlier ++ event :: later →
    event.payload = .part (.pluginObserverDeliveryProposed identity) →
    ¬ Inactive earlier identity.pluginId

theorem activatedSafely_of_replay (replayed : replay events = .ok state)
    (respects : ∀ earlier event later, events = earlier ++ event :: later → ¬ Overrides earlier event) :
    ActivatedSafely events state := by
  refine replay_invariant (motive := fun events state =>
    (∀ earlier event later, events = earlier ++ event :: later → ¬ Overrides earlier event) →
      ActivatedSafely events state) replayed ?_ ?_ respects
  · intro first start created _ pluginId inside
    rw [part_of_reduce_none created] at inside
    cases inside
  · intro earlier state event next ih step respects
    refine (activatedSafely_iff (ih fun front event' rest same => ?_) step).mpr ?_
    · exact respects front event' (rest ++ [event]) (by simp [same])
    · exact respects earlier event [] rfl

/-- Over any replayed events, the plugins that were settled as disabled or quarantined stay out of the activated
set and get no observer delivery exactly when no whole-set activation names one of them. -/
theorem quarantine_safety (events : List PluginSessionEvent) (state : Session PluginExecutionState)
    (replayed : replay events = .ok state) :
    QuarantineSafe events ↔
      ∀ earlier event later, events = earlier ++ event :: later → ¬ Overrides earlier event := by
  have taken : ∀ {earlier : List PluginSessionEvent} {event later}, events = earlier ++ event :: later →
      earlier ≠ [] → ∃ (state next : Session PluginExecutionState), replay earlier = .ok state ∧
        SessionStep state event next ∧ replay (earlier ++ [event]) = .ok next := by
    intro earlier event later same nonempty
    rw [same, List.append_cons] at replayed
    obtain ⟨next, there⟩ := replay_front (by simp) replayed
    rcases replay_snoc.mp there with ⟨empty, -⟩ | ⟨state, before, step⟩
    · exact absurd empty nonempty
    · exact ⟨state, next, before, step, there⟩
  -- The first event creates the session, so that it neither activates nor delivers anything.
  have first : ∀ {event later payload}, events = event :: later → event.payload ≠ .part payload := by
    rintro event later payload rfl family
    obtain ⟨_, _, _, same, created, -⟩ := replay_eq_ok.mp replayed
    cases same
    obtain ⟨_, creates⟩ := exists_of_reduce_none created
    cases family.symm.trans creates
  constructor
  · rintro ⟨safe, -⟩ earlier event later same overrides
    by_cases nonempty : earlier = []
    · subst nonempty
      obtain ⟨activated, family, -⟩ := overrides
      exact first same family
    obtain ⟨state, next, before, step, there⟩ := taken same nonempty
    exact (activatedSafely_iff (safe earlier _ state same before) step).mp
      (safe _ later next (by simp [same]) there) overrides
  · intro respects
    have safe : ∀ earlier later state, events = earlier ++ later → replay earlier = .ok state →
        ActivatedSafely earlier state := fun earlier later state same before =>
      activatedSafely_of_replay before fun front event rest same' =>
        respects front event (rest ++ later) (by simp [same, same'])
    refine ⟨safe, fun earlier event later identity same proposed inactive => ?_⟩
    by_cases nonempty : earlier = []
    · subst nonempty
      exact first same proposed
    obtain ⟨state, next, before, step, -⟩ := taken same nonempty
    exact safe earlier _ state same before _ (activated_of_delivery step proposed) inactive

end Safety

section Sample

/-- A stand-in for the bytes of receipts. -/
abbrev plainReceipts : ReceiptSerde where
  toVec _ _ _ _ _ _ := .ok []

attribute [local instance] plainChecksum plainReceipts prefixHash

/-- An event of the sample session about plugins. -/
def pluginEvent (sequence : Sequence) (payload : PluginEvent) : PluginSessionEvent :=
  sessionEvent sequence payload.eventType (.part payload) []

/-- The activation of the one plugin of the sample. -/
def activation (sequence : Sequence) : PluginSessionEvent :=
  pluginEvent sequence (.pluginSetActivated ⟨["plugin"], zeroHash⟩)

/-- A session whose plugin is disabled while it is activated. -/
def disabledPlugin : List PluginSessionEvent :=
  [sessionCreation, activation 2,
    pluginEvent 3 (.pluginLifecycleChangeRequested ⟨"plugin", "1", "disable", none, zeroHash, "cancel"⟩),
    pluginEvent 4 (.pluginLifecycleChanged ⟨"plugin", "1", "disabled", none, zeroHash, "disable", "ok"⟩)]

/-- A delivery for the plugin. -/
def pluginDelivery : PluginObserverDeliveryIdentity :=
  ⟨"invocation", "plugin", "1", "observe", 1, 1, zeroHash, "cancel"⟩

/-- The disabled plugin is activated again with the whole set, and gets a delivery. -/
theorem not_quarantine_safety :
    settledState (disabledPlugin ++ [activation 5]) "plugin" = some "disabled" ∧
    ∃ state : Session PluginExecutionState,
      replay (disabledPlugin ++ [activation 5,
        pluginEvent 6 (.pluginObserverDeliveryProposed pluginDelivery)]) = .ok state ∧
      state.part.activatedPluginIds = ["plugin"] := by
  refine ⟨by decide, ?_⟩
  have accepted : returns (replay (disabledPlugin ++ [activation 5,
      pluginEvent 6 (.pluginObserverDeliveryProposed pluginDelivery)]))
      (fun state : Session PluginExecutionState => state.part.activatedPluginIds = ["plugin"]) := by
    decide
  simpa [returns_eq_true] using accepted

/-- The session whose plugin stays disabled is safe exactly because it is not activated again. -/
theorem quarantine_safety_disabledPlugin : QuarantineSafe disabledPlugin ↔
    ∀ earlier event later, disabledPlugin = earlier ++ event :: later → ¬ Overrides earlier event := by
  have accepted : returns (replay disabledPlugin) (fun state : Session PluginExecutionState =>
      state.part.activatedPluginIds = []) := by decide
  obtain ⟨state, replayed, -⟩ := returns_eq_true.mp accepted
  exact quarantine_safety disabledPlugin state replayed

end Sample

end AgentMod
