import AgentMod.Session.Reducer

/-! The plugins of a session: activation, lifecycle, observer deliveries and blocking invocations. -/

namespace AgentMod

/-- Replay-owned plugin lifecycle management state. -/
structure PluginLifecycleRecord where
  pluginVersion : String
  action : String
  state : String
  reasonCode : Option String
  requestDigest : ContentHash
  cancellationId : String
  requestedAt : Sequence
  changedAt : Option Sequence

/-- Immutable identity of one observer delivery over a committed event range. -/
structure PluginObserverDeliveryIdentity where
  invocationId : String
  pluginId : String
  pluginVersion : String
  handler : String
  firstSequence : Nat
  lastSequence : Nat
  requestHash : ContentHash
  cancellationId : String

/-- Replay-owned observer delivery lifecycle. -/
inductive PluginObserverDeliveryState where
  | proposed
  | dispatched
  | completed
  | rejected
  | failed
  | ambiguous
  deriving DecidableEq

/-- Replay-owned record for one exact observer delivery. -/
structure PluginObserverDeliveryRecord where
  identity : PluginObserverDeliveryIdentity
  state : PluginObserverDeliveryState
  receiptId : Option String
  receiptDigest : Option ContentHash
  queueDepth : Nat
  dropped : Nat
  replayed : Bool
  proposedAt : Sequence
  dispatchedAt : Option Sequence
  terminalAt : Option Sequence

/-- Replay-owned blocking plugin invocation. -/
structure PluginInvocationRecord where
  pluginId : String
  handler : String
  actionKind : String
  proposalId : String
  inputDigest : Option ContentHash
  outputDigest : Option ContentHash
  outcome : String
  committedAt : Sequence

/-- Plugins of a session. -/
structure PluginExecutionState where
  activatedPluginIds : List String
  activatedAt : Option Sequence
  invocations : List PluginInvocationRecord
  lifecycle : StringMap PluginLifecycleRecord
  observerDeliveries : StringMap PluginObserverDeliveryRecord

/-- Whole-set activation. -/
structure PluginSetActivatedEvent where
  pluginIds : List String
  pluginSetHash : ContentHash

/-- Canonical intent to change one exact session plugin lifecycle state. -/
structure PluginLifecycleChangeRequestedEvent where
  pluginId : String
  pluginVersion : String
  action : String
  reasonCode : Option String
  requestDigest : ContentHash
  cancellationId : String

/-- Canonical terminal receipt for a plugin lifecycle transition. -/
structure PluginLifecycleChangedEvent where
  pluginId : String
  pluginVersion : String
  state : String
  reasonCode : Option String
  requestDigest : ContentHash
  hostAuditOperation : String
  hostAuditOutcome : String

/-- Canonical terminal receipt for one observer delivery. -/
structure PluginObserverDeliveryTerminalEvent where
  invocationId : String
  requestHash : ContentHash
  receiptId : String
  receiptDigest : ContentHash
  queueDepth : Nat
  dropped : Nat
  replayed : Bool

/-- Canonical result of one blocking plugin invocation. -/
structure PluginInvocationCompletedEvent where
  pluginId : String
  handler : String
  actionKind : String
  proposalId : String
  inputDigest : ContentHash
  outputDigest : Option ContentHash
  outcome : String

/-- The events of plugins, and those of other families, which leave plugins alone. -/
inductive PluginEvent where
  | pluginSetActivated (activated : PluginSetActivatedEvent)
  | pluginLifecycleChangeRequested (requested : PluginLifecycleChangeRequestedEvent)
  | pluginLifecycleChanged (changed : PluginLifecycleChangedEvent)
  | pluginObserverDeliveryProposed (identity : PluginObserverDeliveryIdentity)
  | pluginObserverDeliveryDispatched (invocationId : String) (requestHash : ContentHash)
  | pluginObserverDeliveryCompleted (terminal : PluginObserverDeliveryTerminalEvent)
  | pluginObserverDeliveryRejected (terminal : PluginObserverDeliveryTerminalEvent)
  | pluginObserverDeliveryFailed (terminal : PluginObserverDeliveryTerminalEvent)
  | pluginObserverDeliveryAmbiguous (terminal : PluginObserverDeliveryTerminalEvent)
  | pluginInvocationCompleted (completed : PluginInvocationCompletedEvent)
  | other (eventType : String)

/-- The stable names of plugin events. -/
def PluginEvent.eventType : PluginEvent → String
  | pluginSetActivated _ => "plugin.set_activated"
  | pluginLifecycleChangeRequested _ => "plugin.lifecycle_change_requested"
  | pluginLifecycleChanged _ => "plugin.lifecycle_changed"
  | pluginObserverDeliveryProposed _ => "plugin.observer_delivery_proposed"
  | pluginObserverDeliveryDispatched .. => "plugin.observer_delivery_dispatched"
  | pluginObserverDeliveryCompleted _ => "plugin.observer_delivery_completed"
  | pluginObserverDeliveryRejected _ => "plugin.observer_delivery_rejected"
  | pluginObserverDeliveryFailed _ => "plugin.observer_delivery_failed"
  | pluginObserverDeliveryAmbiguous _ => "plugin.observer_delivery_ambiguous"
  | pluginInvocationCompleted _ => "plugin.invocation_completed"
  | other eventType => eventType

/-- `serde_json::to_vec` of the parts of an observer delivery receipt. -/
class ReceiptSerde where
  /-- The bytes of the domain, the plugin, the invocation, the request, the status and the receipt. -/
  toVec : String → String → String → ContentHash → String → String → Except String (List UInt8)

namespace PluginExecutionState

/-- Activates a whole set of plugins. -/
def setActivated (plugins : PluginExecutionState) (styleBinding : Option SessionStyleBinding)
    (sequence : Sequence) (activated : PluginSetActivatedEvent) : Reducing PluginExecutionState := do
  let binding ← okOr styleBinding .missingStyleBinding
  refuseIf (activated.pluginSetHash ≠ binding.pluginSetHash ∨ ¬ activated.pluginIds.Nodup)
    .invalidPluginActivation
  return { plugins with activatedPluginIds := activated.pluginIds, activatedAt := some sequence }

/-- Whether an action may be requested, by the record of the plugin. -/
def validFollowup (existing : Option PluginLifecycleRecord) (action : String) : Bool :=
  match existing with
  | some existing => existing.changedAt.isSome &&
      ((existing.state == "active" && (action == "disable" || action == "quarantine")) ||
        (existing.state == "disabled" && action == "enable") ||
        (existing.state == "quarantined" && action == "unquarantine"))
  | none => !(action == "enable" || action == "unquarantine")

/-- Whether a request for a lifecycle change is well-formed. -/
def wellFormedRequest (requested : PluginLifecycleChangeRequestedEvent) : Bool :=
  !isBlank requested.pluginId && !isBlank requested.pluginVersion &&
    !isBlank requested.cancellationId &&
    ["disable", "enable", "quarantine", "unquarantine"].contains requested.action &&
    (requested.action == "quarantine" || requested.reasonCode.isNone) &&
    (requested.action != "quarantine" || requested.reasonCode.any fun reason => !isBlank reason)

/-- Records the request for a lifecycle change. -/
def lifecycleChangeRequested (plugins : PluginExecutionState) (sequence : Sequence)
    (requested : PluginLifecycleChangeRequestedEvent) : Reducing PluginExecutionState := do
  refuseIf (!wellFormedRequest requested) .invalidPluginLifecycle
  refuseIf (!validFollowup plugins.lifecycle[requested.pluginId]? requested.action)
    .invalidPluginLifecycle
  return { plugins with
    lifecycle := plugins.lifecycle.insert requested.pluginId {
      pluginVersion := requested.pluginVersion
      action := requested.action
      state := "pending"
      reasonCode := requested.reasonCode
      requestDigest := requested.requestDigest
      cancellationId := requested.cancellationId
      requestedAt := sequence
      changedAt := none } }

/-- The state that an action leads to. -/
def expectedState : String → Reducing String
  | "disable" => .ok "disabled"
  | "enable" | "unquarantine" => .ok "active"
  | "quarantine" => .ok "quarantined"
  | _ => .error .invalidPluginLifecycle

/-- The activated plugins behind a lifecycle change of one of them. -/
def reactivated (activated : List String) (pluginId state : String) : List String :=
  if state = "active" then
    if activated.contains pluginId then activated else activated ++ [pluginId]
  else activated.filter (· ≠ pluginId)

/-- Settles a lifecycle change. -/
def lifecycleChanged (plugins : PluginExecutionState) (sequence : Sequence)
    (changed : PluginLifecycleChangedEvent) : Reducing PluginExecutionState := do
  let lifecycle ← okOr plugins.lifecycle[changed.pluginId]? .invalidPluginLifecycle
  let expected ← expectedState lifecycle.action
  refuseIf (lifecycle.state ≠ "pending" ∨ lifecycle.pluginVersion ≠ changed.pluginVersion ∨
    lifecycle.requestDigest ≠ changed.requestDigest ∨ lifecycle.reasonCode ≠ changed.reasonCode ∨
    changed.state ≠ expected ∨ changed.hostAuditOperation ≠ lifecycle.action ∨
    isBlank changed.hostAuditOutcome) .invalidPluginLifecycle
  return { plugins with
    lifecycle := plugins.lifecycle.insert changed.pluginId
      { lifecycle with state := changed.state, changedAt := some sequence }
    activatedPluginIds := reactivated plugins.activatedPluginIds changed.pluginId changed.state }

/-- Records the proposal of an observer delivery. -/
def observerDeliveryProposed (plugins : PluginExecutionState) (sequence : Sequence)
    (identity : PluginObserverDeliveryIdentity) : Reducing PluginExecutionState := do
  refuseIf (isBlank identity.invocationId ∨ isBlank identity.pluginId ∨
    isBlank identity.pluginVersion ∨ isBlank identity.handler ∨ isBlank identity.cancellationId ∨
    identity.firstSequence = 0 ∨ identity.firstSequence > identity.lastSequence ∨
    identity.pluginId ∉ plugins.activatedPluginIds ∨
    plugins.observerDeliveries.contains identity.invocationId) .invalidPluginInvocation
  return { plugins with
    observerDeliveries := plugins.observerDeliveries.insert identity.invocationId {
      identity
      state := .proposed
      receiptId := none
      receiptDigest := none
      queueDepth := 0
      dropped := 0
      replayed := false
      proposedAt := sequence
      dispatchedAt := none
      terminalAt := none } }

/-- Records the dispatch of an observer delivery. -/
def observerDeliveryDispatched (plugins : PluginExecutionState) (sequence : Sequence)
    (invocationId : String) (requestHash : ContentHash) : Reducing PluginExecutionState := do
  let record ← okOr plugins.observerDeliveries[invocationId]? .invalidPluginInvocation
  refuseIf (record.state ≠ .proposed ∨ record.identity.requestHash ≠ requestHash)
    .invalidPluginInvocation
  return { plugins with
    observerDeliveries := plugins.observerDeliveries.insert invocationId
      { record with state := .dispatched, dispatchedAt := some sequence } }

/-- Whether a blocking invocation may end so. -/
def validPluginInvocationOutcome (outcome : String) (hasOutputDigest : Bool) : Bool :=
  if ["continue", "replace"].contains outcome then hasOutputDigest
  else ["reject", "require_approval", "defer", "cancel", "fork", "failure"].contains outcome &&
    !hasOutputDigest

/-- Records a blocking invocation. -/
def invocationCompleted (plugins : PluginExecutionState) (sequence : Sequence)
    (completed : PluginInvocationCompletedEvent) : Reducing PluginExecutionState := do
  refuseIf (completed.pluginId ∉ plugins.activatedPluginIds ∨ isBlank completed.handler ∨
    isBlank completed.actionKind ∨ isBlank completed.proposalId ∨
    !validPluginInvocationOutcome completed.outcome completed.outputDigest.isSome)
    .invalidPluginInvocation
  return { plugins with
    invocations := plugins.invocations ++ [{
      pluginId := completed.pluginId
      handler := completed.handler
      actionKind := completed.actionKind
      proposalId := completed.proposalId
      inputDigest := some completed.inputDigest
      outputDigest := completed.outputDigest
      outcome := completed.outcome
      committedAt := sequence }] }

variable [ReceiptSerde] [Hashing]

/-- Records the terminal receipt of an observer delivery. -/
def observerTerminal (plugins : PluginExecutionState) (terminal : PluginObserverDeliveryTerminalEvent)
    (nextState : PluginObserverDeliveryState) (status : String) (sequence : Sequence) :
    Reducing PluginExecutionState := do
  let record ← okOr plugins.observerDeliveries[terminal.invocationId]? .invalidPluginInvocation
  let bytes ← (ReceiptSerde.toVec "agentmod.plugin.observer.delivery.receipt.v1"
    record.identity.pluginId record.identity.invocationId record.identity.requestHash status
    terminal.receiptId).mapError fun _ => .invalidPluginInvocation
  refuseIf (record.state ≠ .dispatched ∨ record.identity.requestHash ≠ terminal.requestHash ∨
    isBlank terminal.receiptId ∨ terminal.receiptDigest ≠ Hashing.digest bytes)
    .invalidPluginInvocation
  return { plugins with
    observerDeliveries := plugins.observerDeliveries.insert terminal.invocationId { record with
      state := nextState
      receiptId := some terminal.receiptId
      receiptDigest := some terminal.receiptDigest
      queueDepth := terminal.queueDepth
      dropped := terminal.dropped
      replayed := terminal.replayed
      terminalAt := some sequence } }

/-- What an event does to the plugins of a session. -/
def applyEvent (plugins : PluginExecutionState) (styleBinding : Option SessionStyleBinding)
    (sequence : Sequence) : PluginEvent → Reducing PluginExecutionState
  | .pluginSetActivated activated => plugins.setActivated styleBinding sequence activated
  | .pluginLifecycleChangeRequested requested => plugins.lifecycleChangeRequested sequence requested
  | .pluginLifecycleChanged changed => plugins.lifecycleChanged sequence changed
  | .pluginObserverDeliveryProposed identity => plugins.observerDeliveryProposed sequence identity
  | .pluginObserverDeliveryDispatched invocationId requestHash =>
    plugins.observerDeliveryDispatched sequence invocationId requestHash
  | .pluginObserverDeliveryCompleted terminal =>
    plugins.observerTerminal terminal .completed "completed" sequence
  | .pluginObserverDeliveryRejected terminal =>
    plugins.observerTerminal terminal .rejected "rejected" sequence
  | .pluginObserverDeliveryFailed terminal =>
    plugins.observerTerminal terminal .failed "failed" sequence
  | .pluginObserverDeliveryAmbiguous terminal =>
    plugins.observerTerminal terminal .ambiguous "ambiguous" sequence
  | .pluginInvocationCompleted completed => plugins.invocationCompleted sequence completed
  | .other _ => .ok plugins

/-- Plugins as the part of a session that plugin events change. -/
instance : SessionPart PluginExecutionState PluginEvent where
  eventType := PluginEvent.eventType
  initial := ⟨[], none, [], ∅, ∅⟩
  apply state metadata _ event := state.part.applyEvent state.styleBinding metadata.sequence event

end PluginExecutionState

/-- An event of a session with plugins. -/
abbrev PluginSessionEvent := EventEnvelope (SessionPayload PluginEvent)

/-- The lifecycle state that the events settled last for a plugin. -/
def settledState (events : List PluginSessionEvent) (pluginId : String) : Option String :=
  events.reverse.findSome? fun event =>
    match event.payload with
    | .part (.pluginLifecycleChanged changed) =>
      if changed.pluginId = pluginId then some changed.state else none
    | _ => none

/-- The events settled a plugin as disabled or quarantined. -/
def Inactive (events : List PluginSessionEvent) (pluginId : String) : Prop :=
  settledState events pluginId = some "disabled" ∨ settledState events pluginId = some "quarantined"

/-- An event activates a plugin that the events before it settled as disabled or quarantined. -/
def Overrides (events : List PluginSessionEvent) (event : PluginSessionEvent) : Prop :=
  ∃ activated, event.payload = .part (.pluginSetActivated activated) ∧
    ∃ pluginId ∈ activated.pluginIds, Inactive events pluginId

end AgentMod
