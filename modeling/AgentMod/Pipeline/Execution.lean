import AgentMod.Library.Result
import AgentMod.Pipeline.Ordering

/-! The blocking pipeline, a chain of invocations, each on the value that the last accepted decision has left. -/

namespace AgentMod

/-- Opaque continuation identifier supplied by the embedding runtime. -/
abbrev ContinuationId := String

/-- User-facing approval information without transport-specific fields. -/
structure ApprovalRequest where
  summary : String
  deriving DecidableEq, Repr

/-- Deterministic wake condition interpreted by the embedding runtime. -/
inductive WakeCondition where
  | atUnixMilliseconds (timestamp : Int)
  | committedEvent (name : String)
  | explicit
  deriving DecidableEq, Repr

/-- Policy used to join forked proposals. -/
inductive JoinPolicy where
  | all
  | any
  | firstSuccess
  deriving DecidableEq, Repr

/-- Typed result returned by a blocking interceptor. -/
inductive Decision (T : Type) where
  | continue (value : T)
  | replace (value : T)
  | reject (reason : String)
  | requireApproval (request : ApprovalRequest) (continuation : ContinuationId)
  | defer (continuation : ContinuationId) (wakeCondition : WakeCondition)
  | cancel (reason : String)
  | fork (branches : List T) (join : JoinPolicy)
  deriving DecidableEq, Repr

/-- Optional decision capability supported by an action and session style. -/
inductive DecisionCapability where
  | replace
  | approval
  | defer
  | cancel
  | fork
  deriving DecidableEq, Repr

/-- The bit of a capability in the compact set. -/
def DecisionCapability.bit : DecisionCapability → UInt8
  | replace => 0x01
  | approval => 0x02
  | defer => 0x04
  | cancel => 0x08
  | fork => 0x10

/-- Compact set of decision capabilities supported by one action and session style. -/
structure ActionCapabilities where
  supported : UInt8
  deriving DecidableEq, Repr

/-- Error returned when a handler chooses an unsupported decision. -/
structure DecisionCapabilityError where
  decision : String
  deriving DecidableEq, Repr

/-- The text of a capability error. -/
def DecisionCapabilityError.display (error : DecisionCapabilityError) : String :=
  "decision `" ++ error.decision ++ "` is not supported by this action"

/-- The name of a decision. -/
def Decision.kind {T : Type} : Decision T → String
  | .continue _ => "continue"
  | .replace _ => "replace"
  | .reject _ => "reject"
  | .requireApproval .. => "require-approval"
  | .defer .. => "defer"
  | .cancel _ => "cancel"
  | .fork .. => "fork"

namespace ActionCapabilities

/-- Capabilities supporting only continue and reject. -/
def minimal : ActionCapabilities := ⟨0⟩

/-- Reports whether an optional decision capability is supported. -/
def supports (capabilities : ActionCapabilities) (capability : DecisionCapability) : Bool :=
  capabilities.supported &&& capability.bit != 0

/-- Validates a decision against action capabilities. -/
def validate {T : Type} (capabilities : ActionCapabilities) (decision : Decision T) :
    Except DecisionCapabilityError Unit :=
  let supported := match decision with
    | .continue _ | .reject _ => true
    | .replace _ => capabilities.supports .replace
    | .requireApproval .. => capabilities.supports .approval
    | .defer .. => capabilities.supports .defer
    | .cancel _ => capabilities.supports .cancel
    | .fork .. => capabilities.supports .fork
  if supported then .ok () else .error ⟨decision.kind⟩

end ActionCapabilities

/-- Handler-reported failure without dependency- or runtime-specific error types. -/
structure InterceptorError where
  message : String
  deriving DecidableEq, Repr

/-- The deadline of an invocation has passed. -/
structure Elapsed where
  deriving DecidableEq, Repr

/-- How a handler answers within its timeout. -/
abbrev Invocation (T : Type) := Except Elapsed (Except InterceptorError (Decision T))

/-- Explicit behavior when an interceptor errors, times out, or returns an unsupported decision. -/
inductive FailurePolicy where
  | abort
  | reject
  | cancel
  | continueUnchanged
  deriving DecidableEq, Repr

/-- One blocking interceptor and its execution controls. -/
structure InterceptorRegistration (T : Type) where
  ordering : OrderingSpec
  timeout : Nat
  failurePolicy : FailurePolicy
  handler : T → Invocation T

/-- Classified handler failure. -/
inductive HandlerFailureKind where
  | handlerError
  | timeout
  | unsupportedDecision
  deriving DecidableEq, Repr

/-- Failure recorded in an execution step. -/
structure HandlerFailure where
  kind : HandlerFailureKind
  message : String
  deriving DecidableEq, Repr

/-- Recorded result of invoking one handler. -/
inductive ExecutionStepResult (T : Type) where
  | decision (decision : Decision T)
  | failure (failure : HandlerFailure)
  deriving DecidableEq, Repr

/-- Auditable execution information for one handler. -/
structure ExecutionStep (T : Type) where
  handler : HandlerId
  input : T
  result : ExecutionStepResult T
  deriving DecidableEq, Repr

/-- Terminal pipeline result. -/
inductive ExecutionOutcome (T : Type) where
  | decision (decision : Decision T)
  | aborted (handler : HandlerId) (failure : HandlerFailure)
  deriving DecidableEq, Repr

/-- Complete auditable report for one pipeline execution. -/
structure ExecutionReport (T : Type) where
  steps : List (ExecutionStep T)
  outcome : ExecutionOutcome T
  deriving DecidableEq, Repr

/-- Mutable registration builder compiled into an immutable pipeline. -/
structure BlockingPipelineBuilder (T : Type) where
  registrations : List (InterceptorRegistration T)

/-- Immutable compiled blocking pipeline. -/
structure BlockingPipeline (T : Type) where
  registrations : List (InterceptorRegistration T)

section Pipeline

variable {T : Type}

/-- Takes the registrations of some handlers out of a map, in the order of the handlers. -/
def removeAll : List HandlerId → StringMap (InterceptorRegistration T) →
    List (InterceptorRegistration T)
  | [], _ => []
  | handler :: rest, byId =>
    match byId[handler]? with
    | none => removeAll rest byId
    | some registration => registration :: removeAll rest (byId.erase handler)

/-- Compiles deterministic order and freezes the pipeline. -/
def BlockingPipelineBuilder.compile (builder : BlockingPipelineBuilder T) :
    Fallible CompileError (BlockingPipeline T) := do
  let order ← compileOrder (builder.registrations.map InterceptorRegistration.ordering)
  let byId : StringMap (InterceptorRegistration T) := .ofList
    (builder.registrations.map fun registration => (registration.ordering.handler, registration))
  return ⟨removeAll order.handlers byId⟩

/-- Invokes a handler on a proposal, and validates its decision. -/
def invoke (capabilities : ActionCapabilities) (registration : InterceptorRegistration T)
    (input : T) : ExecutionStepResult T :=
  match registration.handler input with
  | .ok (.ok decision) =>
    match capabilities.validate decision with
    | .ok () => .decision decision
    | .error error => .failure ⟨.unsupportedDecision, error.display⟩
  | .ok (.error error) => .failure ⟨.handlerError, error.message⟩
  | .error _ => .failure ⟨.timeout, "handler `" ++ registration.ordering.handler ++
      "` exceeded timeout of " ++ toString registration.timeout ++ " ms"⟩

/-- Why a failed interceptor stops the pipeline. -/
def failureReason (registration : InterceptorRegistration T) (failure : HandlerFailure) : String :=
  "interceptor `" ++ registration.ordering.handler ++ "` failed: " ++ failure.message

/-- Executes the remaining handlers behind the recorded steps. -/
def executeFrom (capabilities : ActionCapabilities) :
    List (InterceptorRegistration T) → T → List (ExecutionStep T) → ExecutionReport T
  | [], current, steps => ⟨steps, .decision (.continue current)⟩
  | registration :: rest, current, steps =>
    let result := invoke capabilities registration current
    let steps := steps ++ [⟨registration.ordering.handler, current, result⟩]
    match result with
    | .decision (.continue value) => executeFrom capabilities rest value steps
    | .decision (.replace value) => executeFrom capabilities rest value steps
    | .decision terminal => ⟨steps, .decision terminal⟩
    | .failure failure =>
      match registration.failurePolicy with
      | .continueUnchanged => executeFrom capabilities rest current steps
      | .reject => ⟨steps, .decision (.reject (failureReason registration failure))⟩
      | .cancel => ⟨steps, .decision (.cancel (failureReason registration failure))⟩
      | .abort => ⟨steps, .aborted registration.ordering.handler failure⟩

/-- Executes handlers in compiled order with per-handler timeout and capability validation. -/
def BlockingPipeline.execute (pipeline : BlockingPipeline T) (proposal : T)
    (capabilities : ActionCapabilities) : ExecutionReport T :=
  executeFrom capabilities pipeline.registrations proposal []

end Pipeline

section Steps

variable {T : Type}

/-- The value that an accepted continue or replace decision produces. -/
def ExecutionStepResult.produced : ExecutionStepResult T → Option T
  | decision (.continue value) => some value
  | decision (.replace value) => some value
  | _ => none

/-- The value behind some steps: the last one that was produced, and the proposal at first. -/
def currentValue (proposal : T) (steps : List (ExecutionStep T)) : T :=
  ((steps.filterMap fun step => step.result.produced).getLast?).getD proposal

/-- The outcome with which a step ends the pipeline, if it does. -/
def terminalOutcome (registration : InterceptorRegistration T) :
    ExecutionStepResult T → Option (ExecutionOutcome T)
  | .decision (.continue _) => none
  | .decision (.replace _) => none
  | .decision terminal => some (.decision terminal)
  | .failure failure =>
    match registration.failurePolicy with
    | .continueUnchanged => none
    | .reject => some (.decision (.reject (failureReason registration failure)))
    | .cancel => some (.decision (.cancel (failureReason registration failure)))
    | .abort => some (.aborted registration.ordering.handler failure)

/-- A step records a handler's invocation on the value that the earlier steps have left. -/
structure Records (capabilities : ActionCapabilities) (proposal : T)
    (registration : InterceptorRegistration T) (earlier : List (ExecutionStep T))
    (step : ExecutionStep T) : Prop where
  handler : step.handler = registration.ordering.handler
  input : step.input = currentValue proposal earlier
  result : step.result = invoke capabilities registration step.input

/-- A handler answers without a supported decision: it fails, times out, or decides otherwise. -/
def Fails (capabilities : ActionCapabilities) (registration : InterceptorRegistration T)
    (input : T) : Prop :=
  ∀ decision, registration.handler input = .ok (.ok decision) →
    capabilities.validate decision ≠ .ok ()

/-- At an index of the plan, a handler was invoked in a step. -/
def Ran (registrations : List (InterceptorRegistration T)) (steps : List (ExecutionStep T))
    (index : Nat) (registration : InterceptorRegistration T) (step : ExecutionStep T) : Prop :=
  registrations[index]? = some registration ∧ steps[index]? = some step

/-- A decision is the cancellation of a failed handler whose failure policy is to cancel. -/
def CancelledByPolicy (registrations : List (InterceptorRegistration T))
    (steps : List (ExecutionStep T)) (decision : Decision T) : Prop :=
  ∃ index registration step failure, Ran registrations steps index registration step ∧
    registration.failurePolicy = .cancel ∧ step.result = .failure failure ∧
    decision = .cancel (failureReason registration failure)

/-- What the execution of a plan achieves, for the decisions that it may end with. -/
structure SoundExecution (registrations : List (InterceptorRegistration T)) (proposal : T)
    (capabilities : ActionCapabilities) (permitted : Decision T → Prop)
    (report : ExecutionReport T) : Prop where
  /-- The steps record the first handlers of the plan, each on the value that is current. -/
  feeds : ∀ index step, report.steps[index]? = some step → ∃ registration,
    Ran registrations report.steps index registration step ∧
      Records capabilities proposal registration (report.steps.take index) step
  /-- A failed or unsupported decision leaves the current value. -/
  failures : ∀ index registration step, Ran registrations report.steps index registration step →
    Fails capabilities registration step.input →
    currentValue proposal (report.steps.take (index + 1)) =
      currentValue proposal (report.steps.take index)
  /-- A terminal step is the last one, and determines the outcome. -/
  stops : ∀ index registration step outcome, Ran registrations report.steps index registration step →
    terminalOutcome registration step.result = some outcome →
    report.steps.length = index + 1 ∧ report.outcome = outcome
  /-- Without a terminal step all handlers run, and the current value is the outcome. -/
  completes : (∀ index registration step, Ran registrations report.steps index registration step →
      terminalOutcome registration step.result = none) →
    report.steps.length = registrations.length ∧
      report.outcome = .decision (.continue (currentValue proposal report.steps))
  /-- The decision that the execution ends with is permitted. -/
  permits : ∀ decision, report.outcome = .decision decision → permitted decision

end Steps

end AgentMod
