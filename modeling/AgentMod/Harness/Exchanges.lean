import AgentMod.Library.Calls
import AgentMod.Primitives.Collections
import AgentMod.Primitives.Text

/-! The live provider exchanges of the harness, and how they are cancelled. -/

namespace AgentMod

/-- Provider execution failure before, or instead of, a collected event stream. -/
inductive ProviderExecutionDependencyError where
  | providerNotConfigured
  | invalidRequest (message : String)
  | eventLimitExceeded
  deriving DecidableEq

/-- The cancellation reference of a command that `validate_command` lets through. -/
structure CancellationReference where
  text : String
  present : isBlank text = false
  deriving DecidableEq

/-- A provider request, as far as its registration goes. -/
structure ProviderExecutionRequest where
  cancellationReference : CancellationReference
  checked : Except ProviderExecutionDependencyError Unit

/-- The exchanges of the live provider catalog: the shared cancellation flag of each reference. -/
structure LiveProviderExchanges where
  active : StringMap Flag
  cancelled : Flags

namespace LiveProviderExchanges

variable (exchanges : LiveProviderExchanges)

/-- The rejection of an exchange whose reference is in flight. -/
def duplicateReference : ProviderExecutionDependencyError :=
  .invalidRequest "duplicate in-flight cancellation reference"

/-- What `execute_provider` does before `execute_live`. -/
def register (request : ProviderExecutionRequest) :
    Except ProviderExecutionDependencyError Flag × LiveProviderExchanges :=
  match request.checked with
  | .error error => (.error error, exchanges)
  | .ok () =>
    let cancelled := exchanges.cancelled.next
    let reference := request.cancellationReference.text
    -- The insertion replaces what stood under the reference before this is looked at.
    let next := ⟨exchanges.active.insert reference cancelled, exchanges.cancelled.make⟩
    if exchanges.active.contains reference then (.error duplicateReference, next) else (.ok cancelled, next)

/-- What `execute_provider` does behind `execute_live`. -/
def unregister (reference : String) : LiveProviderExchanges :=
  { exchanges with active := exchanges.active.erase reference }

/-- `cancel_provider`. -/
def cancelProvider (cancellationReference : String) :
    Except ProviderExecutionDependencyError Bool × LiveProviderExchanges :=
  if isBlank cancellationReference then
    (.error (.invalidRequest "cancellation reference is required"), exchanges)
  else
    match exchanges.active[cancellationReference]? with
    | some token => (.ok true, { exchanges with cancelled := exchanges.cancelled.raise token })
    | none => (.ok false, exchanges)

/-- The live provider catalog as a host of its exchanges. -/
def host : CallHost LiveProviderExchanges CancellationReference ProviderExecutionRequest
    ProviderExecutionDependencyError Bool where
  initial := ⟨∅, ⟨[]⟩⟩
  reference := (·.cancellationReference)
  admits _ request := request.checked.isOk
  begin request exchanges := exchanges.register request
  finish reference exchanges := exchanges.unregister reference.text
  cancel reference exchanges := exchanges.cancelProvider reference.text
  succeeded answer := answer
  duplicate := duplicateReference
  registered exchanges reference := exchanges.active[reference.text]?
  flags := cancelled

end LiveProviderExchanges

end AgentMod
