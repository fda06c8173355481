import AgentMod.Library.Run
import Mathlib.Data.List.Sort

/-! The processes of the process host, and the capacity that it enforces in front of every start. -/

namespace AgentMod

/-- The bounds that a start is checked against. -/
structure ProcessCapacity where
  maxActiveProcesses : Nat
  maxCompletedEntries : Nat
  maxTotalRetainedBytes : UInt64

/-- Failures of a start that have to do with the capacity. -/
inductive ProcessStartError where
  | invalidOutputLimit
  | resourceLimit
  deriving DecidableEq, Repr

/-- What the registry knows of a process. -/
structure RegistryEntry where
  outputLimitBytes : UInt64
  running : Bool
  exited : Bool
  logsRemoved : Bool
  deriving DecidableEq

/-- `u64::checked_mul(2)`. -/
def checkedDouble (value : UInt64) : Option Nat :=
  if 2 * value.toNat < 2 ^ 64 then some (2 * value.toNat) else none

/-- `u64::saturating_mul(2)`. -/
def saturatingDouble (value : UInt64) : Nat := min (2 * value.toNat) (2 ^ 64 - 1)

namespace ProcessCapacity

/-- What `validate_start_request` asks of the output limit. -/
def validateOutputLimit (capacity : ProcessCapacity) (outputLimitBytes : UInt64) :
    Except ProcessStartError Unit :=
  refuseIf (outputLimitBytes = 0 ∨ outputLimitBytes.toNat > capacity.maxTotalRetainedBytes.toNat / 2)
    .invalidOutputLimit

/-- Adds the logs of an entry to the bytes that are retained. -/
def retainEntry (retained : Nat) (entry : RegistryEntry) : Except ProcessStartError Nat :=
  if entry.logsRemoved then .ok retained
  else if retained + saturatingDouble entry.outputLimitBytes < 2 ^ 64 then
    .ok (retained + saturatingDouble entry.outputLimitBytes)
  else .error .resourceLimit

/-- `enforce_capacity`. -/
def enforceCapacity (capacity : ProcessCapacity) (registry : List RegistryEntry) (requested : UInt64) :
    Except ProcessStartError Unit := do
  let requested ← okOr (checkedDouble requested) .resourceLimit
  let active := registry.countP (·.running)
  let retained ← registry.foldlM retainEntry requested
  refuseIf (active ≥ capacity.maxActiveProcesses ∨ retained > capacity.maxTotalRetainedBytes.toNat) .resourceLimit

end ProcessCapacity

/-- Where a start is, behind its check. -/
inductive StartPhase where
  | checked
  | spawned (running exited : Bool)
  deriving DecidableEq

/-- A start that has passed its check, and is not registered yet. -/
structure StartInFlight where
  processId : Nat
  outputLimitBytes : UInt64
  phase : StartPhase
  deriving DecidableEq

/-- The starts in flight, and the registry in the order of its process identities. -/
structure ProcessHost where
  nextProcessId : Nat
  starts : List StartInFlight
  registry : List (Nat × RegistryEntry)

/-- What happens to the processes of a host. -/
inductive ProcessAction where
  | check (outputLimitBytes : UInt64)
  | spawn (processId : Nat)
  | fail (processId : Nat)
  | register (processId : Nat)
  | exit (processId : Nat) (told : Bool)
  | removeLogs (processId : Nat)
  /-- `prune_completed_registry`, which passes over entries that are being written. -/
  | prune (locked : Nat → Bool)

namespace StartInFlight

/-- The process of a start is spawned. -/
def spawn (processId : Nat) (start : StartInFlight) : StartInFlight :=
  if start.processId = processId ∧ start.phase = .checked then { start with phase := .spawned true false }
  else start

/-- The process of a start runs. -/
def running (start : StartInFlight) : Bool :=
  match start.phase with
  | .checked => false
  | .spawned running _ => running

/-- The process of a start exits. -/
def exit (processId : Nat) (told : Bool) (start : StartInFlight) : StartInFlight :=
  if start.processId = processId ∧ start.running then { start with phase := .spawned false told } else start

/-- The entry by which a spawned process is registered. -/
def registered? (start : StartInFlight) : Option RegistryEntry :=
  match start.phase with
  | .checked => none
  | .spawned running exited => some ⟨start.outputLimitBytes, running, exited, false⟩

end StartInFlight

namespace RegistryEntry

/-- The process of an entry exits. -/
def exit (told : Bool) (entry : RegistryEntry) : RegistryEntry :=
  if entry.running then { entry with running := false, exited := told } else entry

/-- The logs of an entry are removed, once its process has exited. -/
def removeLogs (entry : RegistryEntry) : RegistryEntry :=
  if entry.running then entry else { entry with logsRemoved := true }

end RegistryEntry

/-- Changes the entry of a process. -/
def updateEntry (processId : Nat) (change : RegistryEntry → RegistryEntry) (registered : Nat × RegistryEntry) :
    Nat × RegistryEntry :=
  if registered.1 = processId then (registered.1, change registered.2) else registered

namespace ProcessHost

/-- The entries of the registry. -/
def entries (host : ProcessHost) : List RegistryEntry := host.registry.map Prod.snd

/-- The oldest entries of processes that have exited, as far as they are too many. -/
def excess (capacity : ProcessCapacity) (host : ProcessHost) (locked : Nat → Bool) : List Nat :=
  let completed := host.registry.filter fun registered => registered.2.exited && !locked registered.1
  (completed.take (completed.length - capacity.maxCompletedEntries)).map Prod.fst

/-- A start that has passed its check draws the next process identity. -/
def enlist (host : ProcessHost) (outputLimitBytes : UInt64) : ProcessHost :=
  { host with
    nextProcessId := host.nextProcessId + 1
    starts := host.starts ++ [⟨host.nextProcessId, outputLimitBytes, .checked⟩] }

/-- What a check answers. -/
def check (capacity : ProcessCapacity) (host : ProcessHost) (outputLimitBytes : UInt64) :
    Except ProcessStartError Unit := do
  capacity.validateOutputLimit outputLimitBytes
  capacity.enforceCapacity host.entries outputLimitBytes

/-- What becomes of a host. -/
def advance (capacity : ProcessCapacity) (host : ProcessHost) : ProcessAction → ProcessHost
  | .check outputLimitBytes =>
    match host.check capacity outputLimitBytes with
    | .ok () => host.enlist outputLimitBytes
    | .error _ => host
  | .spawn processId => { host with starts := host.starts.map (·.spawn processId) }
  | .fail processId => { host with starts := host.starts.filter (·.processId ≠ processId) }
  | .register processId =>
    match host.starts.find? fun start => start.processId = processId ∧ start.registered?.isSome with
    | some start =>
      match start.registered? with
      | some entry =>
        { host with
          starts := host.starts.erase start
          registry := host.registry.orderedInsert (fun left right => left.1 ≤ right.1) (processId, entry) }
      | none => host
    | none => host
  | .exit processId told =>
    { host with
      starts := host.starts.map (·.exit processId told)
      registry := host.registry.map (updateEntry processId (·.exit told)) }
  | .removeLogs processId => { host with registry := host.registry.map (updateEntry processId (·.removeLogs)) }
  | .prune locked =>
    { host with registry := host.registry.filter fun registered => registered.1 ∉ host.excess capacity locked }

/-- One step of a host. -/
def Advances (capacity : ProcessCapacity) (host : ProcessHost) (action : ProcessAction) (next : ProcessHost) : Prop :=
  next = host.advance capacity action

/-- How many processes run. -/
def running (host : ProcessHost) : Nat :=
  host.starts.countP (·.running) + host.entries.countP (·.running)

/-- The bytes that the logs of registered processes may take, as far as these are not removed. -/
def retained (host : ProcessHost) : Nat :=
  ((host.entries.filter (!·.logsRemoved)).map fun entry => 2 * entry.outputLimitBytes.toNat).sum

/-- How many starts have yet to spawn their processes. -/
def pending (host : ProcessHost) : Nat := host.starts.countP (·.phase = .checked)

/-- The bytes that the logs of starts in flight may take. -/
def reserved (host : ProcessHost) : Nat := (host.starts.map fun start => 2 * start.outputLimitBytes.toNat).sum

/-- A host within its capacity. -/
structure Within (capacity : ProcessCapacity) (host : ProcessHost) : Prop where
  running : host.running ≤ capacity.maxActiveProcesses
  retained : host.retained ≤ capacity.maxTotalRetainedBytes.toNat

/-- There is room for a start, next to the starts in flight. -/
structure Room (capacity : ProcessCapacity) (host : ProcessHost) (outputLimitBytes : UInt64) : Prop where
  running : host.running + host.pending < capacity.maxActiveProcesses
  retained : host.retained + host.reserved + 2 * outputLimitBytes.toNat ≤ capacity.maxTotalRetainedBytes.toNat

/-- A check is passed only where there is room next to the starts in flight. -/
def HasRoom (capacity : ProcessCapacity) (host : ProcessHost) : ProcessAction → Prop
  | .check outputLimitBytes => host.check capacity outputLimitBytes = .ok () → host.Room capacity outputLimitBytes
  | _ => True

end ProcessHost

end AgentMod
