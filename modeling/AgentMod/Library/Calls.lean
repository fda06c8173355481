import AgentMod.Library.Run
import Mathlib.Data.List.Nodup

/-! Calls that run under references by which they can be cancelled. -/

namespace AgentMod

/-- A shared flag, by its place among all flags that were made. -/
abbrev Flag := Nat

/-- The shared flags that were made, each raised or not. -/
structure Flags where
  raised : List Bool

namespace Flags

/-- The flag that is made next. -/
def next (flags : Flags) : Flag :=
  flags.raised.length

/-- Makes the next flag, which is not raised. -/
def make (flags : Flags) : Flags :=
  ⟨flags.raised ++ [false]⟩

/-- Raises a flag. -/
def raise (flags : Flags) (flag : Flag) : Flags :=
  ⟨flags.raised.set flag true⟩

/-- A flag is raised. -/
def isRaised (flags : Flags) (flag : Flag) : Bool :=
  flags.raised[flag]? == some true

@[simp]
theorem next_make (flags : Flags) : flags.make.next = flags.next + 1 :=
  List.length_append

@[simp]
theorem next_raise (flags : Flags) (flag : Flag) : (flags.raise flag).next = flags.next :=
  List.length_set

theorem isRaised_make {flags : Flags} {flag : Flag} (made : flag < flags.next) :
    flags.make.isRaised flag = flags.isRaised flag :=
  congrArg (· == some true) (List.getElem?_append_left made)

theorem isRaised_raise {flags : Flags} {flag : Flag} (made : flag < flags.next) :
    (flags.raise flag).isRaised flag = true := by
  have found : (flags.raised.set flag true)[flag]? = some true := List.getElem?_set_self made
  exact beq_iff_eq.mpr found

end Flags

/-- A call in flight: the reference it runs under, and the flag that it polls. -/
structure RunningCall (ρ : Type) where
  reference : ρ
  polled : Flag
  deriving DecidableEq

/-- What begins, ends and cancels calls. -/
structure CallHost (σ ρ β ε α : Type) where
  initial : σ
  reference : β → ρ
  admits : σ → β → Bool
  begin : β → σ → Except ε Flag × σ
  finish : ρ → σ → σ
  cancel : ρ → σ → Except ε α × σ
  succeeded : α → Bool
  duplicate : ε
  registered : σ → ρ → Option Flag
  flags : σ → Flags

/-- The next thing that happens to a host. -/
inductive CallAction (ρ β : Type) where
  | begin (request : β)
  | finish (call : RunningCall ρ)
  | cancel (reference : ρ)

/-- A host with the calls that are in flight there. -/
structure HostedCalls (σ ρ : Type) where
  state : σ
  running : List (RunningCall ρ)

namespace CallHost

variable {σ ρ β ε α : Type} [DecidableEq ρ] (host : CallHost σ ρ β ε α)

/-- A call begins or is rejected, a call in flight ends, or a reference is cancelled. -/
inductive Performs : HostedCalls σ ρ → CallAction ρ β → HostedCalls σ ρ → Prop where
  | registered {state next : σ} {running : List (RunningCall ρ)} {request : β} {flag : Flag} :
      host.begin request state = (.ok flag, next) →
      Performs ⟨state, running⟩ (.begin request) ⟨next, running ++ [⟨host.reference request, flag⟩]⟩
  | rejected {state next : σ} {running : List (RunningCall ρ)} {request : β} {error : ε} :
      host.begin request state = (.error error, next) →
      Performs ⟨state, running⟩ (.begin request) ⟨next, running⟩
  | finished {state : σ} {running : List (RunningCall ρ)} {call : RunningCall ρ} :
      call ∈ running →
      Performs ⟨state, running⟩ (.finish call) ⟨host.finish call.reference state, running.erase call⟩
  | cancelled {state : σ} {running : List (RunningCall ρ)} {reference : ρ} :
      Performs ⟨state, running⟩ (.cancel reference) ⟨(host.cancel reference state).2, running⟩

/-- What is in flight after some actions. -/
abbrev Reaches (actions : List (CallAction ρ β)) (calls : HostedCalls σ ρ) : Prop :=
  Run host.Performs ⟨host.initial, []⟩ actions calls

/-- Cancelling the reference of a call in flight succeeds and raises the flag that this call polls. -/
def Cancellable (calls : HostedCalls σ ρ) : Prop :=
  ∀ call ∈ calls.running,
    (∃ answer, (host.cancel call.reference calls.state).1 = .ok answer ∧ host.succeeded answer) ∧
    (host.flags (host.cancel call.reference calls.state).2).isRaised call.polled

/-- A call that is rejected as a duplicate leaves what is registered, and the flags that calls poll. -/
def Undisturbed (calls : HostedCalls σ ρ) (request : β) : Prop :=
  ∀ next, host.begin request calls.state = (.error host.duplicate, next) →
    host.registered next = host.registered calls.state ∧
    ∀ call ∈ calls.running,
      (host.flags next).isRaised call.polled = (host.flags calls.state).isRaised call.polled

/-- Cancellation reaches the calls in flight, all along some actions. -/
structure CancellationReaches (actions : List (CallAction ρ β)) : Prop where
  cancellable : ∀ front back calls, actions = front ++ back → host.Reaches front calls →
    host.Cancellable calls
  undisturbed : ∀ front request back calls, actions = front ++ .begin request :: back →
    host.Reaches front calls → host.Undisturbed calls request

/-- No call that is admitted begins under the reference of a call in flight. -/
def Unrepeated (actions : List (CallAction ρ β)) : Prop :=
  ∀ front request back calls, actions = front ++ .begin request :: back → host.Reaches front calls →
    host.admits calls.state request → ∀ call ∈ calls.running, call.reference ≠ host.reference request

/-- The table with a reference that leads to a flag, or to none. -/
def pointed (registered : ρ → Option Flag) (reference : ρ) (flag : Option Flag) : ρ → Option Flag :=
  fun other => if other = reference then flag else registered other

/-- What the beginning of a call does to a host that lets a duplicate take the place of the call in flight. -/
inductive Begins (request : β) (before : σ) : Except ε Flag × σ → Prop where
  /-- The call is not admitted: nothing is registered, and a flag may have been made in vain. -/
  | refused {error : ε} {after : σ} :
      host.admits before request = false →
      host.registered after = host.registered before →
      host.flags after = host.flags before ∨ host.flags after = (host.flags before).make →
      Begins request before (.error error, after)
  /-- The reference is free: the call polls a new flag, which is registered. -/
  | registered {after : σ} :
      host.admits before request → host.registered before (host.reference request) = none →
      host.registered after =
        pointed (host.registered before) (host.reference request) (host.flags before).next →
      host.flags after = (host.flags before).make →
      Begins request before (.ok (host.flags before).next, after)
  /-- The reference is taken: a new flag is registered, and no call polls it. -/
  | displaced {flag : Flag} {after : σ} :
      host.admits before request → host.registered before (host.reference request) = some flag →
      host.registered after =
        pointed (host.registered before) (host.reference request) (host.flags before).next →
      host.flags after = (host.flags before).make →
      Begins request before (.error host.duplicate, after)

/-- What a cancellation does to a host. -/
inductive Cancels (reference : ρ) (before : σ) : Except ε α × σ → Prop where
  | unknown {answer : Except ε α} :
      host.registered before reference = none → Cancels reference before (answer, before)
  | raised {flag : Flag} {answer : α} {after : σ} :
      host.registered before reference = some flag → host.succeeded answer →
      host.registered after = host.registered before →
      host.flags after = (host.flags before).raise flag →
      Cancels reference before (.ok answer, after)

/-- A host that keeps a table of the flags of its calls. -/
structure Registers : Prop where
  initial : ∀ reference, host.registered host.initial reference = none
  begins : ∀ request state, host.Begins request state (host.begin request state)
  finishes : ∀ reference state,
    host.registered (host.finish reference state) = pointed (host.registered state) reference none ∧
    host.flags (host.finish reference state) = host.flags state
  cancels : ∀ reference state, host.Cancels reference state (host.cancel reference state)

/-- The table of a host speaks of the references of the calls in flight. -/
structure Tracked (calls : HostedCalls σ ρ) : Prop where
  distinct : (calls.running.map (·.reference)).Nodup
  listed : ∀ call ∈ calls.running, ∃ flag, host.registered calls.state call.reference = some flag
  running : ∀ reference flag, host.registered calls.state reference = some flag →
    ∃ call ∈ calls.running, call.reference = reference
  made : ∀ reference flag, host.registered calls.state reference = some flag →
    flag < (host.flags calls.state).next

/-- The table of a host leads to the flags that the calls in flight poll. -/
def Linked (calls : HostedCalls σ ρ) : Prop :=
  ∀ call ∈ calls.running, host.registered calls.state call.reference = some call.polled

variable {host} {before after : HostedCalls σ ρ} {action : CallAction ρ β}

theorem pointed_apply (registered : ρ → Option Flag) (reference : ρ) (flag : Option Flag) (other : ρ) :
    pointed registered reference flag other = if other = reference then flag else registered other := rfl

theorem made_of_pointed {registered : ρ → Option Flag} {reference other : ρ} {flags : Flags} {flag : Flag}
    (made : ∀ reference flag, registered reference = some flag → flag < flags.next)
    (found : pointed registered reference flags.next other = some flag) : flag < flags.make.next := by
  rw [Flags.next_make]
  rw [pointed_apply] at found
  split at found
  · cases found
    exact Nat.lt_succ_self _
  · exact (made _ _ found).trans (Nat.lt_succ_self _)

/-- Every action keeps track of the calls in flight. -/
theorem Registers.tracked (registers : host.Registers) (track : host.Tracked before)
    (performed : host.Performs before action after) : host.Tracked after := by
  obtain ⟨distinct, listed, running, made⟩ := track
  cases performed with
  | @registered state next calls request flag begins =>
    have spec := registers.begins request state
    rw [begins] at spec
    cases spec with
    | registered admitted free same flags =>
      refine ⟨?_, fun call inside => ?_, fun reference flag found => ?_, fun reference flag found => ?_⟩
      · rw [List.map_append, List.nodup_append]
        refine ⟨distinct, by simp, fun reference inside other same => ?_⟩
        obtain ⟨call, member, rfl⟩ := List.mem_map.mp inside
        obtain ⟨flag, found⟩ := listed call member
        rintro rfl
        rw [List.map_singleton, List.mem_singleton] at same
        rw [same, free] at found
        cases found
      · rw [same, pointed_apply]
        split
        · exact ⟨_, rfl⟩
        · next apart =>
          rcases List.mem_append.mp inside with earlier | new
          · exact listed call earlier
          · exact absurd (congrArg RunningCall.reference (List.mem_singleton.mp new)) apart
      · rw [same, pointed_apply] at found
        split at found
        · next same => exact ⟨_, List.mem_append_right _ (List.mem_singleton_self _), same.symm⟩
        · obtain ⟨call, inside, same⟩ := running _ _ found
          exact ⟨call, List.mem_append_left _ inside, same⟩
      · rw [same] at found
        rw [flags]
        exact made_of_pointed made found
  | @rejected state next calls request error begins =>
    have spec := registers.begins request state
    rw [begins] at spec
    cases spec with
    | refused refused same flags =>
      refine ⟨distinct, by rwa [same], by rwa [same], fun reference flag found => ?_⟩
      have below := made reference flag (by rwa [same] at found)
      rcases flags with flags | flags
      · rwa [flags]
      · rw [flags, Flags.next_make]
        exact below.trans (Nat.lt_succ_self _)
    | displaced admitted taken same flags =>
      refine ⟨distinct, fun call inside => ?_, fun reference flag found => ?_, fun reference flag found => ?_⟩
      · rw [same, pointed_apply]
        split
        · exact ⟨_, rfl⟩
        · exact listed call inside
      · rw [same, pointed_apply] at found
        split at found
        · next named => exact named ▸ running _ _ taken
        · exact running _ _ found
      · rw [same] at found
        rw [flags]
        exact made_of_pointed made found
  | @finished state calls call member =>
    obtain ⟨same, flags⟩ := registers.finishes call.reference state
    have remains : ∀ other ∈ calls, other ≠ call → other.reference ≠ call.reference :=
      fun other inside apart named => apart (List.inj_on_of_nodup_map distinct inside member named)
    refine ⟨distinct.sublist (List.erase_sublist.map _), fun other inside => ?_, fun reference flag found => ?_,
      fun reference flag found => ?_⟩
    · have apart : other ≠ call := by
        rintro rfl
        exact (List.Nodup.of_map _ distinct).not_mem_erase inside
      rw [same, pointed_apply, if_neg (remains other (List.mem_of_mem_erase inside) apart)]
      exact listed other (List.mem_of_mem_erase inside)
    · rw [same, pointed_apply] at found
      split at found
      · cases found
      · next apart =>
        obtain ⟨other, inside, rfl⟩ := running _ _ found
        exact ⟨other, (List.mem_erase_of_ne fun same => apart (congrArg _ same)).mpr inside, rfl⟩
    · rw [same, pointed_apply] at found
      split at found
      · cases found
      · rw [flags]
        exact made _ _ found
  | @cancelled state calls reference =>
    have spec := registers.cancels reference state
    generalize host.cancel reference state = answered at spec
    cases spec with
    | unknown => exact ⟨distinct, listed, running, made⟩
    | raised taken succeeded same flags =>
      refine ⟨distinct, by rwa [same], by rwa [same], ?_⟩
      rw [same, flags, Flags.next_raise]
      exact made

/-- An action keeps the links, unless it begins a call under the reference of one in flight. -/
theorem Registers.linked (registers : host.Registers) (track : host.Tracked before)
    (linked : host.Linked before) (performed : host.Performs before action after)
    (fresh : ∀ request, action = .begin request → host.admits before.state request →
      ∀ call ∈ before.running, call.reference ≠ host.reference request) : host.Linked after := by
  cases performed with
  | @registered state next calls request flag begins =>
    have spec := registers.begins request state
    rw [begins] at spec
    cases spec with
    | registered admitted free same flags =>
      intro call inside
      rw [same, pointed_apply]
      rcases List.mem_append.mp inside with earlier | new
      · rw [if_neg (fresh request rfl admitted call earlier)]
        exact linked call earlier
      · rw [List.mem_singleton.mp new, if_pos rfl]
  | @rejected state next calls request error begins =>
    have spec := registers.begins request state
    rw [begins] at spec
    cases spec with
    | refused refused same flags => exact fun call inside => same ▸ linked call inside
    | displaced admitted taken same flags =>
      obtain ⟨call, inside, named⟩ := track.running _ _ taken
      exact absurd named (fresh request rfl admitted call inside)
  | @finished state calls call member =>
    intro other inside
    have apart : other ≠ call := by
      rintro rfl
      exact (List.Nodup.of_map _ track.distinct).not_mem_erase inside
    rw [(registers.finishes _ _).1, pointed_apply, if_neg fun named =>
      apart (List.inj_on_of_nodup_map track.distinct (List.mem_of_mem_erase inside) member named)]
    exact linked other (List.mem_of_mem_erase inside)
  | @cancelled state calls reference =>
    have spec := registers.cancels reference state
    generalize host.cancel reference state = answered at spec
    cases spec with
    | unknown => exact linked
    | raised taken succeeded same flags => exact fun call inside => same ▸ linked call inside

theorem Registers.tracked_of_reaches (registers : host.Registers) {actions : List (CallAction ρ β)}
    {calls : HostedCalls σ ρ} (reached : host.Reaches actions calls) : host.Tracked calls :=
  Run.invariant reached
    ⟨List.nodup_nil, nofun, fun reference _ found => absurd (registers.initial reference ▸ found) nofun,
      fun reference _ found => absurd (registers.initial reference ▸ found) nofun⟩
    fun _ _ _ performed track => registers.tracked track performed

theorem Registers.linked_of_reaches (registers : host.Registers) {actions : List (CallAction ρ β)}
    {calls : HostedCalls σ ρ} (reached : host.Reaches actions calls) (fresh : host.Unrepeated actions) :
    host.Linked calls := by
  induction reached with
  | nil => exact nofun
  | @snoc labels action before after earlier performed ih =>
    have within : host.Unrepeated labels := fun front request back calls split =>
      fresh front request (back ++ [action]) calls (by rw [split, List.append_assoc, List.cons_append])
    refine registers.linked (registers.tracked_of_reaches earlier) (ih within) performed ?_
    rintro request rfl
    exact fresh labels request [] before rfl earlier

theorem Registers.cancellable (registers : host.Registers) {calls : HostedCalls σ ρ}
    (track : host.Tracked calls) (linked : host.Linked calls) : host.Cancellable calls := by
  intro call inside
  have found := linked call inside
  have spec := registers.cancels call.reference calls.state
  generalize host.cancel call.reference calls.state = answered at spec ⊢
  cases spec with
  | unknown free => exact absurd (found.symm.trans free) nofun
  | raised taken succeeded same flags =>
    cases found.symm.trans taken
    exact ⟨⟨_, rfl, succeeded⟩, flags ▸ Flags.isRaised_raise (track.made _ _ found)⟩

theorem Registers.not_undisturbed (registers : host.Registers) {calls : HostedCalls σ ρ} {request : β}
    (track : host.Tracked calls) (admitted : host.admits calls.state request) {call : RunningCall ρ}
    (inside : call ∈ calls.running) (named : call.reference = host.reference request) :
    ¬ host.Undisturbed calls request := by
  intro undisturbed
  obtain ⟨old, found⟩ := track.listed call inside
  have spec := registers.begins request calls.state
  generalize began : host.begin request calls.state = answered at spec
  cases spec with
  | refused refused => rw [admitted] at refused; cases refused
  | registered _ free => rw [← named, found] at free; cases free
  | displaced _ taken same flags =>
    have kept := congrFun (undisturbed _ began).1 (host.reference request)
    rw [same, pointed_apply, if_pos rfl, taken] at kept
    have made := track.made _ _ taken
    rw [← Option.some.inj kept] at made
    exact lt_irrefl _ made

/-- Cancellation reaches the calls in flight exactly as long as no admitted call begins under the
reference of a call in flight. -/
theorem Registers.cancellationReaches_iff (registers : host.Registers) (actions : List (CallAction ρ β)) :
    host.CancellationReaches actions ↔ host.Unrepeated actions := by
  constructor
  · -- The first duplicate already disturbs what is registered for the call in flight.
    intro reaches front request back calls split reached admitted call inside named
    exact registers.not_undisturbed (registers.tracked_of_reaches reached) admitted inside named
      (reaches.undisturbed front request back calls split reached)
  · intro fresh
    have linked : ∀ front back calls, actions = front ++ back → host.Reaches front calls →
        host.Linked calls := fun front back calls split reached =>
      registers.linked_of_reaches reached fun earlier request later calls splits =>
        fresh earlier request (later ++ back) calls (by rw [split, splits, List.append_assoc, List.cons_append])
    refine ⟨fun front back calls split reached =>
      registers.cancellable (registers.tracked_of_reaches reached) (linked front back calls split reached),
      fun front request back calls split reached next began => ?_⟩
    have track := registers.tracked_of_reaches reached
    have spec := registers.begins request calls.state
    rw [began] at spec
    cases spec with
    | refused _ same flags =>
      refine ⟨same, fun call inside => ?_⟩
      rcases flags with flags | flags
      · rw [flags]
      · rw [flags, Flags.isRaised_make (track.made _ _ (linked front _ calls split reached call inside))]
    | displaced admitted taken =>
      obtain ⟨call, inside, named⟩ := track.running _ _ taken
      exact absurd named (fresh front request back calls split reached admitted call inside)

end CallHost

end AgentMod
