import AgentMod.Process.Capacity
import Mathlib.Algebra.Order.BigOperators.Group.List

/-! A host stays within its capacity as long as every check leaves room for the starts in flight. -/

namespace AgentMod

section Starts

variable {starts : List StartInFlight} {start : StartInFlight} {processId : Nat}

/-- A start has spawned a process that runs, or has yet to spawn it. -/
def StartInFlight.claims (start : StartInFlight) : Bool := start.running || decide (start.phase = .checked)

theorem StartInFlight.not_running (checked : start.phase = .checked) : start.running = false := by
  rw [running, checked]

theorem countP_claims (starts : List StartInFlight) :
    starts.countP (·.running) + starts.countP (·.phase = .checked) = starts.countP (·.claims) := by
  induction starts with
  | nil => rfl
  | cons start rest ih =>
    simp only [List.countP_cons, StartInFlight.claims, decide_eq_true_eq, Bool.or_eq_true] at ih ⊢
    by_cases checked : start.phase = .checked
    · have idle := StartInFlight.not_running checked
      simp only [checked, idle]
      simp
      omega
    · simp only [checked]
      cases start.running <;> simp <;> omega

@[simp] theorem StartInFlight.claims_spawn (start : StartInFlight) :
    (start.spawn processId).claims = start.claims := by
  rw [spawn]
  split
  · rename_i own
    rw [claims, claims, own.2]
    simp [running]
  · rfl

theorem StartInFlight.claims_exit {told : Bool} (claimed : (start.exit processId told).claims) : start.claims := by
  rw [exit] at claimed
  split at claimed
  · simp [claims, running] at claimed
  · exact claimed

@[simp] theorem StartInFlight.outputLimitBytes_spawn (start : StartInFlight) :
    (start.spawn processId).outputLimitBytes = start.outputLimitBytes := by
  rw [spawn]
  split <;> rfl

@[simp] theorem StartInFlight.outputLimitBytes_exit {told : Bool} (start : StartInFlight) :
    (start.exit processId told).outputLimitBytes = start.outputLimitBytes := by
  rw [exit]
  split <;> rfl

theorem StartInFlight.registered?_eq_some {entry : RegistryEntry} (registers : start.registered? = some entry) :
    entry.outputLimitBytes = start.outputLimitBytes ∧ entry.running = start.running ∧
      start.claims = start.running ∧ entry.logsRemoved = false := by
  rw [registered?] at registers
  split at registers
  · cases registers
  · rename_i spawned
    cases registers
    simp [running, claims, spawned]

end Starts

namespace ProcessHost

variable {capacity : ProcessCapacity} {host next : ProcessHost}

/-- The processes that run, and those that starts in flight have yet to spawn. -/
def claimed (host : ProcessHost) : Nat :=
  host.starts.countP (·.claims) + host.entries.countP (·.running)

/-- The bytes that the logs of registered processes and of starts in flight may take. -/
def held (host : ProcessHost) : Nat := host.retained + host.reserved

theorem running_add_pending (host : ProcessHost) : host.running + host.pending = host.claimed := by
  rw [running, pending, claimed, ← countP_claims]
  omega

/-- A host all of whose claims are within the capacity. -/
structure Claims (capacity : ProcessCapacity) (host : ProcessHost) : Prop where
  claimed : host.claimed ≤ capacity.maxActiveProcesses
  held : host.held ≤ capacity.maxTotalRetainedBytes.toNat

theorem Claims.within (claims : host.Claims capacity) : host.Within capacity where
  running := le_trans (Nat.le_add_right _ host.pending) (running_add_pending host ▸ claims.claimed)
  retained := le_trans (Nat.le_add_right _ host.reserved) claims.held

theorem Within.claims (within : host.Within capacity) (idle : host.starts = []) : host.Claims capacity where
  claimed := by
    rw [← running_add_pending, pending, idle]
    exact within.running
  held := by
    rw [held, reserved, idle]
    exact within.retained

/-- One of two hosts claims at most what the other does. -/
structure ClaimsAtMost (next host : ProcessHost) : Prop where
  claimed : next.claimed ≤ host.claimed
  held : next.held ≤ host.held

theorem Claims.mono (claims : host.Claims capacity) (less : next.ClaimsAtMost host) : next.Claims capacity :=
  ⟨less.claimed.trans claims.claimed, less.held.trans claims.held⟩

/-- The bytes that the logs of an entry may take. -/
def logBytes (entry : RegistryEntry) : Nat := if entry.logsRemoved then 0 else 2 * entry.outputLimitBytes.toNat

theorem retained_eq (host : ProcessHost) : host.retained = (host.entries.map logBytes).sum := by
  rw [retained]
  induction host.entries with
  | nil => rfl
  | cons entry rest ih => cases removed : entry.logsRemoved <;> simp [removed, logBytes, ih]

theorem claimsAtMost_update {change : RegistryEntry → RegistryEntry} {processId : Nat} {starts : List StartInFlight}
    (runs : ∀ entry, (change entry).running → entry.running) (logs : ∀ entry, logBytes (change entry) ≤ logBytes entry)
    (claims : starts.countP (·.claims) ≤ host.starts.countP (·.claims))
    (bytes : (starts.map fun start => 2 * start.outputLimitBytes.toNat).sum ≤ host.reserved) :
    ClaimsAtMost { host with starts, registry := host.registry.map (updateEntry processId change) } host where
  claimed := by
    refine Nat.add_le_add claims ?_
    simp only [entries, List.map_map, List.countP_map]
    refine List.countP_mono_left fun registered _ => ?_
    simp only [Function.comp, updateEntry]
    split
    · exact runs registered.2
    · exact id
  held := by
    refine Nat.add_le_add ?_ bytes
    simp only [retained_eq, entries, List.map_map]
    refine List.sum_le_sum fun registered _ => ?_
    simp only [Function.comp, updateEntry]
    split
    · exact logs registered.2
    · exact le_rfl

theorem claimsAtMost_of_sublist {starts : List StartInFlight} {registry : List (Nat × RegistryEntry)}
    (fewer : starts.Sublist host.starts) (pruned : registry.Sublist host.registry) :
    ClaimsAtMost { host with starts, registry } host where
  claimed := Nat.add_le_add (fewer.countP_le) ((pruned.map Prod.snd).countP_le)
  held := by
    have entries := (pruned.map Prod.snd).map logBytes
    have limits := fewer.map fun start => 2 * start.outputLimitBytes.toNat
    rw [held, held, retained_eq, retained_eq]
    exact Nat.add_le_add (entries.sum_le_sum fun _ _ => Nat.zero_le _) (limits.sum_le_sum fun _ _ => Nat.zero_le _)

theorem register_of_entry (capacity : ProcessCapacity) {processId : Nat} {start : StartInFlight} {entry : RegistryEntry}
    (found : (host.starts.find? fun start => start.processId = processId ∧ start.registered?.isSome) = some start)
    (registers : start.registered? = some entry) :
    host.advance capacity (.register processId) =
      { host with
        starts := host.starts.erase start
        registry := host.registry.orderedInsert (fun left right => left.1 ≤ right.1) (processId, entry) } := by
  rw [advance, found]
  dsimp only
  rw [registers]

theorem register_claims {processId : Nat} {start : StartInFlight} {entry : RegistryEntry}
    (member : start ∈ host.starts) (registers : start.registered? = some entry)
    (registered : next = { host with
      starts := host.starts.erase start
      registry := host.registry.orderedInsert (fun left right => left.1 ≤ right.1) (processId, entry) }) :
    next.claimed = host.claimed ∧ next.held = host.held := by
  subst registered
  obtain ⟨limit, runs, claims, kept⟩ := StartInFlight.registered?_eq_some registers
  have split := List.perm_cons_erase member
  have inserted := (List.perm_orderedInsert (fun left right : Nat × RegistryEntry => left.1 ≤ right.1)
    (processId, entry) host.registry).map Prod.snd
  constructor
  · simp only [claimed, entries]
    rw [inserted.countP_eq, split.countP_eq, List.map_cons, List.countP_cons, List.countP_cons, runs, claims]
    omega
  · simp only [held, retained_eq, reserved, entries]
    rw [(inserted.map logBytes).sum_eq, (split.map _).sum_eq, List.map_cons, List.map_cons, List.map_cons,
      List.sum_cons, List.sum_cons, logBytes, kept, limit]
    simp only [Bool.false_eq_true, if_false]
    omega

theorem ClaimsAtMost.refl (host : ProcessHost) : ClaimsAtMost host host := ⟨le_rfl, le_rfl⟩

/-- No step but a check that passes claims anything. -/
theorem claimsAtMost_advance {action : ProcessAction}
    (unchecked : ∀ limit, action = .check limit → host.check capacity limit ≠ .ok ()) :
    ClaimsAtMost (host.advance capacity action) host := by
  cases action with
  | check limit =>
    rw [advance]
    split
    · exact absurd ‹_› (unchecked limit rfl)
    · exact .refl host
  | spawn processId =>
    constructor
    · simp [advance, claimed, entries, List.countP_map, Function.comp_def]
    · simp [advance, held, retained_eq, reserved, entries, Function.comp_def]
  | fail processId => exact claimsAtMost_of_sublist List.filter_sublist (List.Sublist.refl _)
  | register processId =>
    rw [advance]
    split
    · split
      · exact ⟨(register_claims (List.mem_of_find?_eq_some ‹_›) ‹_› rfl).1.le,
          (register_claims (List.mem_of_find?_eq_some ‹_›) ‹_› rfl).2.le⟩
      · exact .refl host
    · exact .refl host
  | exit processId told =>
    refine claimsAtMost_update (fun entry => ?_) (fun entry => ?_) ?_ ?_
    · rw [RegistryEntry.exit]
      split
      · exact fun _ => ‹_›
      · exact id
    · rw [RegistryEntry.exit, logBytes, logBytes]
      split <;> exact le_rfl
    · rw [List.countP_map]
      exact List.countP_mono_left fun start _ => StartInFlight.claims_exit
    · simp [reserved, Function.comp_def]
  | removeLogs processId =>
    refine claimsAtMost_update (fun entry => ?_) (fun entry => ?_) le_rfl le_rfl
    · rw [RegistryEntry.removeLogs]
      split <;> exact id
    · rw [RegistryEntry.removeLogs]
      split
      · exact le_rfl
      · exact Nat.zero_le _
  | prune locked => exact claimsAtMost_of_sublist (List.Sublist.refl _) List.filter_sublist

theorem admit_claims (host : ProcessHost) (limit : UInt64) :
    (host.enlist limit).claimed = host.claimed + 1 ∧ (host.enlist limit).held = host.held + 2 * limit.toNat := by
  constructor
  · simp [enlist, claimed, entries, StartInFlight.claims]
    omega
  · simp [enlist, held, retained_eq, reserved, entries]
    omega

theorem Claims.advance (claims : host.Claims capacity) {action : ProcessAction}
    (room : host.HasRoom capacity action) : (host.advance capacity action).Claims capacity := by
  by_cases passes : ∃ limit, action = .check limit ∧ host.check capacity limit = .ok ()
  · obtain ⟨limit, rfl, passes⟩ := passes
    have left := room passes
    have admitted : host.advance capacity (.check limit) = host.enlist limit := by rw [ProcessHost.advance, passes]
    rw [admitted]
    constructor
    · rw [(admit_claims host limit).1, ← running_add_pending]
      exact left.running
    · rw [(admit_claims host limit).2]
      exact left.retained
  · refine claims.mono (claimsAtMost_advance fun limit same passed => passes ⟨limit, same, passed⟩)

theorem sum_of_foldlM {entries : List RegistryEntry} {start total : Nat}
    (bounded : ∀ entry ∈ entries, logBytes entry < 2 ^ 64)
    (summed : entries.foldlM ProcessCapacity.retainEntry start = .ok total) :
    total = start + (entries.map logBytes).sum := by
  induction entries generalizing start with
  | nil =>
    cases summed
    rfl
  | cons entry rest ih =>
    rw [List.foldlM_cons, bind_eq_ok] at summed
    obtain ⟨more, added, summed⟩ := summed
    have behind := ih (fun other member => bounded other (List.mem_cons_of_mem entry member)) summed
    have own := bounded entry List.mem_cons_self
    rw [List.map_cons, List.sum_cons, ← Nat.add_assoc, behind]
    congr 1
    rw [ProcessCapacity.retainEntry] at added
    split at added
    · cases added
      rw [logBytes, if_pos ‹_›]
      rfl
    · rename_i kept
      rw [logBytes, if_neg kept] at own ⊢
      split at added
      · cases added
        rw [saturatingDouble]
        omega
      · cases added

theorem Within.room (within : host.Within capacity) (idle : host.starts = []) {limit : UInt64}
    (passes : host.check capacity limit = .ok ()) : host.Room capacity limit := by
  simp only [check, ProcessCapacity.enforceCapacity, bind_eq_ok, exists_unit, refuseIf_eq_ok, okOr_eq_ok, not_or,
    not_le, not_lt, ge_iff_le, gt_iff_lt] at passes
  obtain ⟨-, requested, doubled, retained, summed, active, fits⟩ := passes
  have bounded : ∀ entry ∈ host.entries, logBytes entry < 2 ^ 64 := by
    intro entry member
    have single : logBytes entry ≤ (host.entries.map logBytes).sum :=
      List.single_le_sum (fun _ _ => Nat.zero_le _) _ (List.mem_map_of_mem member)
    have kept := within.retained
    rw [retained_eq] at kept
    have word := capacity.maxTotalRetainedBytes.toNat_lt
    omega
  have total := sum_of_foldlM bounded summed
  rw [checkedDouble] at doubled
  constructor
  · rw [ProcessHost.running, pending, idle]
    simpa using active
  · rw [retained_eq, reserved, idle]
    split at doubled
    · cases doubled
      simp only [List.map_nil, List.sum_nil]
      omega
    · cases doubled

theorem exists_spawned (capacity : ProcessCapacity) (processIds : List Nat) (host : ProcessHost) : ∃ next,
    Run (Advances capacity) host (processIds.map .spawn) next ∧ next.claimed = host.claimed ∧
      next.held = host.held ∧
      ∀ start ∈ next.starts, start.phase = .checked → start.processId ∉ processIds ∧ start ∈ host.starts := by
  induction processIds generalizing host with
  | nil => exact ⟨host, .nil, rfl, rfl, fun start member _ => ⟨List.not_mem_nil, member⟩⟩
  | cons processId rest ih =>
    obtain ⟨next, run, claimed, held, waiting⟩ := ih (host.advance capacity (.spawn processId))
    refine ⟨next, (Run.nil.snoc rfl).append run, claimed.trans ?_, held.trans ?_, fun start member checked => ?_⟩
    · simp [advance, ProcessHost.claimed, entries, List.countP_map, Function.comp_def]
    · simp [advance, ProcessHost.held, retained_eq, reserved, entries, Function.comp_def]
    · obtain ⟨other, unspawned⟩ := waiting start member checked
      obtain ⟨earlier, known, same⟩ := List.mem_map.mp unspawned
      rw [StartInFlight.spawn] at same
      split at same
      · rw [← same] at checked
        cases checked
      · rename_i unlike
        subst same
        exact ⟨fun among => (List.mem_cons.mp among).elim (fun own => unlike ⟨own, checked⟩) other, known⟩

theorem exists_registered (capacity : ProcessCapacity) (host : ProcessHost) (spawned : ∀ start ∈ host.starts, start.phase ≠ .checked) :
    ∃ actions next, Run (Advances capacity) host actions next ∧ next.claimed = host.claimed ∧
      next.held = host.held ∧ next.starts = [] := by
  induction inFlight : host.starts.length generalizing host with
  | zero => exact ⟨[], host, .nil, rfl, rfl, List.length_eq_zero_iff.mp inFlight⟩
  | succ count ih =>
    have registrable : ∀ start ∈ host.starts, start.registered?.isSome := by
      intro start member
      have past := spawned start member
      rw [StartInFlight.registered?]
      split
      · exact absurd ‹_› past
      · rfl
    obtain ⟨first, member⟩ := List.exists_mem_of_length_pos (by rw [inFlight]; exact count.succ_pos)
    have findable : (host.starts.find? fun start =>
        start.processId = first.processId ∧ start.registered?.isSome).isSome :=
      List.find?_isSome.mpr ⟨first, member, decide_eq_true ⟨rfl, registrable first member⟩⟩
    obtain ⟨start, found⟩ := Option.isSome_iff_exists.mp findable
    have known := List.mem_of_find?_eq_some found
    obtain ⟨entry, registers⟩ := Option.isSome_iff_exists.mp (registrable start known)
    have registered := register_of_entry capacity found registers
    obtain ⟨claimed, held⟩ := register_claims known registers registered
    have fewer : (host.advance capacity (.register first.processId)).starts = host.starts.erase start := by
      rw [registered]
    obtain ⟨actions, next, run, sameClaimed, sameHeld, idle⟩ :=
      ih (host.advance capacity (.register first.processId))
        (fun other kept => spawned other (List.mem_of_mem_erase (fewer ▸ kept)))
        (by rw [fewer, List.length_erase_of_mem known, inFlight]; rfl)
    exact ⟨_, next, (Run.nil.snoc rfl).append run, sameClaimed.trans claimed, sameHeld.trans held, idle⟩

theorem exists_settled (capacity : ProcessCapacity) (host : ProcessHost) : ∃ actions next, Run (Advances capacity) host actions next ∧
    next.running = host.claimed ∧ next.retained = host.held := by
  obtain ⟨middle, spawns, claimed, held, waiting⟩ := exists_spawned capacity
    (host.starts.map (·.processId)) host
  obtain ⟨actions, next, registers, sameClaimed, sameHeld, idle⟩ := exists_registered capacity middle
    fun start member checked =>
      (waiting start member checked).1 (List.mem_map_of_mem (waiting start member checked).2)
  refine ⟨_, next, spawns.append registers, ?_, ?_⟩
  · rw [← claimed, ← sameClaimed, ← running_add_pending, pending, idle]
    rfl
  · rw [← held, ← sameHeld, ProcessHost.held, reserved, idle]
    rfl

theorem run_foldl (capacity : ProcessCapacity) (host : ProcessHost) (actions : List ProcessAction) :
    Run (Advances capacity) host actions (actions.foldl (advance capacity) host) := by
  induction actions using List.reverseRecOn with
  | nil => exact .nil
  | append_singleton earlier action ih =>
    rw [List.foldl_append]
    exact ih.snoc rfl

end ProcessHost

section Capacity

variable {capacity : ProcessCapacity} {host : ProcessHost}

/-- A step that leaves room for the starts in flight. -/
def ProcessHost.AdvancesWithRoom (capacity : ProcessCapacity) (host : ProcessHost) (action : ProcessAction)
    (next : ProcessHost) : Prop :=
  host.Advances capacity action next ∧ host.HasRoom capacity action

/-- Whenever every check leaves room for the starts in flight, a host stays within its capacity. Every check that
does not can be followed by steps that lead beyond it, and a check that no other start is in flight for does. -/
theorem within_capacity (within : host.Within capacity) (idle : host.starts = []) :
    (∀ actions finish, Run (ProcessHost.AdvancesWithRoom capacity) host actions finish → finish.Within capacity) ∧
    (∀ actions reached limit, Run (ProcessHost.Advances capacity) host actions reached →
      ¬ reached.HasRoom capacity (.check limit) → ∃ more finish,
        Run (ProcessHost.Advances capacity) host (actions ++ .check limit :: more) finish ∧
          ¬ finish.Within capacity) ∧
    ∀ actions reached limit, Run (ProcessHost.AdvancesWithRoom capacity) host actions reached →
      reached.starts = [] → reached.HasRoom capacity (.check limit) := by
  have bounded (actions : List ProcessAction) (finish : ProcessHost)
      (run : Run (ProcessHost.AdvancesWithRoom capacity) host actions finish) : finish.Within capacity := by
    have claims : finish.Claims capacity := by
      refine run.invariant (within.claims idle) fun state action next step claims => ?_
      rw [step.1]
      exact claims.advance step.2
    exact claims.within
  refine ⟨bounded, fun actions reached limit run lacking => ?_, fun actions reached limit run alone passes => ?_⟩
  · obtain ⟨passes, full⟩ := Classical.not_imp.mp lacking
    obtain ⟨more, finish, settles, runs, retains⟩ := (reached.enlist limit).exists_settled capacity
    have admitted : reached.Advances capacity (.check limit) (reached.enlist limit) := by
      rw [ProcessHost.Advances, ProcessHost.advance, passes]
    refine ⟨more, finish, ?_, fun bounds => full ⟨?_, ?_⟩⟩
    · rw [← List.singleton_append]
      exact run.append ((Run.nil.snoc admitted).append settles)
    · have most := bounds.running
      rwa [runs, (ProcessHost.admit_claims reached limit).1, ← ProcessHost.running_add_pending] at most
    · have most := bounds.retained
      rwa [retains, (ProcessHost.admit_claims reached limit).2] at most
  · exact (bounded actions reached run).room alone passes

end Capacity

section Sample

/-- A host that may run one process. -/
def singleProcess : ProcessCapacity := ⟨1, 8, 64⟩

/-- Two starts that are both checked before either spawns its process. -/
def twoStarts : List ProcessAction := [.check 4, .check 4, .spawn 0, .spawn 1]

/-- Two starts in flight lead beyond the capacity, and the second of them beyond it once it is registered. -/
theorem not_within_capacity : ¬ ∀ actions finish,
    Run (ProcessHost.Advances singleProcess) ⟨0, [], []⟩ actions finish → finish.Within singleProcess := by
  intro bounded
  have running := (bounded _ _ (ProcessHost.run_foldl singleProcess ⟨0, [], []⟩ twoStarts)).running
  revert running
  decide

/-- A host without processes stays within its capacity, as long as its checks leave room. -/
theorem within_capacity_single :
    (∀ actions finish, Run (ProcessHost.AdvancesWithRoom singleProcess) ⟨0, [], []⟩ actions finish →
      finish.Within singleProcess) ∧
    (∀ actions reached limit, Run (ProcessHost.Advances singleProcess) ⟨0, [], []⟩ actions reached →
      ¬ reached.HasRoom singleProcess (.check limit) → ∃ more finish,
        Run (ProcessHost.Advances singleProcess) ⟨0, [], []⟩ (actions ++ .check limit :: more) finish ∧
          ¬ finish.Within singleProcess) ∧
    ∀ actions reached limit, Run (ProcessHost.AdvancesWithRoom singleProcess) ⟨0, [], []⟩ actions reached →
      reached.starts = [] → reached.HasRoom singleProcess (.check limit) :=
  within_capacity ⟨by decide, by decide⟩ rfl

end Sample

end AgentMod
