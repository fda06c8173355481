import AgentMod.Lsp.Registry
import AgentMod.Verified.Lsp.Client

/-! The registry of active requests is exact as long as no request is aborted. -/

namespace AgentMod

section Rounds

variable [LspFiles] {id : Nat} {workspace : List String} {observation : LspObservation}

theorem observeRequest_aborts (diagnostics : LspDiagnostics) (aborts : observation.Aborts id workspace) :
    ∃ error, observeRequest id workspace diagnostics observation = .error (.returned error) := by
  cases observation with
  | message message =>
    obtain ⟨other, publishes, fails⟩ := aborts
    cases reads : readPublication workspace message with
    | ok publication => exact absurd reads (fails publication)
    | error error =>
      refine ⟨error, ?_⟩
      rw [observeRequest, if_neg other, captureNotification_error publishes reads]
      rfl
  | failed error => exact ⟨error, rfl⟩
  | silent => exact ⟨_, rfl⟩
  | closed => exact ⟨_, rfl⟩
  | expired => cases aborts

theorem observeRequest_spares (diagnostics : LspDiagnostics) (spares : ¬ observation.Aborts id workspace) :
    (∃ later, observeRequest id workspace diagnostics observation = .ok later) ∨
      ∃ result, observeRequest id workspace diagnostics observation = .error (.broke result) := by
  cases observation with
  | message message =>
    rw [observeRequest]
    by_cases own : message.messageId = some id
    · rw [if_pos own]
      exact .inr ⟨_, rfl⟩
    rw [if_neg own]
    cases publishes : message.isPublication with
    | false =>
      rw [captureNotification_other publishes]
      exact .inl ⟨_, rfl⟩
    | true =>
      cases reads : readPublication workspace message with
      | ok publication =>
        rw [captureNotification_ok publishes reads]
        exact .inl ⟨_, rfl⟩
      | error error => exact absurd ⟨own, publishes, fun publication same => by cases reads.symm.trans same⟩ spares
  | failed error => exact absurd trivial spares
  | silent => exact absurd trivial spares
  | closed => exact absurd trivial spares
  | expired => exact .inr ⟨_, rfl⟩

end Rounds

namespace LspClient

variable {client next : LspClient} {key : String} {entry request : ActiveRequest} {flag : Bool}

@[simp] theorem registered_none : registered (.response ⟨request, none, flag⟩) = ∅ := rfl

@[simp] theorem registered_some :
    registered (.response ⟨request, some key, flag⟩) = (∅ : StringMap ActiveRequest).insert key request := rfl

@[simp] theorem registered_idle : registered .idle = ∅ := rfl

@[simp] theorem registered_diagnostics (uri : String) : registered (.diagnostics uri) = ∅ := rfl

theorem erase_insert_empty : ((∅ : StringMap ActiveRequest).insert key request).erase key = ∅ := by
  refine Std.ExtTreeMap.ext_getElem? fun other => ?_
  rw [StringMap.getElem?_erase']
  by_cases same : key = other
  · simp [same]
  · simp [same]

@[simp] theorem registered_cancelWaiting (entry : ActiveRequest) (waiting : LspWaiting) :
    registered (cancelWaiting entry waiting) = registered waiting := by
  cases waiting with
  | response outstanding => cases outstanding with | mk request key flag => cases key <;> rfl
  | _ => rfl

theorem exact_cancel {written : Except LspError Unit} : (client.cancel key written).2.Exact ↔ client.Exact := by
  rw [cancel]
  split
  · rfl
  · split
    · rfl
    · rw [Exact, Exact, registered_cancelWaiting]

theorem Exact.found (exact : client.Exact) (found : client.active[key]? = some entry) :
    ∃ outstanding, client.waiting = .response outstanding ∧ outstanding.key = some key ∧
      entry = outstanding.request := by
  rw [exact] at found
  cases waits : client.waiting with
  | idle => simp [waits] at found
  | diagnostics uri => simp [waits] at found
  | response outstanding =>
    obtain ⟨request, own, flag⟩ := outstanding
    cases own with
    | none => simp [waits] at found
    | some own =>
      rw [waits, registered_some, Std.ExtTreeMap.getElem?_insert] at found
      by_cases same : own = key
      · subst same
        simp at found
        exact ⟨_, rfl, rfl, found.symm⟩
      · simp [same] at found

theorem Exact.cancelsOutstanding [LspFiles] {workspace : List String} {written : Except LspError Unit}
    {sent : Option ActiveRequest} {result : Except LspError Bool} (exact : client.Exact)
    (step : client.Steps workspace (.cancel key written, .cancelled sent result) next) :
    client.CancelsOutstanding key sent result := by
  intro effective
  rw [Steps, advance, Option.some_inj, cancel] at step
  split at step
  · cases step
    simp at effective
  · rename_i found
    obtain ⟨outstanding, waits, own, same⟩ := exact.found found
    split at step
    · cases step
      simp at effective
    · cases step
      exact ⟨outstanding, waits, own, congrArg some same⟩

theorem exact_beginRequest {own : Option String} {written : Except LspError Unit} (exact : client.Exact)
    (idle : client.waiting = .idle) : (client.beginRequest own written).2.Exact := by
  have empty : client.active = ∅ := by rw [exact, idle, registered_idle]
  rw [beginRequest]
  split
  · cases written with
    | error error => rw [Exact, empty, idle]; rfl
    | ok => cases own <;> simp [Exact, empty]
  · exact exact

section Operations

variable [LspFiles] {workspace : List String}

theorem exact_observeResponse {outstanding : OutstandingRequest} {observation : LspObservation} (exact : client.Exact)
    (waits : client.waiting = .response outstanding) :
    (client.observeResponse workspace outstanding observation).2.Exact ↔
      ∀ key, outstanding.key = some key → ¬ observation.Aborts outstanding.request.id workspace := by
  obtain ⟨request, own, flag⟩ := outstanding
  have active : client.active = registered (.response ⟨request, own, flag⟩) := waits ▸ exact
  rw [observeResponse]
  by_cases aborts : observation.Aborts request.id workspace
  · obtain ⟨error, observed⟩ := observeRequest_aborts client.diagnostics aborts
    rw [observed]
    cases own with
    | none => simp [Exact, active]
    | some key => simp [Exact, active, aborts]
  · have spared : ∀ key, own = some key → ¬ observation.Aborts request.id workspace := fun _ _ => aborts
    refine iff_of_true ?_ spared
    rcases observeRequest_spares client.diagnostics aborts with ⟨later, observed⟩ | ⟨result, observed⟩
    · rw [observed, Exact, waits]
      exact active
    · rw [observed]
      cases own with
      | none => simp [Exact, active]
      | some key => simp [Exact, active, erase_insert_empty]

theorem exact_observePublication {uri : String} {observation : LspObservation} (exact : client.Exact)
    (waits : client.waiting = .diagnostics uri) :
    (client.observePublication workspace uri observation).2.Exact := by
  have empty : client.active = ∅ := by rw [exact, waits, registered_diagnostics]
  rw [observePublication]
  split
  · simp [Exact, empty]
  · split
    · simp [Exact, empty]
    · exact exact

/-- From an exact registry, a step leads to an exact one if it aborts no request that has a key, and only then. -/
theorem exact_of_steps {label : LspAction × LspOutcome} (exact : client.Exact)
    (step : client.Steps workspace label next) : next.Exact ↔ client.Spares workspace label.1 := by
  obtain ⟨action, outcome⟩ := label
  have other (unobserved : ∀ observation, action ≠ .observe observation) : client.Spares workspace action :=
    fun observation _ _ same => absurd same (unobserved observation)
  rw [Steps] at step
  cases action with
  | cancel key written =>
    rw [advance, Option.some_inj] at step
    refine iff_of_true ?_ (other (by simp))
    obtain rfl : (client.cancel key written).2 = next := congrArg Prod.snd step
    exact exact_cancel.mpr exact
  | observe observation =>
    rw [advance] at step
    cases waits : client.waiting with
    | idle => simp [waits] at step
    | response outstanding =>
      simp only [waits, Option.some.injEq] at step
      obtain rfl : (client.observeResponse workspace outstanding observation).2 = next := congrArg Prod.snd step
      rw [exact_observeResponse exact waits, Spares]
      constructor
      · intro spares observed outstanding' key same waits' own
        cases same
        cases waits.symm.trans waits'
        exact spares key own
      · exact fun spares key own => spares observation outstanding key rfl waits own
    | diagnostics uri =>
      simp only [waits, Option.some.injEq] at step
      obtain rfl : (client.observePublication workspace uri observation).2 = next := congrArg Prod.snd step
      refine iff_of_true (exact_observePublication exact waits) ?_
      intro observed outstanding key _ waits'
      cases waits.symm.trans waits'
  | start =>
    refine iff_of_true ?_ (other (by simp))
    cases waits : client.waiting with
    | idle =>
      simp only [advance, waits, Option.some.injEq] at step
      obtain rfl : client.startSession = next := congrArg Prod.snd step
      exact exact
    | _ => simp [advance, waits] at step
  | request key written =>
    refine iff_of_true ?_ (other (by simp))
    cases waits : client.waiting with
    | idle =>
      simp only [advance, waits, Option.some.injEq] at step
      obtain rfl : (client.beginRequest key written).2 = next := congrArg Prod.snd step
      exact exact_beginRequest exact waits
    | _ => simp [advance, waits] at step
  | openDocument uri written =>
    refine iff_of_true ?_ (other (by simp))
    cases waits : client.waiting with
    | idle =>
      simp only [advance, waits, Option.some.injEq] at step
      obtain rfl : (client.openDocument uri written).2 = next := congrArg Prod.snd step
      cases written with
      | error error => exact exact
      | ok =>
        have empty : client.active = ∅ := by rw [exact, waits, registered_idle]
        exact empty
    | _ => simp [advance, waits] at step

theorem exact_of_run {labels : List (LspAction × LspOutcome)}
    (run : Run (fun client label next => Steps workspace client label next ∧ client.Spares workspace label.1) new labels
      client) : client.Exact := by
  refine run.invariant rfl ?_
  rintro client label next ⟨step, spares⟩ exact
  exact (exact_of_steps exact step).mpr spares

end Operations

end LspClient

/-- The registry is exact all along a run, and cancellations are of outstanding requests, if and only if no step of the
run aborts a request that has a key. -/
theorem lsp_registry_exact [LspFiles] (workspace : List String) {labels : List (LspAction × LspOutcome)}
    {client : LspClient} (run : Run (LspClient.Steps workspace) .new labels client) :
    LspClient.RegistersExactly workspace labels ↔
      Run (fun client label next => LspClient.Steps workspace client label next ∧ client.Spares workspace label.1) .new
        labels client := by
  have determined : ∀ (state : LspClient) label next other, LspClient.Steps workspace state label next →
      LspClient.Steps workspace state label other → next = other := by
    intro state label next other first second
    exact congrArg Prod.snd (Option.some_inj.mp (first.symm.trans second))
  constructor
  · intro exact
    induction run with
    | nil => exact .nil
    | snoc before taken ih =>
      rename_i labels label state next
      have earlier : LspClient.RegistersExactly workspace labels := fun front back reached split =>
        exact front (back ++ [label]) reached (by rw [split, List.append_assoc])
      have last := (exact labels [label] state rfl before).1
      have behind := (exact _ [] next (List.append_nil _).symm (before.snoc taken)).1
      exact (ih earlier).snoc ⟨taken, (LspClient.exact_of_steps last taken).mp behind⟩
  · intro spares front back reached split toReached
    subst split
    obtain ⟨state, first, -⟩ := spares.split
    have same := toReached.unique (first.mono fun _ _ _ both => both.1) determined
    subst same
    have exact := LspClient.exact_of_run first
    exact ⟨exact, fun key written next sent result step => exact.cancelsOutstanding step⟩

section Sample

attribute [local instance] oneFile

/-- A request that is made under a key, and answered. -/
def answeredRequest : List (LspAction × LspOutcome) :=
  [(.start, .pending), (.request (some "k") (.ok ()), .pending),
    (.observe (.message clientResponse), .returned (.ok (.bool true)))]

/-- A request that is made under a key, and not answered in time. -/
def unansweredRequest : List (LspAction × LspOutcome) :=
  [(.start, .pending), (.request (some "k") (.ok ()), .pending), (.observe .silent, .returned (.error .timeout))]

/-- The client behind its first steps. -/
def requestingClient : LspClient :=
  { LspClient.new.startSession with
    nextId := 2, active := (∅ : StringMap ActiveRequest).insert "k" ⟨1, 1⟩
    waiting := .response ⟨⟨1, 1⟩, some "k", false⟩ }

theorem requestingClient_reached :
    Run (fun client label next => LspClient.Steps ["w"] client label next ∧ client.Spares ["w"] label.1) .new
      [(.start, .pending), (.request (some "k") (.ok ()), .pending)] requestingClient := by
  have unobserved (client : LspClient) (action : LspAction) (other : ∀ observation, action ≠ .observe observation) :
      client.Spares ["w"] action := fun observation _ _ same => absurd same (other observation)
  have started : LspClient.Steps ["w"] .new (.start, .pending) LspClient.new.startSession := rfl
  have requested : LspClient.Steps ["w"] LspClient.new.startSession (.request (some "k") (.ok ()), .pending)
    requestingClient := rfl
  exact (Run.nil.snoc ⟨started, unobserved _ _ (by simp)⟩).snoc ⟨requested, unobserved _ _ (by simp)⟩

/-- The registry is exact all along a run whose request is answered. -/
theorem lsp_registry_exact_sample : LspClient.RegistersExactly ["w"] answeredRequest := by
  have answered : LspClient.Steps ["w"] requestingClient
    (.observe (.message clientResponse), .returned (.ok (.bool true)))
    { requestingClient with active := requestingClient.active.erase "k", waiting := .idle } := rfl
  have spared : requestingClient.Spares ["w"] (.observe (.message clientResponse)) := by
    intro observation outstanding key same waits _ aborts
    cases same
    cases waits
    exact aborts.1 rfl
  have run := requestingClient_reached.snoc ⟨answered, spared⟩
  exact (lsp_registry_exact ["w"] (run.mono fun _ _ _ both => both.1)).mpr run

/-- Behind a request that is not answered in time, a cancellation under its key tells the server of it. -/
theorem not_lsp_registry_exact : ∃ client, Run (LspClient.Steps ["w"]) .new unansweredRequest client ∧
    ¬ LspClient.RegistersExactly ["w"] unansweredRequest := by
  have silent : LspClient.Steps ["w"] requestingClient (.observe .silent, .returned (.error .timeout))
    { requestingClient with waiting := .idle } := rfl
  have run := (requestingClient_reached.mono fun _ _ _ both => both.1).snoc silent
  refine ⟨_, run, fun exact => ?_⟩
  have found : requestingClient.active["k"]? = some ⟨1, 1⟩ := by simp [requestingClient]
  have sends : LspClient.Steps ["w"] { requestingClient with waiting := .idle }
      (.cancel "k" (.ok ()), .cancelled (some ⟨1, 1⟩) (.ok true)) { requestingClient with waiting := .idle } := by
    simp [LspClient.Steps, LspClient.advance, LspClient.cancel, found, LspClient.cancelWaiting]
  have outstanding := (exact _ [] _ (List.append_nil _).symm run).2 _ _ _ _ _ sends (.inl rfl)
  obtain ⟨_, waits, -⟩ := outstanding
  cases waits

end Sample

end AgentMod
