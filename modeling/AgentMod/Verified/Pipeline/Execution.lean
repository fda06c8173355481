import AgentMod.Pipeline.Execution
import AgentMod.Verified.Pipeline.Diagnostics

/-! A pipeline hands each handler the value that the last accepted decision has left, and stops at the
first terminal step. -/

namespace AgentMod

section Execution

variable {T : Type} {capabilities : ActionCapabilities} {proposal : T}
  {registrations : List (InterceptorRegistration T)} {registration : InterceptorRegistration T}
  {steps : List (ExecutionStep T)} {step : ExecutionStep T}

theorem removeAll_eq {handlers : List HandlerId} {byId : StringMap (InterceptorRegistration T)}
    (distinct : handlers.Nodup) :
    removeAll handlers byId = handlers.filterMap fun handler => byId[handler]? := by
  induction handlers generalizing byId with
  | nil => rfl
  | cons handler rest ih =>
    obtain ⟨fresh, distinct⟩ := List.nodup_cons.mp distinct
    rw [removeAll, List.filterMap_cons]
    split
    · next absent => rw [absent, ih distinct]
    · next registration found =>
      rw [found, ih distinct]
      refine congrArg (registration :: ·) (List.filterMap_congr fun other listed => ?_)
      rw [Std.ExtTreeMap.getElem?_erase, if_neg]
      rw [Std.LawfulEqCmp.compare_eq_iff_eq]
      rintro rfl
      exact fresh listed

theorem removeAll_perm {handlers : List HandlerId} {byId : StringMap (InterceptorRegistration T)}
    (distinct : handlers.Nodup)
    (perm : handlers.Perm (registrations.map fun registration => registration.ordering.handler))
    (found : ∀ registration ∈ registrations,
      byId[registration.ordering.handler]? = some registration) :
    (removeAll handlers byId).Perm registrations ∧
      (removeAll handlers byId).map (fun registration => registration.ordering.handler) = handlers := by
  rw [removeAll_eq distinct]
  constructor
  · refine (perm.filterMap _).trans ?_
    rw [List.filterMap_map]
    exact .of_eq ((List.filterMap_congr found).trans List.filterMap_some)
  · -- Each handler of the order names its registration.
    have listed := perm.subset
    clear perm distinct
    induction handlers with
    | nil => rfl
    | cons first rest ih =>
      obtain ⟨registration, member, rfl⟩ := List.mem_map.mp (listed List.mem_cons_self)
      rw [List.filterMap_cons_some (found registration member), List.map_cons,
        ih fun _ there => listed (List.mem_cons_of_mem _ there)]

theorem follows_of_compile {builder : BlockingPipelineBuilder T} {pipeline : BlockingPipeline T}
    (compiled : builder.compile = .ok pipeline) :
    pipeline.registrations.Perm builder.registrations ∧
      FollowsConstraints (builder.registrations.map InterceptorRegistration.ordering)
        (pipeline.registrations.map fun registration => registration.ordering.handler) := by
  unfold BlockingPipelineBuilder.compile at compiled
  simp only [bind_eq_ok, pure_eq_ok] at compiled
  obtain ⟨order, ordered, rfl⟩ := compiled
  obtain ⟨declared, follows⟩ := follows_of_compileOrder ordered
  have unique := declared.unique
  have perm := follows.perm
  rw [List.map_map] at unique perm
  obtain ⟨kept, same⟩ := removeAll_perm (perm.nodup_iff.mpr unique) perm fun registration member =>
    (StringMap.getElem?_ofList (by rwa [List.map_map])).mpr
      (List.mem_map.mpr ⟨registration, member, rfl⟩)
  exact ⟨kept, by rwa [same]⟩

theorem currentValue_snoc : currentValue proposal (steps ++ [step]) =
    step.result.produced.getD (currentValue proposal steps) := by
  cases produced : step.result.produced with
  | none => simp [currentValue, produced]
  | some value => simp [currentValue, produced]

theorem Fails.invoke {input : T} (fails : Fails capabilities registration input) :
    ∃ failure, invoke capabilities registration input = .failure failure := by
  unfold AgentMod.invoke
  split
  · next decision answered =>
    split
    · next valid => exact absurd valid (fails decision answered)
    · exact ⟨_, rfl⟩
  · exact ⟨_, rfl⟩
  · exact ⟨_, rfl⟩

/-- The steps so far record the first handlers of a plan, and none of them was terminal. -/
structure Passed (capabilities : ActionCapabilities) (proposal : T)
    (registrations : List (InterceptorRegistration T)) (steps : List (ExecutionStep T)) : Prop where
  length : steps.length = registrations.length
  feeds : ∀ index step, steps[index]? = some step → ∃ registration,
    Ran registrations steps index registration step ∧
      Records capabilities proposal registration (steps.take index) step
  passes : ∀ index registration step, Ran registrations steps index registration step →
    terminalOutcome registration step.result = none

theorem ran_snoc {index : Nat} {other : InterceptorRegistration T} {rest : List (InterceptorRegistration T)}
    {taken : ExecutionStep T} (length : steps.length = registrations.length) :
    Ran (registrations ++ registration :: rest) (steps ++ [step]) index other taken ↔
      Ran registrations steps index other taken ∨
        index = steps.length ∧ other = registration ∧ taken = step := by
  unfold Ran
  rcases Nat.lt_trichotomy index steps.length with before | here | behind
  · rw [List.getElem?_append_left before, List.getElem?_append_left (by omega)]
    simp [before.ne]
  · subst here
    rw [List.getElem?_concat_length, length, List.getElem?_append_right (by omega)]
    simp [← length, eq_comm]
  · have beyond : (steps ++ [step])[index]? = none := List.getElem?_eq_none (by simp; omega)
    have unused : steps[index]? = none := List.getElem?_eq_none behind.le
    simp [beyond, unused, behind.ne']

theorem validate_of_invoke {input : T} {decision : Decision T}
    (invoked : invoke capabilities registration input = .decision decision) :
    capabilities.validate decision = .ok () := by
  unfold invoke at invoked
  split at invoked
  · split at invoked
    · next valid =>
      cases invoked
      exact valid
    · cases invoked
  · cases invoked
  · cases invoked

theorem permitted_of_terminal {input : T} {decision : Decision T}
    (ends : terminalOutcome registration (invoke capabilities registration input) =
      some (.decision decision)) : capabilities.validate decision = .ok () ∨
      registration.failurePolicy = .cancel ∧ ∃ failure,
        invoke capabilities registration input = .failure failure ∧
          decision = .cancel (failureReason registration failure) := by
  cases invoked : invoke capabilities registration input with
  | decision taken =>
    have valid := validate_of_invoke invoked
    rw [invoked] at ends
    cases taken <;> simp_all [terminalOutcome]
  | failure failure =>
    rw [invoked] at ends
    cases policy : registration.failurePolicy <;> simp only [terminalOutcome, policy] at ends
    all_goals cases ends
    · exact .inl rfl
    · exact .inr ⟨rfl, failure, rfl, rfl⟩

/-- The step that invokes a handler on a value. -/
def stepOf (capabilities : ActionCapabilities) (registration : InterceptorRegistration T)
    (current : T) : ExecutionStep T :=
  ⟨registration.ordering.handler, current, invoke capabilities registration current⟩

theorem executeFrom_cons {rest : List (InterceptorRegistration T)} {current : T} :
    executeFrom capabilities (registration :: rest) current steps =
      let step := stepOf capabilities registration current
      match terminalOutcome registration step.result with
      | none => executeFrom capabilities rest (step.result.produced.getD current) (steps ++ [step])
      | some outcome => ⟨steps ++ [step], outcome⟩ := by
  rw [executeFrom]
  simp only [stepOf]
  generalize steps ++ [_] = recorded
  generalize invoke capabilities registration current = result
  rcases result with decision | failure
  · cases decision <;> rfl
  · cases policy : registration.failurePolicy <;> simp [terminalOutcome, policy, ExecutionStepResult.produced]

theorem Passed.feeds_snoc {rest : List (InterceptorRegistration T)}
    (passed : Passed capabilities proposal registrations steps) :
    let recorded := steps ++ [stepOf capabilities registration (currentValue proposal steps)]
    ∀ index step, recorded[index]? = some step → ∃ other,
      Ran (registrations ++ registration :: rest) recorded index other step ∧
        Records capabilities proposal other (recorded.take index) step := by
  intro recorded index step found
  have bound : index < recorded.length := (List.getElem?_eq_some_iff.mp found).1
  rw [List.length_append, List.length_singleton] at bound
  rcases Nat.lt_or_ge index steps.length with before | last
  · have earlier : steps[index]? = some step := by
      rwa [List.getElem?_append_left before] at found
    obtain ⟨other, ran, records⟩ := passed.feeds index step earlier
    refine ⟨other, (ran_snoc passed.length).mpr (.inl ran), ?_⟩
    rwa [List.take_append_of_le_length before.le]
  · obtain rfl : index = steps.length := by omega
    rw [List.getElem?_concat_length] at found
    cases found
    refine ⟨registration, (ran_snoc passed.length).mpr (.inr ⟨rfl, rfl, rfl⟩), ?_⟩
    rw [List.take_left]
    exact ⟨rfl, rfl, rfl⟩

theorem Passed.snoc (passed : Passed capabilities proposal registrations steps)
    (continues : terminalOutcome registration
      (invoke capabilities registration (currentValue proposal steps)) = none) :
    Passed capabilities proposal (registrations ++ [registration])
      (steps ++ [stepOf capabilities registration (currentValue proposal steps)]) where
  length := by simp [passed.length]
  feeds := passed.feeds_snoc
  passes index other taken ran := by
    rcases (ran_snoc passed.length).mp ran with earlier | ⟨_, rfl, rfl⟩
    · exact passed.passes index other taken earlier
    · exact continues

theorem failures_of_feeds (feeds : ∀ index step, steps[index]? = some step → ∃ registration,
      Ran registrations steps index registration step ∧
        Records capabilities proposal registration (steps.take index) step) :
    ∀ index registration step, Ran registrations steps index registration step →
      Fails capabilities registration step.input →
      currentValue proposal (steps.take (index + 1)) = currentValue proposal (steps.take index) := by
  intro index registration step ran fails
  obtain ⟨other, ⟨same, found⟩, records⟩ := feeds index step ran.2
  rw [ran.1] at same
  cases same
  obtain ⟨failure, failed⟩ := fails.invoke
  rw [List.take_add_one, found, Option.toList_some, currentValue_snoc, records.result, failed]
  rfl

/-- The executed handlers and the remaining ones of a plan are executed soundly. -/
theorem soundExecution_executeFrom {rest : List (InterceptorRegistration T)}
    (passed : Passed capabilities proposal registrations steps) :
    let report := executeFrom capabilities rest (currentValue proposal steps) steps
    SoundExecution (registrations ++ rest) proposal capabilities
      (fun decision => capabilities.validate decision = .ok () ∨
        CancelledByPolicy (registrations ++ rest) report.steps decision) report := by
  induction rest generalizing registrations steps with
  | nil =>
    rw [List.append_nil]
    refine ⟨passed.feeds, failures_of_feeds passed.feeds, fun index other taken outcome ran ends => ?_,
      fun _ => ⟨passed.length, rfl⟩, fun decision ends => ?_⟩
    · rw [passed.passes index other taken ran] at ends
      cases ends
    · cases ends
      exact .inl rfl
  | cons registration rest ih =>
    rw [executeFrom_cons]
    let recorded := stepOf capabilities registration (currentValue proposal steps)
    cases outcome : terminalOutcome registration recorded.result with
    | none =>
      have later := ih (passed.snoc outcome)
      rw [currentValue_snoc] at later
      simpa [recorded, outcome] using later
    | some ending =>
      -- The terminal step is recorded last.
      have feeds := @Passed.feeds_snoc _ _ _ _ registration _ rest passed
      simp only [recorded] at outcome
      simp only [outcome]
      refine ⟨feeds, failures_of_feeds feeds, fun index other taken final ran ends => ?_,
        fun continues => ?_, fun decision ends => ?_⟩
      · rcases (ran_snoc passed.length).mp ran with earlier | ⟨rfl, rfl, rfl⟩
        · rw [passed.passes index other taken earlier] at ends
          cases ends
        · rw [outcome] at ends
          cases ends
          exact ⟨by simp, rfl⟩
      · have := continues steps.length registration recorded
          ((ran_snoc passed.length).mpr (.inr ⟨rfl, rfl, rfl⟩))
        rw [outcome] at this
        cases this
      · cases ends
        rcases permitted_of_terminal outcome with valid | ⟨policy, failure, failed, same⟩
        · exact .inl valid
        · exact .inr ⟨steps.length, registration, recorded, failure,
            (ran_snoc passed.length).mpr (.inr ⟨rfl, rfl, rfl⟩), policy, failed, same⟩

/-- A pipeline feeds each handler the value of the last accepted decision and stops at the first terminal
step; its decision is permitted, unless it cancels for a failed handler whose policy is to cancel. -/
theorem blocking_pipeline_sound (pipeline : BlockingPipeline T) (proposal : T)
    (capabilities : ActionCapabilities) :
    SoundExecution pipeline.registrations proposal capabilities
      (fun decision => capabilities.validate decision = .ok () ∨
        CancelledByPolicy pipeline.registrations (pipeline.execute proposal capabilities).steps decision)
      (pipeline.execute proposal capabilities) := by
  -- No step is recorded at first.
  have start : Passed capabilities proposal ([] : List (InterceptorRegistration T)) [] :=
    ⟨rfl, by simp, by simp [Ran]⟩
  exact soundExecution_executeFrom start

end Execution

/-- A plan of one handler that fails and whose failure policy is to cancel. -/
def cancellingPipeline : BlockingPipeline Nat where
  registrations :=
    [ { ordering := { handler := "guard", plugin := "p", stage := 0, priority := 0
                      before := [], after := [] }
        timeout := 1000
        failurePolicy := .cancel
        handler := fun _ => .ok (.error ⟨"unavailable"⟩) } ]

/-- A failed handler can cancel an action that does not support cancellation. -/
theorem not_blocking_pipeline_permits : ¬ SoundExecution cancellingPipeline.registrations 1
    ActionCapabilities.minimal
    (fun decision => ActionCapabilities.minimal.validate decision = .ok ())
    (cancellingPipeline.execute 1 ActionCapabilities.minimal) := by
  intro sound
  exact absurd (sound.permits _ rfl) (by decide)

end AgentMod
