import AgentMod.Verified.Graph.Build
import AgentMod.Session.ScheduleStorage
import AgentMod.Session.StyleSample

/-! Compiled delays and schedules are executed and stored exactly where the bounds of all validators hold. -/

namespace AgentMod

section Identifiers

theorem utf8ByteSize_of_ascii {value : String} (ascii : ∀ character ∈ value.toList, character.toNat < 128) :
    value.utf8ByteSize = value.toList.length := by
  have general : ∀ characters : List Char, (∀ character ∈ characters, character.toNat < 128) →
      (String.ofList characters).utf8ByteSize = characters.length := by
    intro characters
    induction characters with
    | nil => exact fun _ => rfl
    | cons character rest ih =>
      intro ascii
      have narrow : character.utf8Size = 1 := by
        have small := ascii character List.mem_cons_self
        rw [Char.utf8Size_eq_one_iff]
        rw [UInt32.le_iff_toNat_le]
        exact Nat.le_of_lt_succ small
      rw [String.ofList_cons, String.utf8ByteSize_append, ih fun other member => ascii other (List.mem_cons_of_mem _ member)]
      simp [narrow, Nat.add_comm]
  have same := general value.toList ascii
  rwa [String.ofList_toList] at same

theorem toNat_lt_of_alphanumeric {character : Char} (alphanumeric : isAsciiAlphanumeric character = true) :
    character.toNat < 128 := by
  simp only [isAsciiAlphanumeric, isAsciiAlphabetic, isAsciiDigit, Bool.or_eq_true, Bool.and_eq_true,
    decide_eq_true_eq] at alphanumeric
  omega

theorem alphanumeric_of_hexdigit {character : Char} (hex : isAsciiHexdigit character = true) :
    isAsciiAlphanumeric character = true := by
  simp only [isAsciiHexdigit, isAsciiDigit, isAsciiAlphanumeric, isAsciiAlphabetic, Bool.or_eq_true, Bool.and_eq_true,
    decide_eq_true_eq] at hex ⊢
  omega

theorem isScheduleId_of {maximum : Nat} {others : List Char} {value : String} (present : value.toList ≠ [])
    (short : value.toList.length ≤ maximum)
    (plain : ∀ character ∈ value.toList, isAsciiAlphanumeric character = true ∨ character = '-' ∨ character = ':')
    (hyphen : '-' ∈ others) (colon : ':' ∈ others) : isScheduleId maximum others value = true := by
  have ascii : ∀ character ∈ value.toList, character.toNat < 128 := by
    intro character member
    rcases plain character member with alphanumeric | rfl | rfl
    · exact toNat_lt_of_alphanumeric alphanumeric
    · decide
    · decide
  rw [isScheduleId, utf8ByteSize_of_ascii ascii]
  simp only [Bool.and_eq_true, Bool.not_eq_true', String.isEmpty_eq_false_iff, decide_eq_true_eq, List.all_eq_true,
    Bool.or_eq_true, List.contains_iff_mem]
  refine ⟨⟨fun empty => present (by rw [empty]; rfl), short⟩, fun character member => ?_⟩
  rcases plain character member with alphanumeric | rfl | rfl
  · exact .inl alphanumeric
  · exact .inr hyphen
  · exact .inr colon

theorem isScheduleId_uuid {maximum : Nat} {others : List Char} {value : String} (uuid : isUuidText value = true)
    (long : 36 ≤ maximum) (hyphen : '-' ∈ others) (colon : ':' ∈ others) :
    isScheduleId maximum others value = true := by
  simp only [isUuidText, Bool.and_eq_true, decide_eq_true_eq, List.all_eq_true, Bool.or_eq_true, beq_iff_eq] at uuid
  obtain ⟨length, digits⟩ := uuid
  refine isScheduleId_of (fun empty => ?_) (by omega) (fun character member => ?_) hyphen colon
  · rw [empty] at length
    cases length
  · exact (digits character member).imp alphanumeric_of_hexdigit .inl

theorem toList_toHex (hash : ContentHash) : hash.toHex.toList.length = 64 ∧
    ∀ character ∈ hash.toHex.toList, isAsciiAlphanumeric character = true := by
  rw [ContentHash.toHex, String.toList_ofList]
  constructor
  · have width : hash.bytes.toList.length = 32 := by simp
    simp [List.length_flatMap]
  · intro character member
    obtain ⟨byte, -, digit⟩ := List.mem_flatMap.mp member
    have digits : ∀ value < 16, isAsciiAlphanumeric (Nat.digitChar value) = true := by decide
    have small : byte.toNat < 256 := byte.toNat_lt
    simp only [List.mem_cons, List.not_mem_nil, or_false] at digit
    rcases digit with rfl | rfl
    · exact digits _ (by omega)
    · exact digits _ (by omega)

theorem isScheduleId_hash {maximum : Nat} {others : List Char} (hash : ContentHash) (long : 79 ≤ maximum)
    (hyphen : '-' ∈ others) (colon : ':' ∈ others) : isScheduleId maximum others hash.toHex = true ∧
      isScheduleId maximum others ("graph-schedule:" ++ hash.toHex) = true := by
  obtain ⟨length, digits⟩ := toList_toHex hash
  constructor
  · refine isScheduleId_of (fun empty => ?_) (by omega) (fun character member => .inl (digits character member)) hyphen
      colon
    rw [empty] at length
    cases length
  · rw [show ("graph-schedule:" : String) = String.ofList "graph-schedule:".toList from rfl]
    refine isScheduleId_of ?_ ?_ (fun character member => ?_) hyphen colon
    · simp
    · simp only [String.toList_append, List.length_append, length]
      exact long
    · rw [String.toList_append, List.mem_append] at member
      rcases member with front | digit
      · have plain : "graph-schedule:".toList.all
            (fun character => isAsciiAlphanumeric character || character == '-' || character == ':') = true := by decide
        simpa [or_assoc] using List.all_eq_true.mp plain character front
      · exact .inl (digits character digit)

theorem isScheduleId_runtime {value : String} (id : isScheduleId 128 ['-', '_', ':'] value = true) :
    isScheduleId 256 ['-', '_', '.', ':'] value = true := by
  simp only [isScheduleId, Bool.and_eq_true, decide_eq_true_eq, List.all_eq_true, Bool.or_eq_true,
    List.contains_iff_mem, List.mem_cons, List.not_mem_nil, or_false] at id ⊢
  obtain ⟨⟨present, short⟩, characters⟩ := id
  refine ⟨⟨present, by omega⟩, fun character member => ?_⟩
  rcases characters character member with alphanumeric | rfl | rfl | rfl <;> simp_all

theorem validateId_eq_ok_of {value : String} (id : isScheduleId 128 ['-', '_', ':'] value = true) :
    validateId value = .ok () := by
  simp only [isScheduleId, Bool.and_eq_true, Bool.not_eq_true', decide_eq_true_eq, List.all_eq_true, Bool.or_eq_true,
    List.contains_iff_mem, List.mem_cons, List.not_mem_nil, or_false] at id
  obtain ⟨⟨present, short⟩, characters⟩ := id
  rw [validateId, refuseIf_eq_ok, not_or, not_or, not_not]
  refine ⟨by simp [present], by omega, List.all_eq_true.mpr fun byte member => ?_⟩
  obtain ⟨character, inside, encoded⟩ := List.mem_flatMap.mp member
  have ascii : character.toNat < 128 := by
    rcases characters character inside with alphanumeric | rfl | rfl | rfl
    · exact toNat_lt_of_alphanumeric alphanumeric
    all_goals decide
  have single : String.utf8EncodeChar character = [UInt8.ofNat character.toNat] := by
    have narrow : character.val.toNat ≤ 127 := Nat.le_of_lt_succ ascii
    rw [String.utf8EncodeChar, if_pos narrow]
    rfl
  have same : Char.ofNat (UInt8.ofNat character.toNat).toNat = character := by
    rw [UInt8.toNat_ofNat', Nat.mod_eq_of_lt (by omega), Char.ofNat_toNat]
  rw [single, List.mem_singleton] at encoded
  rw [encoded, isSchedulerIdByte, same]
  rcases characters character inside with alphanumeric | rfl | rfl | rfl
  · simp [alphanumeric]
  all_goals rfl

end Identifiers

section Commands

theorem isScheduleText_mono {maximum larger : Nat} {value : String} (text : isScheduleText maximum value = true)
    (wider : maximum ≤ larger) : isScheduleText larger value = true := by
  simp only [isScheduleText, Bool.and_eq_true, decide_eq_true_eq] at text ⊢
  obtain ⟨⟨present, short⟩, clean⟩ := text
  exact ⟨⟨present, by omega⟩, clean⟩

theorem not_isBlank_of_isScheduleText {maximum : Nat} {value : String} (text : isScheduleText maximum value = true) :
    isBlank value = false := by
  simp only [isScheduleText, Bool.and_eq_true, Bool.not_eq_true'] at text
  exact text.1.1

theorem visible_of_name {character : Char}
    (named : isAsciiAlphanumeric character = true ∨ character ∈ ['_', '.', ':', '/', '-']) :
    isWhitespace character = false ∧ character ≠ '\x00' := by
  rcases named with alphanumeric | other
  · simp only [isAsciiAlphanumeric, isAsciiAlphabetic, isAsciiDigit, Bool.or_eq_true, Bool.and_eq_true,
      decide_eq_true_eq] at alphanumeric
    constructor
    · simp only [isWhitespace, Bool.or_eq_false_iff, Bool.and_eq_false_iff, decide_eq_false_iff_not,
        beq_eq_false_iff_ne]
      omega
    · rintro rfl
      revert alphanumeric
      decide
  · simp only [List.mem_cons, List.not_mem_nil, or_false] at other
    rcases other with rfl | rfl | rfl | rfl | rfl <;> decide

theorem not_isBlank_of_visible {value : String} (present : value.isEmpty = false)
    (visible : ∀ character ∈ value.toList, isWhitespace character = false) : isBlank value = false := by
  rw [isBlank]
  cases listed : value.toList with
  | nil =>
    rw [String.toList_eq_nil_iff.mp listed] at present
    cases present
  | cons character rest =>
    rw [List.all_cons, visible character (listed ▸ List.mem_cons_self), Bool.false_and]

theorem not_isBlank_of_isScheduleId {value : String} (id : isScheduleId 128 ['-', '_', ':'] value = true) :
    isBlank value = false := by
  simp only [isScheduleId, Bool.and_eq_true, Bool.not_eq_true', List.all_eq_true, Bool.or_eq_true,
    List.contains_iff_mem, List.mem_cons, List.not_mem_nil, or_false] at id
  obtain ⟨⟨present, -⟩, characters⟩ := id
  refine not_isBlank_of_visible present fun character member => (visible_of_name ?_).1
  refine (characters character member).imp_right fun other => ?_
  rcases other with rfl | rfl | rfl <;> decide

theorem isScheduleText_of_isName {value : String} {maximum : Nat} (named : isName value maximum = true) :
    isScheduleText 256 value = true ↔ value.utf8ByteSize ≤ 256 := by
  simp only [isName, Bool.and_eq_true, Bool.not_eq_true', decide_eq_true_eq, List.all_eq_true, Bool.or_eq_true,
    List.contains_iff_mem] at named
  obtain ⟨⟨present, -⟩, characters⟩ := named
  have visible (character : Char) (member : character ∈ value.toList) :=
    visible_of_name (characters character member)
  have filled := not_isBlank_of_visible present fun character member => (visible character member).1
  have clean : '\x00' ∉ value.toList := fun member => (visible _ member).2 rfl
  simp only [isScheduleText, filled, Bool.not_false, Bool.true_and, Bool.and_eq_true, decide_eq_true_eq,
    List.contains_eq_mem, clean, decide_false, and_true]

@[simp] theorem runtimeValidateId_eq_ok {value : String} {result : Unit} :
    runtimeValidateId value = .ok result ↔ isScheduleId 256 ['-', '_', '.', ':'] value = true := by
  simp [runtimeValidateId]

@[simp] theorem schedulerValidateId_eq_ok {value : String} {result : Unit} :
    schedulerValidateId value = .ok result ↔ isScheduleId 128 ['-', '_', ':'] value = true := by
  simp [schedulerValidateId]

@[simp] theorem validateScheduleText_eq_ok {value : String} {maximum : Nat} {result : Unit} :
    validateScheduleText value maximum = .ok result ↔ isScheduleText maximum value = true := by
  simp [validateScheduleText]

theorem validateSchedulePayload_runtime {payload : DependencyPayload}
    (valid : validateSchedulePayload schedulerValidateId payload = .ok ()) :
    validateSchedulePayload runtimeValidateId payload = .ok () := by
  cases payload with
  | prompt prompt => exact valid
  | continuation continuationId =>
    simp only [validateSchedulePayload, schedulerValidateId_eq_ok, runtimeValidateId_eq_ok] at valid ⊢
    exact isScheduleId_runtime valid
  | graphTrigger runId nodeId =>
    simp only [validateSchedulePayload, bind_eq_ok, exists_unit, schedulerValidateId_eq_ok,
      runtimeValidateId_eq_ok] at valid ⊢
    exact ⟨isScheduleId_runtime valid.1, isScheduleId_runtime valid.2⟩

theorem validateTrigger_eq_ok {trigger : CanonicalGraphScheduleTrigger} :
    runtimeValidateTrigger trigger = .ok () ∧ schedulerValidateTrigger trigger = .ok () ↔ trigger.Storable := by
  cases trigger with
  | atMillis timestampMs =>
    simp [runtimeValidateTrigger, schedulerValidateTrigger, validateTriggerText,
      CanonicalGraphScheduleTrigger.Storable]
  | interval startsAtMs everyMs =>
    simp only [runtimeValidateTrigger, schedulerValidateTrigger, refuseIf_eq_ok, not_or, Int.not_lt, Nat.not_lt,
      CanonicalGraphScheduleTrigger.Storable]
    exact ⟨fun both => both.1, fun both => ⟨both, both.2⟩⟩
  | runtimeEvent eventType =>
    simp [runtimeValidateTrigger, schedulerValidateTrigger, validateTriggerText,
      CanonicalGraphScheduleTrigger.Storable]
  | processOutput processId contains =>
    simp only [runtimeValidateTrigger, schedulerValidateTrigger, validateTriggerText, bind_eq_ok, exists_unit,
      runtimeValidateId_eq_ok, schedulerValidateId_eq_ok, validateScheduleText_eq_ok,
      CanonicalGraphScheduleTrigger.Storable]
    exact ⟨fun both => both.2, fun both => ⟨⟨isScheduleId_runtime both.1, both.2⟩, both⟩⟩

/-- The store accepts the triggers that can be stored, where intervals are 64 bits wide. -/
theorem validateDependencyTrigger_of {trigger : CanonicalGraphScheduleTrigger} (storable : trigger.Storable)
    (sized : ∀ startsAtMs everyMs, trigger = .interval startsAtMs everyMs → everyMs < 2 ^ 64)
    {schedule : DependencySchedule} (ids : ∀ id ∈ [schedule.scheduleId, schedule.sessionId, schedule.idempotencyId],
      isScheduleId 128 ['-', '_', ':'] id = true)
    (texts : ∀ text ∈ [schedule.style, schedule.workspace, schedule.permissionPolicy, schedule.provider,
      schedule.model], isBlank text = false) (budget : schedule.tokenBudget ≠ 0)
    (own : schedule.trigger = UpsertScheduleCommand.dependencyTrigger trigger) :
    validateDependencySchedule schedule = .ok () := by
  have identified : forM [schedule.scheduleId, schedule.sessionId, schedule.idempotencyId] validateId = .ok () :=
    forM_eq_ok.mpr fun id member => validateId_eq_ok_of (ids id member)
  simp only [List.mem_cons, List.not_mem_nil, or_false, forall_eq_or_imp, forall_eq] at texts
  obtain ⟨style, workspace, policy, provider, model⟩ := texts
  rw [validateDependencySchedule, own, identified]
  simp only [bind_eq_ok, exists_unit, refuseIf_eq_ok, style, workspace, policy, provider, model, budget,
    Bool.false_eq_true, or_self, not_false_eq_true, true_and]
  cases trigger with
  | atMillis timestampMs => rfl
  | interval startsAtMs everyMs =>
    have narrow := sized startsAtMs everyMs rfl
    have width : (UInt64.ofNat everyMs).toNat = everyMs := by
      rw [UInt64.toNat_ofNat', Nat.mod_eq_of_lt narrow]
    rw [UpsertScheduleCommand.dependencyTrigger, refuseIf_eq_ok]
    intro zero
    rw [zero] at width
    have long : 1000 ≤ everyMs := storable.2
    rw [← width] at long
    exact absurd long (by decide)
  | runtimeEvent eventType =>
    rw [UpsertScheduleCommand.dependencyTrigger, refuseIf_eq_ok, not_isBlank_of_isScheduleText storable]
    exact Bool.false_ne_true
  | processOutput processId contains =>
    rw [UpsertScheduleCommand.dependencyTrigger, refuseIf_eq_ok, not_or, not_isBlank_of_isScheduleId storable.1]
    refine ⟨Bool.false_ne_true, fun empty => ?_⟩
    have filled := not_isBlank_of_isScheduleText storable.2
    rw [String.isEmpty_iff.mp empty] at filled
    cases filled

namespace UpsertScheduleCommand

variable {command : UpsertScheduleCommand}

/-- The texts of a command fit into the bounds of the runtime and of the scheduler. -/
structure Texts (command : UpsertScheduleCommand) : Prop where
  style : isScheduleText 128 command.style
  workspace : isScheduleText 4096 command.workspace
  permissionPolicy : isScheduleText 128 command.permissionPolicy
  provider : isScheduleText 128 command.provider
  model : isScheduleText 256 command.model
  tokenBudget : command.tokenBudget ≠ 0

/-- The identifiers of a command are those of the scheduler. -/
structure Identified (command : UpsertScheduleCommand) : Prop where
  scheduleId : isScheduleId 128 ['-', '_', ':'] command.scheduleId
  sessionId : isScheduleId 128 ['-', '_', ':'] command.sessionId
  idempotencyId : isScheduleId 128 ['-', '_', ':'] command.idempotencyId

/-- A command is accepted exactly where its parts can be stored. -/
theorem accepted_iff (identified : command.Identified)
    (sized : ∀ startsAtMs everyMs, command.trigger = .interval startsAtMs everyMs → everyMs < 2 ^ 64) :
    command.Accepted ↔ command.Texts ∧ command.trigger.Storable ∧
      validateSchedulePayload schedulerValidateId command.payload = .ok () := by
  simp only [Accepted, runtimeValidate, schedulerValidate, bind_eq_ok, exists_unit, List.forM_cons, List.forM_nil,
    runtimeValidateId_eq_ok, schedulerValidateId_eq_ok, validateScheduleText_eq_ok, refuseIf_eq_ok, pure_eq_ok]
  constructor
  · rintro ⟨⟨-, -, ⟨-, workspace, -⟩, runtime, -⟩,
      ⟨-, -, -, style, -, permissionPolicy, provider, model, budget, scheduler, payload⟩, -⟩
    exact ⟨⟨style, workspace, permissionPolicy, provider, model, budget⟩,
      validateTrigger_eq_ok.mp ⟨runtime, scheduler⟩, payload⟩
  · rintro ⟨texts, storable, payload⟩
    obtain ⟨runtime, scheduler⟩ := validateTrigger_eq_ok.mpr storable
    have style := isScheduleText_mono texts.style (show 128 ≤ 4096 by decide)
    have policy := isScheduleText_mono texts.permissionPolicy (show 128 ≤ 4096 by decide)
    have provider := isScheduleText_mono texts.provider (show 128 ≤ 4096 by decide)
    have model := isScheduleText_mono texts.model (show 256 ≤ 4096 by decide)
    have workspace := isScheduleText_mono texts.workspace (show 4096 ≤ 16 * 1024 by decide)
    refine ⟨⟨isScheduleId_runtime identified.scheduleId, isScheduleId_runtime identified.idempotencyId,
      ⟨style, texts.workspace, policy, provider, model, trivial⟩, runtime, validateSchedulePayload_runtime payload⟩,
      ⟨identified.scheduleId, identified.sessionId, identified.idempotencyId, texts.style, workspace,
        texts.permissionPolicy, texts.provider, texts.model, texts.tokenBudget, scheduler, payload⟩, ?_⟩
    refine validateDependencyTrigger_of storable sized (fun id member => ?_) (fun text member => ?_) texts.tokenBudget rfl
    · simp only [toDependency, List.mem_cons, List.not_mem_nil, or_false] at member
      rcases member with rfl | rfl | rfl
      · exact identified.scheduleId
      · exact identified.sessionId
      · exact identified.idempotencyId
    · simp only [toDependency, List.mem_cons, List.not_mem_nil, or_false] at member
      rcases member with rfl | rfl | rfl | rfl | rfl
      · exact not_isBlank_of_isScheduleText style
      · exact not_isBlank_of_isScheduleText workspace
      · exact not_isBlank_of_isScheduleText policy
      · exact not_isBlank_of_isScheduleText provider
      · exact not_isBlank_of_isScheduleText model

end UpsertScheduleCommand

end Commands

section Resolutions

variable [ScheduleText]

theorem LawfulScheduleText.parseTimestamp_isOk (lawful : LawfulScheduleText) {timestamp : String}
    (valid : isRfc3339Timestamp timestamp = true) : ∃ instant, parseTimestamp timestamp = .ok instant := by
  obtain ⟨nanos, parses⟩ := Option.isSome_iff_exists.mp (lawful.parses timestamp valid)
  obtain ⟨lower, upper⟩ := lawful.bounded timestamp nanos parses
  have within : -2 ^ 63 ≤ nanos.tdiv 1000000 ∧ nanos.tdiv 1000000 < 2 ^ 63 := by
    have unit : (1000000 : Int).sign = 1 := rfl
    rw [Int.tdiv_eq_ediv, unit]
    split <;> omega
  refine ⟨nanos.tdiv 1000000, ?_⟩
  simp only [parseTimestamp, bind_eq_ok, okOr_eq_ok]
  exact ⟨nanos, parses, if_pos within⟩

theorem instantWithin_iff {range : Int → Prop} {timestamp : String} {instant : Int}
    (parses : parseTimestamp timestamp = .ok instant) : InstantWithin range timestamp ↔ range instant := by
  rw [InstantWithin]
  constructor
  · exact fun within => within instant parses
  · intro inside other again
    cases parses.symm.trans again
    exact inside

/-- What the driver stores is accepted exactly where the trigger, the texts and the identifiers of the payload are. -/
theorem accepted_upsertCommand (lawful : LawfulScheduleText) {resolved : ResolvedGraphSchedule} {hash : ContentHash}
    {bytes : List UInt8} (scheduleId : resolved.identity.scheduleId = "graph-schedule:" ++ hash.toHex)
    (idempotencyId : resolved.identity.idempotencyId = hash.toHex)
    (continuation : resolved.identity.continuationId =
      if resolved.timing.waitForTrigger then some (ScheduleText.continuationId bytes) else none)
    (sized : ∀ startsAtMs everyMs, resolved.timing.trigger = .interval startsAtMs everyMs → everyMs < 2 ^ 64)
    (context : ScheduleContext) : (resolved.upsertCommand context).Accepted ↔
      resolved.timing.trigger.Storable ∧ (resolved.timing.waitForTrigger = false →
        isScheduleId 128 ['-', '_', ':'] resolved.identity.work.runId ∧
          isScheduleId 128 ['-', '_', ':'] resolved.identity.work.nodeId) ∧ context.Storable := by
  obtain ⟨bare, prefixed⟩ := @isScheduleId_hash 128 ['-', '_', ':'] hash (by decide) (by decide) (by decide)
  have identified : (resolved.upsertCommand context).Identified := by
    refine ⟨?_, isScheduleId_uuid context.uuid (by decide) (by decide) (by decide), ?_⟩
    · rw [ResolvedGraphSchedule.upsertCommand, scheduleId]
      exact prefixed
    · rw [ResolvedGraphSchedule.upsertCommand, idempotencyId]
      exact bare
  have payload : validateSchedulePayload schedulerValidateId (resolved.upsertCommand context).payload = .ok () ↔
      (resolved.timing.waitForTrigger = false → isScheduleId 128 ['-', '_', ':'] resolved.identity.work.runId ∧
        isScheduleId 128 ['-', '_', ':'] resolved.identity.work.nodeId) := by
    cases waits : resolved.timing.waitForTrigger with
    | true =>
      have uuid : isScheduleId 128 ['-', '_', ':'] (ScheduleText.continuationId bytes) = true :=
        isScheduleId_uuid (lawful.uuids bytes) (by decide) (by decide) (by decide)
      rw [waits, if_pos rfl] at continuation
      simp [ResolvedGraphSchedule.upsertCommand, continuation, validateSchedulePayload, uuid]
    | false =>
      rw [waits, if_neg Bool.false_ne_true] at continuation
      simp [ResolvedGraphSchedule.upsertCommand, continuation, validateSchedulePayload]
  rw [UpsertScheduleCommand.accepted_iff identified sized, payload]
  constructor
  · rintro ⟨texts, storable, ids⟩
    exact ⟨storable, ids, texts.style, texts.workspace, texts.permissionPolicy, texts.provider, texts.model,
      texts.tokenBudget⟩
  · rintro ⟨storable, ids, texts⟩
    exact ⟨⟨texts.style, texts.workspace, texts.permissionPolicy, texts.provider, texts.model, texts.tokenBudget⟩,
      storable, ids⟩

variable [Hashing]

/-- A schedule is resolved and accepted exactly where its timing is, and where it can be identified. -/
theorem exists_accepted_iff (lawful : LawfulScheduleText) {sessionId : SessionId} {work : NodeWorkIdentity}
    {executor : SessionNodeExecutorResolution} {node : ExecutableNode} {executionPlanHash : ContentHash}
    {configuration : Option NodeConfiguration} {now : Int} {bindRuntimeResolution : Bool}
    (schedules : executor.Schedules node) (own : work.nodeId = node.id) (context : ScheduleContext)
    (sized : ∀ timing startsAtMs everyMs, resolveTiming executor configuration now = .ok timing →
      timing.trigger = .interval startsAtMs everyMs → everyMs < 2 ^ 64) :
    (∃ resolved, resolveGraphSchedule sessionId work executor executionPlanHash configuration now
        bindRuntimeResolution = .ok resolved ∧ (resolved.upsertCommand context).Accepted) ↔
      (∃ timing, resolveTiming executor configuration now = .ok timing ∧ timing.expiresBefore = false ∧
        timing.trigger.Storable ∧ (timing.waitForTrigger = false →
          isScheduleId 128 ['-', '_', ':'] work.runId ∧ isScheduleId 128 ['-', '_', ':'] node.id)) ∧
      context.Storable := by
  have admitted : ¬ (executor.nodeId ≠ work.nodeId ∨ executor.source ≠ .runtime ∨
      executor.nativeExecutorKey ≠ some .delay ∧ executor.nativeExecutorKey ≠ some .schedule) := by
    rintro (apart | foreign | ⟨noDelay, noSchedule⟩)
    · exact apart (schedules.nodeId.trans own.symm)
    · exact foreign schedules.source
    · rcases schedules.kind with ⟨-, isDelay⟩ | ⟨-, isSchedule⟩
      · exact noDelay isDelay
      · exact noSchedule isSchedule
  simp only [resolveGraphSchedule, bind_eq_ok, exists_unit, refuseIf_eq_ok, okOr_eq_ok, pure_eq_ok, admitted,
    not_false_eq_true, true_and, Bool.not_eq_true]
  constructor
  · rintro ⟨resolved, ⟨timing, resolves, inTime, material, -, rfl⟩, accepted⟩
    rw [accepted_upsertCommand lawful rfl rfl rfl fun startsAtMs everyMs => sized timing startsAtMs everyMs resolves]
      at accepted
    obtain ⟨storable, ids, texts⟩ := accepted
    exact ⟨⟨timing, resolves, inTime, storable, own ▸ ids⟩, texts⟩
  · rintro ⟨⟨timing, resolves, inTime, storable, ids⟩, texts⟩
    obtain ⟨material, writes⟩ := Option.isSome_iff_exists.mp (lawful.writes sessionId work executionPlanHash
      executor.adapterConfigurationReference timing.trigger
      (if bindRuntimeResolution = true then some (now, timing.resolvedDurationMs) else none) timing.cancellation)
    refine ⟨_, ⟨timing, resolves, inTime, material, writes, rfl⟩, ?_⟩
    rw [accepted_upsertCommand lawful rfl rfl rfl fun startsAtMs everyMs => sized timing startsAtMs everyMs resolves]
    exact ⟨storable, own ▸ ids, texts⟩

end Resolutions

section Compiled

variable [GraphCodec] [SerdeJson] [Hashing] {source : String} {inputs : GraphCacheInputs} {limits : CompilerLimits}
  {executable : ExecutableGraph} {node : ExecutableNode}

theorem exists_validated_of_compiled (compiles : compile source inputs limits = .ok executable)
    (member : node ∈ executable.nodes) : ∃ (definition : GraphDefinition) (nodes : StringMap NodeDefinition)
      (defined : NodeDefinition), node.id = defined.id ∧ node.kind = defined.kind ∧
        node.configuration = (effectiveNodeConfiguration defined).map canonicalizeNodeConfiguration ∧
        validateNodeConfiguration defined nodes definition limits = .ok () := by
  obtain ⟨definition, -, valid, builds⟩ := compile_eq_ok.mp compiles
  obtain ⟨nodes, variableMap, validated⟩ := validate_eq_ok.mp valid
  simp only [GraphDefinition.build, bind_eq_ok, okOr_eq_ok, pure_eq_ok] at builds
  obtain ⟨built, nodesBuilt, _, -, _, -, rfl⟩ := builds
  obtain ⟨entry, listed, returned⟩ := (mapM_mem nodesBuilt node).mp member
  simp only [executableNode, bind_eq_ok, pure_eq_ok] at returned
  obtain ⟨_, -, rfl⟩ := returned
  have inside : entry.1 ∈ definition.nodes := mem_sortBy.mp (List.fst_mem_of_mem_zipIdx listed)
  have contracts := validated.contracts
  simp only [validateNodeContracts, bind_eq_ok, exists_unit, forM_eq_ok, pure_eq_ok] at contracts
  obtain ⟨-, ofNodes, -⟩ := contracts
  obtain ⟨-, -, -, -, configured, -⟩ := ofNodes entry.1 inside
  exact ⟨definition, nodes, entry.1, rfl, rfl, rfl, configured⟩

theorem exists_executableNode {definition : GraphDefinition} (spells : GraphDefinition.parse source limits = .ok definition)
    (compiles : compile source inputs limits = .ok executable) {defined : NodeDefinition}
    (member : defined ∈ definition.nodes) : ∃ node ∈ executable.nodes, node.id = defined.id ∧ node.kind = defined.kind ∧
      node.configuration = (effectiveNodeConfiguration defined).map canonicalizeNodeConfiguration := by
  obtain ⟨parsed, again, -, builds⟩ := compile_eq_ok.mp compiles
  cases spells.symm.trans again
  simp only [GraphDefinition.build, bind_eq_ok, okOr_eq_ok, pure_eq_ok] at builds
  obtain ⟨built, nodesBuilt, _, -, _, -, rfl⟩ := builds
  have sorted : defined ∈ sortBy (compareOn NodeDefinition.id) definition.nodes := mem_sortBy.mpr member
  obtain ⟨index, bound, rfl⟩ := List.getElem_of_mem sorted
  have listed : ((sortBy (compareOn NodeDefinition.id) definition.nodes)[index], index) ∈
      (sortBy (compareOn NodeDefinition.id) definition.nodes).zipIdx :=
    List.mem_zipIdx_iff_getElem?.mpr (List.getElem?_eq_getElem bound)
  obtain ⟨node, returned⟩ := mapM_isOk.mp ⟨built, nodesBuilt⟩ _ listed
  have inside : node ∈ built := (mapM_mem nodesBuilt node).mpr ⟨_, listed, returned⟩
  simp only [executableNode, bind_eq_ok, pure_eq_ok] at returned
  obtain ⟨_, -, rfl⟩ := returned
  exact ⟨_, inside, rfl, rfl, rfl⟩

/-- A configuration is that of a delay or of a schedule. -/
def NodeConfiguration.isTimed : NodeConfiguration → Bool
  | .delay .. | .schedule .. => true
  | _ => false

omit [GraphCodec] [SerdeJson] [Hashing] in
theorem canonicalizeNodeConfiguration_timed {configuration : NodeConfiguration}
    (timed : (canonicalizeNodeConfiguration configuration).isTimed = true) :
    canonicalizeNodeConfiguration configuration = configuration := by
  cases configuration with
  | delay | schedule => rfl
  | toolExecution arguments =>
    cases arguments <;> cases timed
  | spawnChildAgent spawn =>
    rw [canonicalizeNodeConfiguration] at timed
    split at timed <;> cases timed
  | review review =>
    rw [canonicalizeNodeConfiguration] at timed
    split at timed <;> cases timed
  | persistArtifact artifact =>
    rw [canonicalizeNodeConfiguration] at timed
    split at timed <;> cases timed
  | _ => cases timed

omit [GraphCodec] [SerdeJson] [Hashing] in
theorem configuration_of_effective {defined : NodeDefinition} {configuration : NodeConfiguration}
    (same : (effectiveNodeConfiguration defined).map canonicalizeNodeConfiguration = some configuration)
    (timed : configuration.isTimed = true) : defined.configuration = some configuration := by
  obtain ⟨own, effective, rfl⟩ := Option.map_eq_some_iff.mp same
  have canonical := canonicalizeNodeConfiguration_timed timed
  rw [canonical] at timed ⊢
  cases found : defined.configuration with
  | some configured =>
    rw [effectiveNodeConfiguration, found, Option.some_or] at effective
    exact effective
  | none =>
    rw [effectiveNodeConfiguration, found, Option.none_or] at effective
    split at effective <;> cases effective <;> cases timed

theorem validated_of_timed (compiles : compile source inputs limits = .ok executable)
    (member : node ∈ executable.nodes) {configuration : NodeConfiguration}
    (configured : node.configuration = some configuration) (timed : configuration.isTimed = true) :
    ∃ (definition : GraphDefinition) (nodes : StringMap NodeDefinition) (defined : NodeDefinition),
      node.kind = defined.kind ∧
        validateConfigurationByKind defined nodes definition limits configuration = .ok () := by
  obtain ⟨definition, nodes, defined, -, kind, same, valid⟩ := exists_validated_of_compiled compiles member
  have own := configuration_of_effective (same.symm.trans configured) timed
  refine ⟨definition, nodes, defined, kind, ?_⟩
  simp only [validateNodeConfiguration, own] at valid
  split at valid
  · simp at valid
  · simp only [bind_eq_ok, exists_unit] at valid
    exact valid.2

omit [GraphCodec] [SerdeJson] [Hashing] in
theorem isRfc3339Timestamp_of_valid {kind timestamp : String}
    (valid : validateTimestamp kind timestamp limits = .ok ()) : isRfc3339Timestamp timestamp = true := by
  rw [validateTimestamp, rejectIf_eq_ok, not_or] at valid
  simpa using valid.2

theorem timestamps_of_delay (compiles : compile source inputs limits = .ok executable)
    (member : node ∈ executable.nodes) {resolution : DelayResolution} {expiration : Option String}
    {cancellation : DelayCancellation}
    (configured : node.configuration = some (.delay resolution expiration cancellation)) :
    node.kind = .delay ∧ (∀ timestamp, resolution = .wakeTimestamp timestamp → isRfc3339Timestamp timestamp = true) ∧
      ∀ timestamp, expiration = some timestamp → isRfc3339Timestamp timestamp = true := by
  obtain ⟨definition, nodes, defined, kind, valid⟩ := validated_of_timed compiles member configured rfl
  rw [validateConfigurationByKind, validateDelay] at valid
  have instants (timestamps : forM expiration.toList (fun timestamp =>
      validateTimestamp "delay expiration timestamp" timestamp limits) = .ok ()) (timestamp : String)
      (expires : expiration = some timestamp) : isRfc3339Timestamp timestamp = true :=
    isRfc3339Timestamp_of_valid (forM_eq_ok.mp timestamps timestamp (Option.mem_toList.mpr expires))
  cases resolution with
  | duration durationMs =>
    simp only [requireConfigurationKind, bind_eq_ok, exists_unit, rejectIf_eq_ok, ne_eq, not_not] at valid
    exact ⟨kind.trans valid.1, fun _ other => (by cases other), instants valid.2.2⟩
  | wakeTimestamp timestamp =>
    simp only [requireConfigurationKind, bind_eq_ok, exists_unit, rejectIf_eq_ok, ne_eq, not_not] at valid
    refine ⟨kind.trans valid.1, fun other same => ?_, instants valid.2.2⟩
    cases same
    exact isRfc3339Timestamp_of_valid valid.2.1

/-- What the compiler ensures of the trigger of a schedule. -/
theorem trigger_of_schedule (compiles : compile source inputs limits = .ok executable)
    (member : node ∈ executable.nodes) {trigger : ScheduleTrigger} {waitForTrigger : Bool}
    {cancellation : ScheduleCancellation}
    (configured : node.configuration = some (.schedule trigger waitForTrigger cancellation)) :
    node.kind = .schedule ∧ (∀ timestamp, trigger = .at timestamp → isRfc3339Timestamp timestamp = true) ∧
      (∀ interval timestamp, trigger = .interval interval (some timestamp) → isRfc3339Timestamp timestamp = true) ∧
      ∀ eventType, trigger = .runtimeEvent eventType → isName eventType limits.maxNameBytes = true := by
  obtain ⟨definition, nodes, defined, kind, valid⟩ := validated_of_timed compiles member configured rfl
  rw [validateConfigurationByKind] at valid
  cases trigger with
  | «at» timestamp =>
    simp only [validateSchedule, requireConfigurationKind, bind_eq_ok, exists_unit, rejectIf_eq_ok, ne_eq, not_not] at valid
    refine ⟨kind.trans valid.1, fun other same => ?_, fun _ _ same => (by cases same), fun _ same => (by cases same)⟩
    cases same
    exact isRfc3339Timestamp_of_valid valid.2
  | interval interval start =>
    simp only [validateSchedule, requireConfigurationKind, bind_eq_ok, exists_unit, rejectIf_eq_ok, ne_eq, not_not] at valid
    refine ⟨kind.trans valid.1, fun _ same => (by cases same), fun _ timestamp same => ?_,
      fun _ same => (by cases same)⟩
    cases same
    exact isRfc3339Timestamp_of_valid (forM_eq_ok.mp valid.2.2 timestamp (Option.mem_toList.mpr rfl))
  | runtimeEvent eventType =>
    simp only [validateSchedule, requireConfigurationKind, bind_eq_ok, exists_unit, rejectIf_eq_ok, ne_eq, not_not,
      validateName_eq_ok] at valid
    refine ⟨kind.trans valid.1, fun _ same => (by cases same), fun _ _ same => (by cases same), fun other same => ?_⟩
    cases same
    exact valid.2.1
  | processOutput processReference pattern =>
    simp only [validateSchedule, requireConfigurationKind, bind_eq_ok, exists_unit, rejectIf_eq_ok, ne_eq, not_not] at valid
    exact ⟨kind.trans valid.1, fun _ same => (by cases same), fun _ _ same => (by cases same),
      fun _ same => (by cases same)⟩

end Compiled

section Timings

variable [ScheduleText] {executor : SessionNodeExecutorResolution} {now : Int}

/-- A timing is resolved that the runtime and the scheduler can store, beside the identifiers of a payload. -/
def TimingStorable (executor : SessionNodeExecutorResolution) (configuration : Option NodeConfiguration) (now : Int)
    (identified : Prop) : Prop :=
  ∃ timing, resolveTiming executor configuration now = .ok timing ∧ timing.expiresBefore = false ∧
    timing.trigger.Storable ∧ (timing.waitForTrigger = false → identified)

theorem parseOptionalTimestamp_isOk (lawful : LawfulScheduleText) {expiration : Option String}
    (valid : ∀ timestamp, expiration = some timestamp → isRfc3339Timestamp timestamp = true) :
    ∃ expires, parseOptionalTimestamp expiration = .ok expires ∧ ∀ range : Int → Prop,
      (∀ timestamp, expiration = some timestamp → InstantWithin range timestamp) ↔
        ∀ instant, expires = some instant → range instant := by
  cases expiration with
  | none => exact ⟨none, rfl, fun range => ⟨fun _ _ same => (by cases same), fun _ _ same => (by cases same)⟩⟩
  | some timestamp =>
    obtain ⟨instant, parses⟩ := lawful.parseTimestamp_isOk (valid timestamp rfl)
    refine ⟨some instant, by rw [parseOptionalTimestamp, parses]; rfl, fun range => ⟨?_, ?_⟩⟩
    · rintro within other same
      cases same
      exact (instantWithin_iff parses).mp (within timestamp rfl)
    · rintro inside other same
      cases same
      exact (instantWithin_iff parses).mpr (inside instant rfl)

theorem delay_storable_iff (lawful : LawfulScheduleText) (native : executor.nativeExecutorKey = some .delay)
    {resolution : DelayResolution} {expiration : Option String} {cancellation : DelayCancellation} {instant : Int}
    {duration : Option Nat} (resolves : delayTrigger now resolution = .ok (.atMillis instant, duration))
    (valid : ∀ timestamp, expiration = some timestamp → isRfc3339Timestamp timestamp = true) (identified : Prop) :
    TimingStorable executor (some (.delay resolution expiration cancellation)) now identified ↔
      WakesInTime expiration instant := by
  obtain ⟨expires, parses, within⟩ := parseOptionalTimestamp_isOk lawful valid
  have timings : resolveTiming executor (some (.delay resolution expiration cancellation)) now =
      .ok ⟨.atMillis instant, duration, expires, true, false, cancellation.policy⟩ := by
    rw [resolveTiming, refuseIf, if_neg (not_not.mpr native), resolves, parses]
    rfl
  have inTime : (ScheduleTiming.mk (.atMillis instant) duration expires true false cancellation.policy).expiresBefore =
      false ↔ ∀ limit, expires = some limit → instant ≤ limit := by
    cases expires with
    | none => simp [ScheduleTiming.expiresBefore]
    | some limit => simp [ScheduleTiming.expiresBefore]
  rw [TimingStorable, WakesInTime, within, timings]
  constructor
  · rintro ⟨timing, same, early, storable, -⟩
    cases same
    exact ⟨storable, inTime.mp early⟩
  · rintro ⟨storable, early⟩
    exact ⟨_, rfl, inTime.mpr early, storable, fun waits => by cases waits⟩

theorem not_delay_storable {resolution : DelayResolution} {expiration : Option String}
    {cancellation : DelayCancellation} {error : GraphScheduleError} (fails : delayTrigger now resolution = .error error)
    (identified : Prop) :
    ¬ TimingStorable executor (some (.delay resolution expiration cancellation)) now identified := by
  rintro ⟨timing, resolves, -⟩
  simp only [resolveTiming, bind_eq_ok, fails] at resolves
  obtain ⟨_, -, _, triggers, -⟩ := resolves
  cases triggers

/-- A schedule whose trigger is resolved can be stored exactly where the trigger is, and the identifiers of what it
triggers. -/
theorem schedule_storable_iff (native : executor.nativeExecutorKey = some .schedule) {trigger : ScheduleTrigger}
    {waitForTrigger : Bool} {cancellation : ScheduleCancellation} {canonical : CanonicalGraphScheduleTrigger}
    {duration : Option Nat} (resolves : scheduleTrigger now waitForTrigger trigger = .ok (canonical, duration))
    (identified : Prop) :
    TimingStorable executor (some (.schedule trigger waitForTrigger cancellation)) now identified ↔
      canonical.Storable ∧ (waitForTrigger = false → identified) := by
  have timings : resolveTiming executor (some (.schedule trigger waitForTrigger cancellation)) now =
      .ok ⟨canonical, duration, none, waitForTrigger, true, cancellation.policy⟩ := by
    rw [resolveTiming, refuseIf, if_neg (not_not.mpr native), resolves]
    rfl
  have inTime : (ScheduleTiming.mk canonical duration none waitForTrigger true cancellation.policy).expiresBefore =
      false := by
    cases canonical <;> rfl
  rw [TimingStorable, timings]
  constructor
  · rintro ⟨timing, same, -, both⟩
    cases same
    exact both
  · rintro both
    exact ⟨_, rfl, inTime, both⟩

end Timings

section Agreement

variable [GraphCodec] [SerdeJson] [Hashing] [ScheduleText] {source : String} {inputs : GraphCacheInputs}
  {limits : CompilerLimits} {executable : ExecutableGraph} {node : ExecutableNode}
  {executor : SessionNodeExecutorResolution} {now : Int}

omit [GraphCodec] [SerdeJson] [Hashing] [ScheduleText] in
theorem checkedI64_of_isSome {value : Int} (checked : (checkedI64 value).isSome) : checkedI64 value = some value := by
  rw [checkedI64] at checked ⊢
  split at checked
  · rw [if_pos ‹_›]
  · cases checked

omit [GraphCodec] [SerdeJson] [Hashing] [ScheduleText] in
theorem SessionNodeExecutorResolution.Schedules.native (schedules : executor.Schedules node) :
    (node.kind = .delay → executor.nativeExecutorKey = some .delay) ∧
      (node.kind = .schedule → executor.nativeExecutorKey = some .schedule) := by
  rcases schedules.kind with ⟨isDelay, native⟩ | ⟨isSchedule, native⟩
  · exact ⟨fun _ => native, fun same => (by cases isDelay.symm.trans same)⟩
  · exact ⟨fun same => (by cases isSchedule.symm.trans same), fun _ => native⟩

/-- A compiled delay can be executed exactly where it wakes in time. -/
theorem delay_timing_iff (lawful : LawfulScheduleText) (compiles : compile source inputs limits = .ok executable)
    (member : node ∈ executable.nodes) (schedules : executor.Schedules node) (timed : node.Timed now)
    {resolution : DelayResolution} {expiration : Option String} {cancellation : DelayCancellation}
    (configured : node.configuration = some (.delay resolution expiration cancellation)) {runId : String}
    (identified : Prop) :
    TimingStorable executor node.configuration now identified ↔ node.Storable runId now := by
  obtain ⟨kind, wakes, expires⟩ := timestamps_of_delay compiles member configured
  have native := schedules.native.1 kind
  rw [ExecutableNode.Timed, configured] at timed
  rw [ExecutableNode.Storable, configured]
  cases resolution with
  | duration durationMs =>
    by_cases fits : (checkedI64 durationMs).isSome
    · have resolves : delayTrigger now (.duration durationMs) = .ok (.atMillis (now + durationMs), some durationMs) := by
        simp only [delayTrigger, bind_eq_ok, okOr_eq_ok, pure_eq_ok]
        exact ⟨_, checkedI64_of_isSome fits, _, checkedI64_of_isSome timed, rfl⟩
      rw [delay_storable_iff lawful native resolves expires]
      exact ⟨fun inTime => ⟨fits, inTime⟩, fun both => both.2⟩
    · have fails : delayTrigger now (.duration durationMs) = .error .invalidConfiguration := by
        rw [Option.not_isSome_iff_eq_none] at fits
        rw [delayTrigger, fits]
        rfl
      exact ⟨fun storable => absurd storable (not_delay_storable fails identified), fun both => absurd both.1 fits⟩
  | wakeTimestamp timestamp =>
    obtain ⟨instant, parses⟩ := lawful.parseTimestamp_isOk (wakes timestamp rfl)
    have resolves : delayTrigger now (.wakeTimestamp timestamp) =
        .ok (.atMillis instant, durationUntil instant now) := by
      rw [delayTrigger, parses]
      rfl
    rw [delay_storable_iff lawful native resolves expires]
    exact (instantWithin_iff parses).symm

/-- A compiled schedule can be executed exactly where its trigger can be stored. -/
theorem schedule_timing_iff (lawful : LawfulScheduleText) (compiles : compile source inputs limits = .ok executable)
    (member : node ∈ executable.nodes) (schedules : executor.Schedules node)
    {trigger : ScheduleTrigger} {waitForTrigger : Bool} {cancellation : ScheduleCancellation}
    (configured : node.configuration = some (.schedule trigger waitForTrigger cancellation)) {runId : String} :
    TimingStorable executor node.configuration now
      (isScheduleId 128 ['-', '_', ':'] runId ∧ isScheduleId 128 ['-', '_', ':'] node.id) ↔
        node.Storable runId now := by
  obtain ⟨kind, instants, starts, events⟩ := trigger_of_schedule compiles member configured
  have native := schedules.native.2 kind
  rw [ExecutableNode.Storable, configured]
  cases trigger with
  | «at» timestamp =>
    obtain ⟨instant, parses⟩ := lawful.parseTimestamp_isOk (instants timestamp rfl)
    have resolves : scheduleTrigger now waitForTrigger (.at timestamp) =
        .ok (.atMillis instant, durationUntil instant now) := by
      rw [scheduleTrigger, parses]
      rfl
    have within := @instantWithin_iff _ (0 ≤ ·) timestamp instant parses
    rw [schedule_storable_iff native resolves]
    exact and_congr_left fun _ => within.symm
  | interval intervalMs start =>
    cases waitForTrigger with
    | true =>
      constructor
      · rintro ⟨timing, resolves, -⟩
        simp only [resolveTiming, scheduleTrigger, bind_eq_ok, refuseIf_eq_ok] at resolves
        obtain ⟨_, -, _, ⟨_, waits, -⟩, -⟩ := resolves
        exact (waits trivial).elim
      · rintro ⟨⟨waits, -⟩, -⟩
        cases waits
    | false =>
      have valid : ∀ timestamp, start = some timestamp → isRfc3339Timestamp timestamp = true :=
        fun timestamp same => starts intervalMs timestamp (same ▸ rfl)
      obtain ⟨begins, parses, within⟩ := parseOptionalTimestamp_isOk lawful valid
      have resolves : scheduleTrigger now false (.interval intervalMs start) =
          .ok (.interval (begins.getD now) intervalMs, some intervalMs) := by
        rw [scheduleTrigger, parses]
        rfl
      rw [schedule_storable_iff native resolves]
      refine and_congr_left fun _ => ?_
      cases start with
      | none =>
        cases parses
        exact ⟨fun both => ⟨rfl, both.2, both.1⟩, fun both => ⟨both.2.2, both.2.1⟩⟩
      | some timestamp =>
        obtain ⟨instant, instants⟩ := lawful.parseTimestamp_isOk (valid timestamp rfl)
        rw [parseOptionalTimestamp, instants] at parses
        cases parses
        have begun := @instantWithin_iff _ (0 ≤ ·) timestamp instant instants
        exact ⟨fun both => ⟨rfl, both.2, begun.mpr both.1⟩, fun both => ⟨begun.mp both.2.2, both.2.1⟩⟩
  | runtimeEvent eventType =>
    rw [schedule_storable_iff native rfl]
    exact and_congr_left fun _ => isScheduleText_of_isName (events eventType rfl)
  | processOutput processReference pattern =>
    rw [schedule_storable_iff native rfl]
    rfl

omit [GraphCodec] [SerdeJson] [Hashing] in
/-- The interval of a resolved schedule is the configured one. -/
theorem interval_of_resolveTiming (timed : node.Timed now) {timing : ScheduleTiming} {startsAtMs : Int} {everyMs : Nat}
    (resolves : resolveTiming executor node.configuration now = .ok timing)
    (recurs : timing.trigger = .interval startsAtMs everyMs) : everyMs < 2 ^ 64 := by
  rw [ExecutableNode.Timed] at timed
  rw [resolveTiming.eq_def] at resolves
  split at resolves
  · rename_i resolution expiration cancellation configured
    simp only [bind_eq_ok, exists_unit, pure_eq_ok] at resolves
    obtain ⟨-, ⟨trigger, duration⟩, triggers, _, -, rfl⟩ := resolves
    cases resolution with
    | duration durationMs =>
      simp only [delayTrigger, bind_eq_ok, pure_eq_ok] at triggers
      obtain ⟨_, -, _, -, same⟩ := triggers
      cases same
      cases recurs
    | wakeTimestamp timestamp =>
      simp only [delayTrigger, bind_eq_ok, pure_eq_ok] at triggers
      obtain ⟨_, -, same⟩ := triggers
      cases same
      cases recurs
  · rename_i trigger waitForTrigger cancellation configured
    rw [configured] at timed
    simp only [bind_eq_ok, exists_unit, pure_eq_ok] at resolves
    obtain ⟨-, ⟨canonical, duration⟩, triggers, rfl⟩ := resolves
    cases trigger with
    | «at» timestamp =>
      simp only [scheduleTrigger, bind_eq_ok, pure_eq_ok] at triggers
      obtain ⟨_, -, same⟩ := triggers
      cases same
      cases recurs
    | interval intervalMs start =>
      simp only [scheduleTrigger, bind_eq_ok, exists_unit, pure_eq_ok] at triggers
      obtain ⟨-, _, -, same⟩ := triggers
      cases same
      cases recurs
      exact timed
    | runtimeEvent eventType =>
      cases triggers
      cases recurs
    | processOutput processReference pattern =>
      cases triggers
      cases recurs
  · cases resolves

/-- A compiled delay or schedule is resolved, and accepted by the runtime and by the scheduler, exactly where its
configuration, its identifiers and the texts of its session fit into the bounds of these. -/
theorem schedules_storable (lawful : LawfulScheduleText) (compiles : compile source inputs limits = .ok executable)
    (member : node ∈ executable.nodes) (schedules : executor.Schedules node) {work : NodeWorkIdentity}
    (own : work.nodeId = node.id) (timed : node.Timed now) (context : ScheduleContext) (sessionId : SessionId)
    (executionPlanHash : ContentHash) (bindRuntimeResolution : Bool) :
    (∃ resolved, resolveGraphSchedule sessionId work executor executionPlanHash node.configuration now
        bindRuntimeResolution = .ok resolved ∧ (resolved.upsertCommand context).Accepted) ↔
      node.Storable work.runId now ∧ context.Storable := by
  rw [exists_accepted_iff lawful schedules own context fun timing startsAtMs everyMs resolves recurs =>
    interval_of_resolveTiming timed resolves recurs]
  refine and_congr_left fun _ => ?_
  change TimingStorable executor node.configuration now _ ↔ _
  cases configured : node.configuration with
  | none =>
    rw [ExecutableNode.Storable, configured]
    constructor
    · rintro ⟨timing, resolves, -⟩
      cases resolves
    · exact False.elim
  | some configuration =>
    rw [← configured]
    cases configuration with
    | delay resolution expiration cancellation => exact delay_timing_iff lawful compiles member schedules timed configured _
    | schedule trigger waitForTrigger cancellation => exact schedule_timing_iff lawful compiles member schedules configured
    | _ =>
      rw [ExecutableNode.Storable, configured]
      constructor
      · rintro ⟨timing, resolves, -⟩
        cases resolves
      · exact False.elim

end Agreement

section Sample

/-- A schedule that recurs every millisecond. -/
def tickConfiguration : NodeConfiguration := .schedule (.interval 1 none) false .cancelTrigger

/-- The entry of a graph that ticks. -/
def tickNode : NodeDefinition := .configured "tick" .schedule tickConfiguration

/-- A graph that ticks, and is done. -/
def tickGraph : GraphDefinition where
  formatVersion := 1
  entry := "tick"
  budget := { maxSteps := 100, maxTokens := 1, maxCostMicros := 1, maxDurationMs := 1000 }
  declarations :=
    { capabilities := .ofList ["scheduling"], tools := ∅, providers := ∅, events := ∅, plugins := ∅ }
  «variables» := []
  nodes := [tickNode, .plain "done" .completeTurn]
  edges := [{ source := "tick", target := "done", condition := none, label := none }]

/-- The lines of the source that spells the graph. -/
def tickLines : List String := [
  "format_version = 1", "entry = 'tick'",
  "[budget]", "max_steps = 100", "max_tokens = 1", "max_cost_micros = 1", "max_duration_ms = 1000",
  "[declarations]", "capabilities = ['scheduling']",
  "[[nodes]]", "id = 'tick'", "kind = 'schedule'", "configuration.type = 'schedule'",
  "configuration.trigger.kind = 'interval'", "configuration.trigger.interval_ms = 1",
  "configuration.wait_for_trigger = false", "configuration.cancellation = 'cancel_trigger'",
  "[[nodes]]", "id = 'done'", "kind = 'complete_turn'",
  "[[edges]]", "source = 'tick'", "target = 'done'"]

/-- A codec for the graph that ticks. -/
abbrev tickCodec : GraphCodec where
  definitionFromToml text := okOr ([(tomlText tickLines, tickGraph)].lookup text) "unknown source"
  configurationToVec _ := .ok <| utf8Bytes <| String.toList <|
    "\x7b\"type\":\"schedule\",\"trigger\":\x7b\"kind\":\"interval\",\"interval_ms\":1," ++
      "\"start_timestamp\":null\x7d,\"wait_for_trigger\":false,\"cancellation\":\"cancel_trigger\"\x7d"
  jsonToVec _ := .error "unknown value"

/-- A stand-in for what schedules are parsed and identified by. -/
abbrev tickSchedules : ScheduleText where
  parseRfc3339 value := if isRfc3339Timestamp value then some 0 else none
  identityToVec _ work _ _ _ _ _ := some (utf8Bytes work.nodeId.toList)
  triggerToString _ := some "tick"
  continuationId _ := "00000000-0000-0000-0000-000000000000"
  proposalDigest _ := none

/-- The cache inputs of a runtime that can schedule. -/
def tickInputs : GraphCacheInputs where
  pluginSetHash := ⟨.replicate 32 0⟩
  runtimeApiVersion := "1.0"
  capabilitySet := .ofList ["scheduling"]

/-- What the tick is stored with. -/
def tickContext : ScheduleContext where
  sessionId := "00000000-0000-0000-0000-000000000001"
  style := "ticking"
  workspace := "/w"
  permissionPolicy := "allow"
  provider := "openai"
  model := "gpt"
  tokenBudget := 1
  costBudgetMicros := 1
  uuid := by decide

/-- The work of the tick. -/
def tickWork : NodeWorkIdentity := ⟨"style-run:session", "tick", [], 1, 0, 1⟩

attribute [local instance] tickCodec noLiterals prefixHash tickSchedules

set_option maxRecDepth 8000 in
theorem accepts_tickGraph : Accepts (tomlText tickLines) tickInputs .default tickGraph := by
  refine accepts_iff.mpr ⟨parse_tomlText (by decide +kernel) ?_, by decide +kernel⟩
  simp [GraphCodec.definitionFromToml, okOr]

/-- The executor of the tick. -/
def tickExecutor : SessionNodeExecutorResolution where
  nodeId := "tick"
  nodeKind := "schedule"
  executorId := "runtime.schedule"
  executorVersion := "1.0.0"
  source := .runtime
  boundary := .runtimeLogic
  requiredCapabilities := []
  resolvedCapabilities := []
  runtimeApiRequirement := "1"
  executorDeclarationHash := zeroHash
  adapterConfigurationReference := zeroHash

theorem exists_compiled_tick : ∃ executable node, compile (tomlText tickLines) tickInputs .default = .ok executable ∧
    node ∈ executable.nodes ∧ tickExecutor.Schedules node ∧ node.id = "tick" ∧
      node.configuration = some tickConfiguration := by
  obtain ⟨executable, compiles⟩ := accepts_tickGraph.compiles
  obtain ⟨node, member, id, kind, configured⟩ := exists_executableNode accepts_tickGraph.spells compiles
    (show tickNode ∈ tickGraph.nodes from List.mem_cons_self)
  exact ⟨executable, node, compiles, member, ⟨id.symm, rfl, .inr ⟨kind, by decide⟩⟩, id, configured⟩

theorem timed_tick {node : ExecutableNode} (configured : node.configuration = some tickConfiguration) :
    node.Timed 0 := by
  rw [ExecutableNode.Timed, configured, tickConfiguration]
  decide

theorem parseRfc3339_tick {value : String} :
    ScheduleText.parseRfc3339 value = if isRfc3339Timestamp value then some 0 else none := rfl

theorem lawful_tickSchedules : LawfulScheduleText where
  parses := by
    intro value valid
    rw [parseRfc3339_tick, if_pos valid]
    rfl
  bounded := by
    intro value nanos parses
    rw [parseRfc3339_tick, Option.ite_none_right_eq_some] at parses
    cases parses.2
    decide
  writes := fun _ _ _ _ _ _ _ => rfl
  uuids := by
    intro bytes
    exact show isUuidText "00000000-0000-0000-0000-000000000000" = true from by decide

/-- The tick can be stored exactly where it is a schedule that can be. -/
theorem schedules_storable_tick : ∃ executable node,
    compile (tomlText tickLines) tickInputs .default = .ok executable ∧ node ∈ executable.nodes ∧
      ((∃ resolved, resolveGraphSchedule "session" tickWork tickExecutor zeroHash node.configuration 0 true =
          .ok resolved ∧ (resolved.upsertCommand tickContext).Accepted) ↔
        node.Storable tickWork.runId 0 ∧ tickContext.Storable) := by
  obtain ⟨executable, node, compiles, member, schedules, id, configured⟩ := exists_compiled_tick
  exact ⟨executable, node, compiles, member, schedules_storable lawful_tickSchedules compiles member schedules id.symm
    (timed_tick configured) tickContext "session" zeroHash true⟩

/-- The compiler accepts a schedule that recurs every millisecond, which is rejected when it is executed. -/
theorem not_schedules_storable : ∃ executable node,
    compile (tomlText tickLines) tickInputs .default = .ok executable ∧ node ∈ executable.nodes ∧
      tickExecutor.Schedules node ∧ node.Timed 0 ∧ tickContext.Storable ∧
      ¬ ∃ resolved, resolveGraphSchedule "session" tickWork tickExecutor zeroHash node.configuration 0 true =
        .ok resolved ∧ (resolved.upsertCommand tickContext).Accepted := by
  obtain ⟨executable, node, compiles, member, schedules, id, configured⟩ := exists_compiled_tick
  have timed := timed_tick configured
  refine ⟨executable, node, compiles, member, schedules, timed, ⟨by decide, by decide, by decide, by decide, by decide,
    by decide⟩, ?_⟩
  rw [exists_accepted_iff lawful_tickSchedules schedules id.symm tickContext fun timing startsAtMs everyMs =>
    interval_of_resolveTiming timed]
  rintro ⟨⟨timing, resolves, -, storable, -⟩, -⟩
  rw [configured] at resolves
  cases resolves
  exact absurd storable.2 (by decide)

end Sample

end AgentMod
