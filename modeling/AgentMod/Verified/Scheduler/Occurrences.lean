import AgentMod.Library.Hex
import AgentMod.Scheduler.Runs

/-! The instants of a trigger, the states that a schedule passes through, and the names of files of schedules and claims. -/

namespace AgentMod

section Instants

variable {left sum instant later : Int64} {right : Int} {trigger : DependencyTrigger}
  {schedule : DependencySchedule} {index other : Nat}

theorem checkedAddMillis_eq_some : checkedAddMillis left right = some sum ↔ sum.toInt = left.toInt + right := by
  rw [checkedAddMillis]
  split
  · next inRange =>
    rw [Option.some_inj, ← Int64.toInt_inj, Int64.toInt_ofInt_of_le inRange.1 inRange.2]
    exact eq_comm
  · next outside =>
    simp only [reduceCtorEq, false_iff]
    intro same
    have low := sum.le_toInt
    have high := sum.toInt_lt
    exact outside ⟨same ▸ low, same ▸ high⟩

theorem occurrence_interval {startsAtMs : Int64} {everyMs : UInt64} :
    (DependencyTrigger.interval startsAtMs everyMs).occurrence index = some instant ↔
      instant.toInt = startsAtMs.toInt + index * everyMs.toNat :=
  checkedAddMillis_eq_some

theorem occurrence_zero : trigger.occurrence 0 = trigger.firstDue := by
  cases trigger with
  | interval startsAtMs everyMs => exact occurrence_interval.mpr (by simp)
  | _ => rfl

theorem behind_zero : ScheduleState.behind schedule 0 = ⟨schedule, schedule.trigger.firstDue, false⟩ := by
  rw [ScheduleState.behind, occurrence_zero]
  cases schedule.trigger <;> rfl

theorem advance_behind (narrow : schedule.trigger.Narrow)
    (due : schedule.trigger.occurrence index = some instant) :
    (ScheduleState.behind schedule index).advance instant =
      .ok (ScheduleState.behind schedule (index + 1)) := by
  rw [ScheduleState.advance, ScheduleState.behind, ScheduleState.behind]
  cases triggered : schedule.trigger with
  | atMillis value => simp [DependencyTrigger.occurrence]
  | interval startsAtMs everyMs =>
    rw [triggered] at narrow due
    rw [DependencyTrigger.Narrow] at narrow
    have instants := occurrence_interval.mp due
    have next : checkedAddMillis instant everyMs.toNat =
        (DependencyTrigger.interval startsAtMs everyMs).occurrence (index + 1) := by
      rw [DependencyTrigger.occurrence, checkedAddMillis, checkedAddMillis, instants]
      push_cast
      rw [Int.add_mul, Int.one_mul, Int.add_assoc]
    simp only [refuseIf, if_neg (Nat.not_le.mpr narrow), next]
    rfl
  | runtimeEvent eventType =>
    rw [triggered] at due
    cases due
  | processOutput processId contains =>
    rw [triggered] at due
    cases due

theorem advance_wide (wide : ¬ schedule.trigger.Narrow) :
    (ScheduleState.behind schedule index).advance instant = reject .invalid := by
  rw [ScheduleState.advance, ScheduleState.behind]
  cases triggered : schedule.trigger with
  | interval startsAtMs everyMs =>
    rw [triggered, DependencyTrigger.Narrow, Nat.not_lt] at wide
    simp only [refuseIf, if_pos wide]
    rfl
  | atMillis _ | runtimeEvent _ | processOutput _ _ =>
    rw [triggered] at wide
    exact absurd trivial wide

theorem everyMs_pos {startsAtMs : Int64} {everyMs : UInt64} (valid : validateDependencySchedule schedule = .ok ())
    (triggered : schedule.trigger = .interval startsAtMs everyMs) : 0 < everyMs.toNat := by
  simp only [validateDependencySchedule, triggered, bind_eq_ok, exists_unit, refuseIf_eq_ok] at valid
  refine Nat.pos_of_ne_zero fun zero => valid.2.2 ?_
  rw [← UInt64.toNat_inj]
  exact zero

theorem validateId_of_schedule (valid : validateDependencySchedule schedule = .ok ()) :
    validateId schedule.scheduleId = .ok () := by
  simp only [validateDependencySchedule, bind_eq_ok, exists_unit, forM_eq_ok, List.forall_mem_cons] at valid
  exact valid.1.1

theorem occurrence_lt (valid : validateDependencySchedule schedule = .ok ())
    (first : schedule.trigger.occurrence index = some instant)
    (second : schedule.trigger.occurrence other = some later) (before : index < other) :
    instant < later := by
  cases triggered : schedule.trigger with
  | atMillis value =>
    rw [triggered] at second
    obtain ⟨other, rfl⟩ := Nat.exists_eq_add_of_lt before
    cases second
  | interval startsAtMs everyMs =>
    have positive := everyMs_pos valid triggered
    rw [triggered, occurrence_interval] at first second
    rw [Int64.lt_iff_toInt_lt, first, second]
    have scaled : index * everyMs.toNat < other * everyMs.toNat :=
      Nat.mul_lt_mul_of_pos_right before positive
    exact_mod_cast Int.add_lt_add_left (Int.ofNat_lt.mpr scaled) startsAtMs.toInt
  | runtimeEvent eventType =>
    rw [triggered] at first
    cases first
  | processOutput processId contains =>
    rw [triggered] at first
    cases first

theorem occurrence_index_inj (valid : validateDependencySchedule schedule = .ok ())
    (first : schedule.trigger.occurrence index = some instant)
    (second : schedule.trigger.occurrence other = some instant) : index = other := by
  rcases Nat.lt_trichotomy index other with before | same | behind
  · exact absurd (occurrence_lt valid first second before) (Int64.lt_irrefl)
  · exact same
  · exact absurd (occurrence_lt valid second first behind) (Int64.lt_irrefl)

theorem occurrence_of_le (inRange : trigger.occurrence other = some later) (before : index ≤ other) :
    ∃ instant, trigger.occurrence index = some instant := by
  cases trigger with
  | atMillis value =>
    cases other with
    | zero =>
      obtain rfl := Nat.le_zero.mp before
      exact ⟨value, rfl⟩
    | succ other => cases inRange
  | interval startsAtMs everyMs =>
    rw [occurrence_interval] at inRange
    have scaled : ((index * everyMs.toNat : Nat) : Int) ≤ (other * everyMs.toNat : Nat) :=
      Int.ofNat_le.mpr (Nat.mul_le_mul_right _ before)
    push_cast at scaled
    have start := startsAtMs.le_toInt
    have finish := later.toInt_lt
    have positive : (0 : Int) ≤ index * everyMs.toNat :=
      Int.mul_nonneg (Int.natCast_nonneg _) (Int.natCast_nonneg _)
    refine ⟨.ofInt (startsAtMs.toInt + index * everyMs.toNat), occurrence_interval.mpr ?_⟩
    exact Int64.toInt_ofInt_of_le (by omega) (by omega)
  | runtimeEvent eventType => cases inRange
  | processOutput processId contains => cases inRange

end Instants

section Identifiers

variable {id other : String} {character : Char} {byte : UInt8}

theorem not_mem_of_validateId (valid : validateId id = .ok ())
    (encodes : String.utf8EncodeChar character = [byte]) (excluded : isSchedulerIdByte byte = false) :
    character ∉ id.toList := by
  simp only [validateId, refuseIf_eq_ok, not_or, not_not, List.all_eq_true] at valid
  intro member
  have listed : byte ∈ utf8Bytes id.toList :=
    List.mem_flatMap.mpr ⟨character, member, by rw [encodes]; exact List.mem_singleton_self _⟩
  rw [valid.2.2 byte listed] at excluded
  cases excluded

/-- A character of a portable file stem that stands for itself. -/
def portableCharacter (character : Char) : List Char :=
  if character = ':' then ['%', '3', 'A'] else [character]

/-- Texts without the escape character are distinguished by their portable forms. -/
theorem flatMap_portableCharacter_inj {left right : List Char} (leftFree : '%' ∉ left)
    (rightFree : '%' ∉ right)
    (same : left.flatMap portableCharacter = right.flatMap portableCharacter) : left = right := by
  induction left generalizing right with
  | nil =>
    cases right with
    | nil => rfl
    | cons head rest =>
      rw [List.flatMap_cons, portableCharacter] at same
      split at same <;> cases same
  | cons first others ih =>
    rw [List.mem_cons, not_or] at leftFree
    cases right with
    | nil =>
      rw [List.flatMap_cons, portableCharacter] at same
      split at same <;> cases same
    | cons head rest =>
      rw [List.mem_cons, not_or] at rightFree
      rw [List.flatMap_cons, List.flatMap_cons, portableCharacter, portableCharacter] at same
      -- Only the escaped character begins with the escape character.
      by_cases colon : first = ':' <;> by_cases otherColon : head = ':'
      · simp only [colon, otherColon, if_true, List.cons_append, List.nil_append, List.cons.injEq,
          true_and] at same
        rw [colon, otherColon, ih leftFree.2 rightFree.2 same]
      · simp only [colon, otherColon, if_true, if_false, List.cons_append, List.cons.injEq] at same
        exact absurd same.1 rightFree.1
      · simp only [colon, otherColon, if_true, if_false, List.cons_append, List.cons.injEq] at same
        exact absurd same.1.symm leftFree.1
      · simp only [colon, otherColon, if_false, List.cons_append, List.nil_append,
          List.cons.injEq] at same
        rw [same.1, ih leftFree.2 rightFree.2 same.2]

theorem toList_portableScheduleFileStem :
    (portableScheduleFileStem id).toList = id.toList.flatMap portableCharacter := by
  rw [portableScheduleFileStem, String.toList_ofList]
  rfl

theorem append_right_inj {left right ending : String} (same : left ++ ending = right ++ ending) :
    left = right := by
  have texts := congrArg String.toList same
  rw [String.toList_append, String.toList_append, List.append_left_inj] at texts
  exact String.toList_inj.mp texts

theorem not_escaped (valid : validateId id = .ok ()) : '%' ∉ id.toList :=
  not_mem_of_validateId valid rfl (by decide)

theorem not_separated (valid : validateId id = .ok ()) : '\x00' ∉ id.toList :=
  not_mem_of_validateId valid rfl (by decide)

theorem scheduleFile_inj (valid : validateId id = .ok ()) (validOther : validateId other = .ok ())
    (same : scheduleFile id = scheduleFile other) : id = other := by
  have stems := congrArg String.toList (append_right_inj same)
  rw [toList_portableScheduleFileStem, toList_portableScheduleFileStem] at stems
  exact String.toList_inj.mp
    (flatMap_portableCharacter_inj (not_escaped valid) (not_escaped validOther) stems)

theorem legacy_eq (valid : validateId id = .ok ())
    (same : id ++ ".json" = scheduleFile other) : id = other := by
  have stems := congrArg String.toList (append_right_inj same)
  rw [toList_portableScheduleFileStem] at stems
  have plain : ':' ∉ other.toList := by
    intro colon
    refine not_escaped valid ?_
    rw [stems, List.mem_flatMap]
    exact ⟨':', colon, by decide⟩
  have unchanged : ∀ text : List Char, ':' ∉ text → text.flatMap portableCharacter = text := by
    intro text free
    induction text with
    | nil => rfl
    | cons head rest ih =>
      rw [List.mem_cons, not_or] at free
      rw [List.flatMap_cons, portableCharacter, if_neg (Ne.symm free.1), ih free.2]
      rfl
  rw [unchanged _ plain] at stems
  exact String.toList_inj.mp stems

theorem extension_scheduleFile (valid : validateId id = .ok ()) :
    extension (scheduleFile id) = some "json" := by
  have split : scheduleFile id = portableScheduleFileStem id ++ "." ++ "json" := by
    rw [scheduleFile, String.append_assoc]
    rfl
  rw [split]
  refine extension_append ?_ (by decide)
  intro empty
  have stem := congrArg String.toList empty
  rw [toList_portableScheduleFileStem, String.toList_empty, List.flatMap_eq_nil_iff] at stem
  have nothing : id.toList = [] := by
    refine List.eq_nil_iff_forall_not_mem.mpr fun character member => ?_
    have encoded := stem character member
    rw [portableCharacter] at encoded
    split at encoded <;> cases encoded
  simp only [validateId, refuseIf_eq_ok, not_or] at valid
  exact valid.1 (by rw [String.toList_eq_nil_iff.mp nothing]; rfl)

end Identifiers

section Occurrences

theorem repr_inj {left right : Int} (same : left.repr = right.repr) : left = right := by
  have digits : ∀ {m n : Nat}, m.repr = n.repr → m = n := by
    intro m n same
    have texts := congrArg (fun text => Nat.ofDigitChars 10 text.toList 0) same
    simpa only [Nat.toList_repr, Nat.ofDigitChars_ten_toDigits] using texts
  have unsigned : ∀ n : Nat, '-' ∉ n.repr.toList := by
    intro n member
    rw [Nat.toList_repr] at member
    exact absurd (Nat.isDigit_of_mem_toDigits (by decide) (by decide) member) (by decide)
  have signed : ∀ n : Nat, '-' ∈ (Int.negSucc n).repr.toList := by
    intro n
    rw [Int.repr, String.toList_append]
    simp
  cases left with
  | ofNat m =>
    cases right with
    | ofNat n => rw [digits same]
    | negSucc n =>
      have minus : '-' ∈ (Int.ofNat m).repr.toList := same ▸ signed n
      exact absurd minus (unsigned m)
  | negSucc m =>
    cases right with
    | ofNat n =>
      have minus : '-' ∈ (Int.ofNat n).repr.toList := same ▸ signed m
      exact absurd minus (unsigned n)
    | negSucc n =>
      have texts := congrArg String.toList same
      simp only [Int.repr, String.toList_append, List.append_cancel_left_eq] at texts
      rw [Nat.succ_injective (digits (String.toList_inj.mp texts))]

theorem separated_inj {separator : Char} {left right rest others : List Char}
    (leftFree : separator ∉ left) (rightFree : separator ∉ right)
    (same : left ++ separator :: rest = right ++ separator :: others) : left = right ∧ rest = others := by
  induction left generalizing right with
  | nil =>
    cases right with
    | nil => exact ⟨rfl, (List.cons.inj same).2⟩
    | cons head tail =>
      exact absurd (List.cons.inj same).1 (fun equal => rightFree (equal ▸ List.mem_cons_self))
  | cons first later ih =>
    cases right with
    | nil => exact absurd (List.cons.inj same).1 (fun equal => leftFree (equal ▸ List.mem_cons_self))
    | cons head tail =>
      rw [List.mem_cons, not_or] at leftFree rightFree
      obtain ⟨rfl, remaining⟩ := List.cons.inj same
      obtain ⟨rfl, behind⟩ := ih leftFree.2 rightFree.2 remaining
      exact ⟨rfl, behind⟩

theorem occurrenceKey_inj {scheduleId otherId source otherSource occurrence otherOccurrence : String}
    (idFree : '\x00' ∉ scheduleId.toList) (otherIdFree : '\x00' ∉ otherId.toList)
    (sourceFree : '\x00' ∉ source.toList) (otherSourceFree : '\x00' ∉ otherSource.toList)
    (same : occurrenceKey scheduleId source occurrence =
      occurrenceKey otherId otherSource otherOccurrence) :
    scheduleId = otherId ∧ source = otherSource ∧ occurrence = otherOccurrence := by
  have parts : ∀ id source occurrence : String, (occurrenceKey id source occurrence).toList =
      id.toList ++ '\x00' :: (source.toList ++ '\x00' :: occurrence.toList) := by
    intro id source occurrence
    simp [occurrenceKey, String.toList_append]
  have texts := congrArg String.toList same
  rw [parts, parts] at texts
  obtain ⟨ids, behind⟩ := separated_inj idFree otherIdFree texts
  obtain ⟨sources, occurrences⟩ := separated_inj sourceFree otherSourceFree behind
  exact ⟨String.toList_inj.mp ids, String.toList_inj.mp sources, String.toList_inj.mp occurrences⟩

theorem ContentHash.toHex_inj {left right : ContentHash} (same : left.toHex = right.toHex) :
    left = right := by
  have bytes := congrArg (fun text => decodePairs (textBytes text)) same
  have read : ∀ hash : ContentHash, decodePairs (textBytes hash.toHex) = some hash.bytes.toList :=
    fun hash => decodePairs_encodeHex hash.bytes.toList
  simp only [read, Option.some.injEq] at bytes
  have digests : left.bytes = right.bytes := Vector.toList_inj.mp bytes
  cases left
  cases right
  exact congrArg ContentHash.mk digests

theorem executionFile_inj {left right : String} (same : executionFile left = executionFile right) :
    left = right := append_right_inj same

theorem extension_executionFile {executionId : String} (named : executionId ≠ "") :
    extension (executionFile executionId) = some "json" := by
  have split : executionFile executionId = executionId ++ "." ++ "json" := by
    rw [executionFile, String.append_assoc]
    rfl
  rw [split]
  exact extension_append named (by decide)

end Occurrences

end AgentMod
