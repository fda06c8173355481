import AgentMod.Conversation.Compaction
import AgentMod.Library.Result
import AgentMod.Primitives.Utf8

/-! A bounded typed summary retains as many of the newest entries as fit. -/

namespace AgentMod

section Retained

variable {α : Type} {fits : List α → Bool}

theorem retainRecent_suffix (older retained : List α) :
    retainRecent fits older retained <:+ older.reverse ++ retained := by
  induction older generalizing retained with
  | nil => exact List.suffix_rfl
  | cons entry older ih =>
    rw [retainRecent, List.reverse_cons, List.append_assoc, List.singleton_append]
    split
    · exact ih _
    · exact (List.suffix_cons _ _).trans (List.suffix_append _ _)

theorem retainRecent_longest (older : List α) {retained : List α} (fitting : fits retained = true)
    (shrinks : ∀ short long, short <:+ long → long <:+ older.reverse ++ retained →
      fits long = true → fits short = true) :
    fits (retainRecent fits older retained) = true ∧
      ∀ other, other <:+ older.reverse ++ retained → fits other = true →
        other <:+ retainRecent fits older retained := by
  induction older generalizing retained with
  | nil => exact ⟨fitting, fun other suffix _ => suffix⟩
  | cons entry older ih =>
    have reversed : (entry :: older).reverse ++ retained = older.reverse ++ entry :: retained := by
      rw [List.reverse_cons, List.append_assoc, List.singleton_append]
    rw [reversed] at shrinks ⊢
    rw [retainRecent]
    split
    next larger => exact ih larger shrinks
    next larger =>
      refine ⟨fitting, fun other suffix fitted => ?_⟩
      -- A longer list would hold the entry that did not fit.
      by_contra outside
      have longer : entry :: retained <:+ other := by
        refine List.suffix_of_suffix_length_le (List.suffix_append _ _) suffix ?_
        by_contra short
        exact outside (List.suffix_of_suffix_length_le suffix
          ((List.suffix_cons _ _).trans (List.suffix_append _ _)) (by
            rw [List.length_cons] at short; omega))
      exact larger (shrinks _ _ longer suffix fitted)

end Retained

section Sizes

theorem utf8Length_toDigits (value : Nat) :
    utf8Length (Nat.toDigits 10 value) = (Nat.toDigits 10 value).length := by
  have single : (Nat.toDigits 10 value).map Char.utf8Size = (Nat.toDigits 10 value).map fun _ => 1 := by
    refine List.map_congr_left fun digit listed => ?_
    have isDigit := Nat.isDigit_of_mem_toDigits (by decide) (by decide) listed
    rw [Char.isDigit, Bool.and_eq_true, decide_eq_true_iff, decide_eq_true_iff] at isDigit
    have ascii : digit.val ≤ 127 := UInt32.le_trans isDigit.2 (by decide)
    exact Char.utf8Size_eq_one_iff.mpr ascii
  rw [utf8Length, single, List.map_const', List.sum_replicate_nat, mul_one]

theorem length_toDigits_succ (value : Nat) :
    (Nat.toDigits 10 (value + 1)).length ≤ (Nat.toDigits 10 value).length + 1 := by
  have below : value < 10 ^ (Nat.toDigits 10 value).length :=
    (Nat.length_toDigits_le_iff (by decide) Nat.length_toDigits_pos).mp le_rfl
  refine (Nat.length_toDigits_le_iff (by decide) (Nat.succ_pos _)).mpr ?_
  rw [Nat.pow_succ]
  omega

variable [DoubleText]

theorem utf8Length_counter {value : Nat} (bounded : value < 2 ^ 64) :
    utf8Length (Json.number (.ofU64 value)).compact = (Nat.toDigits 10 value).length := by
  have same : (Number.ofU64 value).text = toString value := by
    rw [Number.ofU64, Number.text, Nat.mod_eq_of_lt bounded]
  rw [Json.compact, same, ← utf8Length_toDigits]
  exact congrArg utf8Length Nat.toList_repr

theorem utf8Length_array (entry : List (String × Json)) (retained : List Json) :
    utf8Length (Json.array retained).compact + 1 ≤
      utf8Length (Json.array (.object entry :: retained)).compact := by
  have brace : 1 ≤ Char.utf8Size '{' := by decide
  have comma : 1 ≤ Char.utf8Size ',' := by decide
  cases retained <;>
    simp only [Json.compact, Json.compactItems, List.intercalate_singleton, List.intercalate_nil,
      List.intercalate_cons_cons, List.cons_append, List.nil_append, List.append_assoc, utf8Length_cons,
      utf8Length_append] <;>
    omega

variable {sourceEntryCount maxBytes : Nat} {replaceable : List Json}

theorem utf8Length_object {first second third : String × Json} {key key' : String} {left left' right right' : Json}
    (grows : utf8Length left.compact + utf8Length right.compact ≤
      utf8Length left'.compact + utf8Length right'.compact) :
    utf8Length (Json.object [first, second, third, (key, left), (key', right)]).compact ≤
      utf8Length (Json.object [first, second, third, (key, left'), (key', right')]).compact := by
  simp only [Json.compact, Json.compactEntries, List.intercalate_cons_cons, List.intercalate_singleton,
    List.cons_append, List.append_assoc, utf8Length_cons, utf8Length_append, List.nil_append]
  -- The members in front are the same.
  iterate 15 refine Nat.add_le_add_left ?_ _
  omega

theorem encodedJsonLen_cons {retained : List Json} (entry : List (String × Json))
    (counted : replaceable.length < 2 ^ 64) (inside : retained.length + 1 ≤ replaceable.length) :
    encodedJsonLen (typedSummaryEnvelope sourceEntryCount replaceable retained) ≤
      encodedJsonLen (typedSummaryEnvelope sourceEntryCount replaceable (.object entry :: retained)) := by
  have grows := utf8Length_array entry retained
  have digits := length_toDigits_succ (replaceable.length - (retained.length + 1))
  have omitted : replaceable.length - (retained.length + 1) + 1 = replaceable.length - retained.length := by omega
  have fewer : ∀ count, replaceable.length - count < 2 ^ 64 := fun count => (Nat.sub_le _ _).trans_lt counted
  rw [omitted, ← utf8Length_counter (fewer _), ← utf8Length_counter (fewer _)] at digits
  have together := Nat.add_le_add digits grows
  rw [Nat.add_right_comm, ← Nat.add_assoc, Nat.add_le_add_iff_right] at together
  exact utf8Length_object together

theorem summaryFits_suffix {short long : List Json} (objects : ∀ value ∈ replaceable, ∃ entry, value = .object entry)
    (counted : replaceable.length < 2 ^ 64) (suffix : short <:+ long) (inside : long <:+ replaceable)
    (fits : summaryFits maxBytes sourceEntryCount replaceable long) :
    summaryFits maxBytes sourceEntryCount replaceable short := by
  obtain ⟨front, rfl⟩ := suffix
  induction front with
  | nil => exact fits
  | cons value front ih =>
    obtain ⟨entry, rfl⟩ := objects value (inside.subset List.mem_cons_self)
    rw [summaryFits, decide_eq_true_iff] at fits
    exact ih ((List.suffix_cons _ _).trans inside)
      (decide_eq_true ((encodedJsonLen_cons entry counted inside.length_le).trans fits))

end Sizes

section Longest

variable [DoubleText] {maxBytes sourceEntryCount : Nat} {replaceable : List Json}

theorem retainedEntries_suffix : retainedEntries maxBytes sourceEntryCount replaceable <:+ replaceable := by
  have suffix : retainedEntries maxBytes sourceEntryCount replaceable <:+ _ :=
    retainRecent_suffix replaceable.reverse []
  rwa [List.reverse_reverse, List.append_nil] at suffix

theorem longestSummary_retainedEntries (objects : ∀ value ∈ replaceable, ∃ entry, value = .object entry)
    (counted : replaceable.length < 2 ^ 64) (empty : summaryFits maxBytes sourceEntryCount replaceable []) :
    LongestSummary maxBytes sourceEntryCount replaceable
      (retainedEntries maxBytes sourceEntryCount replaceable) := by
  have longest := retainRecent_longest replaceable.reverse empty fun short long suffix inside fits => by
    rw [List.reverse_reverse, List.append_nil] at inside
    exact summaryFits_suffix objects counted suffix inside fits
  rw [List.reverse_reverse, List.append_nil] at longest
  exact ⟨retainedEntries_suffix, longest.1, longest.2⟩

theorem LongestSummary.unique {retained other : List Json}
    (longest : LongestSummary maxBytes sourceEntryCount replaceable retained)
    (longest' : LongestSummary maxBytes sourceEntryCount replaceable other) : retained = other :=
  (longest'.longest _ longest.newest longest.fits).eq_of_length_le
    (longest.longest _ longest'.newest longest'.fits).length_le

end Longest

section Summaries

variable [EntryValue] {source : List ConversationEntry} {replaceable : List Json}

theorem replaceableEntries_objects (replaces : replaceableEntries source = .ok replaceable) :
    (∀ value ∈ replaceable, ∃ entry, value = .object entry) ∧ replaceable.length ≤ source.length := by
  have shown := mapM_eq_ok.mp replaces
  constructor
  · intro value listed
    obtain ⟨index, inside, rfl⟩ := List.mem_iff_getElem.mp listed
    have shows := shown.get (by rwa [shown.length_eq]) inside
    obtain ⟨entry, _, returned⟩ := bind_eq_ok.mp shows
    exact ⟨_, (Except.ok.inj returned).symm⟩
  · have selected := List.length_filter_le (fun indexed => !indexed.1.isProtected) source.zipIdx
    rwa [shown.length_eq, List.length_zipIdx] at selected

theorem replaceableEntries_ok (encodes : ∀ entry ∈ source, (EntryValue.entryValue entry).isSome) :
    ∃ replaceable, replaceableEntries source = .ok replaceable := by
  refine mapM_isOk.mpr fun indexed listed => ?_
  have inside := List.mem_of_getElem? (List.mem_zipIdx_iff_getElem?.mp (List.mem_of_mem_filter listed))
  obtain ⟨value, encoded⟩ := Option.isSome_iff_exists.mp (encodes indexed.1 inside)
  exact ⟨summaryEntry indexed.2 value, by rw [encoded]; rfl⟩

variable [DoubleText] {maxBytes : Nat}

theorem boundedTypedSummary_eq (replaces : replaceableEntries source = .ok replaceable) :
    boundedTypedSummary source maxBytes =
      if summaryFits maxBytes source.length replaceable (retainedEntries maxBytes source.length replaceable) then
        .ok (typedSummaryEnvelope source.length replaceable
          (retainedEntries maxBytes source.length replaceable)).compact
      else .error .summaryBoundTooSmall := by
  split
  next fits =>
    exact bind_eq_ok.mpr ⟨replaceable, replaces, bind_eq_ok.mpr ⟨(), refuseIf_eq_ok.mpr (not_not.mpr fits), rfl⟩⟩
  next unfit =>
    rw [boundedTypedSummary]
    exact bind_eq_error.mpr (.inr ⟨replaceable, replaces, bind_eq_error.mpr (.inl (if_pos unfit))⟩)

/-- A summary holds the longest list of the newest entries that fits, and there is none exactly where not even the one
without entries fits. -/
theorem bounded_typed_summary (encodes : ∀ entry ∈ source, (EntryValue.entryValue entry).isSome)
    (addressable : source.length < 2 ^ 64) : ∃ replaceable, replaceableEntries source = .ok replaceable ∧
      (∀ summary, boundedTypedSummary source maxBytes = .ok summary ↔ ∃ retained,
        LongestSummary maxBytes source.length replaceable retained ∧
          summary = (typedSummaryEnvelope source.length replaceable retained).compact) ∧
      ((∃ error, boundedTypedSummary source maxBytes = .error error) ↔
        maxBytes < encodedJsonLen (typedSummaryEnvelope source.length replaceable [])) := by
  obtain ⟨replaceable, replaces⟩ := replaceableEntries_ok encodes
  obtain ⟨objects, fewer⟩ := replaceableEntries_objects replaces
  have counted : replaceable.length < 2 ^ 64 := fewer.trans_lt addressable
  refine ⟨replaceable, replaces, ?_⟩
  rw [boundedTypedSummary_eq replaces]
  by_cases empty : summaryFits maxBytes source.length replaceable []
  · have longest := longestSummary_retainedEntries objects counted empty
    rw [if_pos longest.fits]
    refine ⟨fun summary => ⟨fun same => ⟨_, longest, (Except.ok.inj same).symm⟩, ?_⟩, ?_⟩
    · rintro ⟨retained, longest', rfl⟩
      rw [longest.unique longest']
    · rw [summaryFits, decide_eq_true_iff] at empty
      exact ⟨fun ⟨_, failed⟩ => (by cases failed), fun large => absurd empty (not_le.mpr large)⟩
  · have unfit : ∀ retained, retained <:+ replaceable → ¬ summaryFits maxBytes source.length replaceable retained :=
      fun retained suffix fits => empty (summaryFits_suffix objects counted List.nil_suffix suffix fits)
    rw [if_neg (unfit _ retainedEntries_suffix)]
    rw [summaryFits, decide_eq_true_iff, not_le] at empty
    refine ⟨fun summary => ⟨fun same => (by cases same), ?_⟩, fun _ => empty, fun _ => ⟨_, rfl⟩⟩
    rintro ⟨retained, longest, -⟩
    exact absurd longest.fits (unfit retained longest.newest)

end Summaries

/-- A serializer that shows of a message its text. -/
abbrev messageValue : EntryValue where
  entryValue entry := match entry with
    | .userMessage message => some (.object [("text", .string message.text)])
    | _ => some .null

/-- A message, of which no summary of an empty bound can be made. -/
def summarizedMessage : ConversationEntry := .userMessage ⟨"a", "message", 1⟩

theorem bounded_typed_summary_message :
    ∃ error, @boundedTypedSummary ⟨fun _ => "0.0"⟩ messageValue [summarizedMessage] 0 = .error error := by
  let doubles : DoubleText := ⟨fun _ => "0.0"⟩
  let entries : EntryValue := messageValue
  obtain ⟨replaceable, _, _, fails⟩ := @bounded_typed_summary _ [summarizedMessage] _ 0
    (fun entry listed => by rw [List.mem_singleton.mp listed]; rfl) (by decide)
  refine fails.mpr ?_
  rw [encodedJsonLen, typedSummaryEnvelope, Json.compact, List.cons_append, utf8Length_cons]
  exact Nat.lt_add_right _ (by decide)

end AgentMod
