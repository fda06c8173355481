import AgentMod.Harness.Sse
import AgentMod.Library.Lines
import Mathlib.Data.List.Induction

/-! The incremental parser of server-sent events: what its chunks deliver, next to the reading of the stream. -/

namespace AgentMod

theorem sseLines_append {line stream : SseBytes} (free : lineFeed ∉ line) :
    sseLines (line ++ stream) = (sseLines stream).modifyHead (line ++ ·) :=
  splitOn_append_of_not_mem free

theorem sseLines_lineFeed {stream : SseBytes} : sseLines (lineFeed :: stream) = [] :: sseLines stream := by
  rw [sseLines, List.splitOn_cons_eq_if_modifyHead, if_pos (beq_self_eq_true _), sseLines]

theorem sseLines_ne_nil {stream : SseBytes} : sseLines stream ≠ [] :=
  List.splitOn_ne_nil _ _

/-- The parser behind the lines of a block and the beginning of the next line. -/
def SseParser.behind (block : List SseBytes) (pending : SseBytes) : SseParser :=
  ⟨pending, (block.filterMap (fieldValue? "event")).getLast?.getD [], dataOf block⟩

/-- The data of a block keeps within the bound. -/
def SseBounds.Small (bounds : SseBounds) (block : List SseBytes) : Prop :=
  ((dataOf block).map List.length).sum ≤ bounds.maxEventBytes

instance (bounds : SseBounds) (block : List SseBytes) : Decidable (bounds.Small block) :=
  inferInstanceAs (Decidable (_ ≤ _))

section Lines

variable {bounds : SseBounds} {block : List SseBytes} {line pending : SseBytes}

theorem takeEvent_behind : (SseParser.behind block pending).takeEvent =
    (blockEvent? block, SseParser.behind [] pending) := by
  rw [SseParser.takeEvent, blockEvent?]
  split
  · next empty => simp_all [SseParser.behind, dataOf]
  · next data => simp_all [SseParser.behind, dataOf]

theorem dataOf_append (line : SseBytes) :
    dataOf (block ++ [line]) = dataOf block ++ (fieldValue? "data" line).toList := by
  rw [dataOf, List.filterMap_append, dataOf]
  cases found : fieldValue? "data" line <;> simp [found]

theorem fieldValue?_blank {field : String} (blank : isBlankLine line) : fieldValue? field line = none := by
  rw [isBlankLine, List.isEmpty_iff] at blank
  rw [fieldValue?, blank]
  rfl

/-- What a line with a field does to the parser behind the lines of its block. -/
theorem takeField_behind {field value : SseBytes} (found : fieldAndValue? (trimCr line) = some (field, value))
    (small : bounds.Small block) :
    (SseParser.behind block pending).takeField bounds field value =
      if ((dataOf (block ++ [line])).map List.length).sum ≤ bounds.maxEventBytes then
        .ok (SseParser.behind (block ++ [line]) pending)
      else .error .oversized := by
  have data : fieldValue? "data" line = if field = fieldName "data" then some value else none := by
    rw [fieldValue?, found, Option.bind_some]
  have event : fieldValue? "event" line = if field = fieldName "event" then some value else none := by
    rw [fieldValue?, found, Option.bind_some]
  rw [SseParser.takeField, dataOf_append, data]
  split
  · next isData =>
    have other : ¬ field = fieldName "event" := isData ▸ by decide
    rw [if_neg other] at event
    have sum : ((dataOf block ++ (some value).toList).map List.length).sum =
        ((dataOf block).map List.length).sum + value.length := by simp
    rw [sum]
    by_cases large : bounds.maxEventBytes < ((dataOf block).map List.length).sum + value.length
    · rw [if_neg (Nat.not_le_of_lt large)]
      exact if_pos large
    · rw [if_pos (Nat.le_of_not_lt large)]
      refine (if_neg large).trans ?_
      simp [SseParser.behind, dataOf_append, data, isData, event]
  · next notData =>
    rw [Option.toList_none, List.append_nil, if_pos (show _ ≤ bounds.maxEventBytes from small)]
    split
    · next isEvent =>
      rw [if_pos isEvent] at event
      simp [SseParser.behind, dataOf_append, data, notData, event]
    · next notEvent =>
      rw [if_neg notEvent] at event
      simp [SseParser.behind, dataOf_append, data, notData, event]

theorem behind_of_no_field (data : fieldValue? "data" line = none) (event : fieldValue? "event" line = none) :
    SseParser.behind (block ++ [line]) pending = SseParser.behind block pending := by
  simp [SseParser.behind, dataOf_append, data, event]

/-- What a line does to the parser behind the lines of its block. -/
theorem dispatchLine_behind (small : bounds.Small block) :
    (SseParser.behind block pending).dispatchLine bounds line =
      if isBlankLine line then .ok (blockEvent? block, SseParser.behind [] pending)
      else if ((dataOf (block ++ [line])).map List.length).sum ≤ bounds.maxEventBytes then
        .ok (none, SseParser.behind (block ++ [line]) pending)
      else .error .oversized := by
  have unfielded (data : fieldValue? "data" line = none) (event : fieldValue? "event" line = none) :
      (Except.ok (none, SseParser.behind block pending) :
        Except SseParseError (Option SseEvent × SseParser)) =
      if ((dataOf (block ++ [line])).map List.length).sum ≤ bounds.maxEventBytes then
        .ok (none, SseParser.behind (block ++ [line]) pending)
      else .error .oversized := by
    rw [behind_of_no_field data event, dataOf_append, data, Option.toList_none, List.append_nil,
      if_pos (show _ ≤ bounds.maxEventBytes from small)]
  rw [SseParser.dispatchLine]
  split
  · next blank =>
    rw [if_pos (by rw [isBlankLine, blank]; rfl), takeEvent_behind]
  · next rest comment =>
    rw [if_neg (by rw [isBlankLine, comment]; exact Bool.false_ne_true)]
    have empty : fieldAndValue? (trimCr line) = some ([], valueWithOptionalSpace rest) := by
      rw [comment, fieldAndValue?]
      rfl
    have unnamed {field : String} (named : fieldName field ≠ []) : fieldValue? field line = none := by
      rw [fieldValue?, empty, Option.bind_some, if_neg named.symm]
    exact unfielded (unnamed (by decide)) (unnamed (by decide))
  · next present notBlank notComment =>
    rw [if_neg (by rw [isBlankLine, List.isEmpty_iff]; exact notBlank)]
    split
    · next absent =>
      have without (field : String) : fieldValue? field line = none := by
        rw [fieldValue?, absent, Option.bind_none]
      exact unfielded (without _) (without _)
    · next field value found =>
      rw [takeField_behind found small]
      split <;> rfl

end Lines

namespace SseParser

/-- What a parser makes of the bytes of a stream: the events before a failure, and the parser that is left
unless there is one. -/
def feed (bounds : SseBounds) (parser : SseParser) : SseBytes → List SseEvent × Option SseParser
  | [] => ([], some parser)
  | byte :: rest =>
    match parser.pushByte bounds byte with
    | .ok (event, parser) => (event.toList ++ (parser.feed bounds rest).1, (parser.feed bounds rest).2)
    | .error _ => ([], none)

variable {bounds : SseBounds}

theorem pushBytes_eq {parser : SseParser} {events : List SseEvent} {chunk : SseBytes} :
    parser.pushBytes bounds events chunk =
      match (parser.feed bounds chunk).2 with
      | some left => .ok (events ++ (parser.feed bounds chunk).1, left)
      | none => .error .oversized := by
  induction chunk generalizing parser events with
  | nil => rw [pushBytes, feed, List.append_nil]
  | cons byte rest ih =>
    rw [pushBytes, feed]
    cases parser.pushByte bounds byte with
    | error error => rfl
    | ok pushed =>
      obtain ⟨event, next⟩ := pushed
      refine ih.trans ?_
      simp only [List.append_assoc]

theorem feed_append {parser : SseParser} {first second : SseBytes} :
    parser.feed bounds (first ++ second) =
      match (parser.feed bounds first).2 with
      | some left =>
        ((parser.feed bounds first).1 ++ (left.feed bounds second).1, (left.feed bounds second).2)
      | none => ((parser.feed bounds first).1, none) := by
  induction first generalizing parser with
  | nil => rfl
  | cons byte rest ih =>
    rw [List.cons_append, feed, feed]
    cases parser.pushByte bounds byte with
    | error error => rfl
    | ok pushed =>
      obtain ⟨event, next⟩ := pushed
      simp only [ih]
      cases (next.feed bounds rest).2 with
      | none => rfl
      | some left => simp only [List.append_assoc]

theorem delivered_cons {parser : SseParser} {chunk : SseBytes} {chunks : List SseBytes} :
    parser.delivered bounds (chunk :: chunks) =
      match (parser.feed bounds chunk).2 with
      | some left => (parser.feed bounds chunk).1 ++ left.delivered bounds chunks
      | none => [] := by
  rw [delivered, push, pushBytes_eq]
  cases (parser.feed bounds chunk).2 <;> simp

theorem delivered_append {parser left : SseParser} {front chunks : List SseBytes}
    (fed : (parser.feed bounds front.flatten).2 = some left) :
    parser.delivered bounds (front ++ chunks) =
      (parser.feed bounds front.flatten).1 ++ left.delivered bounds chunks := by
  induction front generalizing parser with
  | nil =>
    cases fed
    rfl
  | cons chunk front ih =>
    rw [List.flatten_cons, feed_append] at fed ⊢
    rw [List.cons_append, delivered_cons]
    cases first : (parser.feed bounds chunk).2 with
    | none => rw [first] at fed; cases fed
    | some next =>
      rw [first] at fed
      simp only [List.append_assoc, ih fed]

end SseParser

section Reading

variable {bounds : SseBounds} {block : List SseBytes} {line pending : SseBytes}

theorem fits_iff : bounds.fits block line ↔
    line.length ≤ bounds.maxLineBytes ∧ bounds.Small (block ++ [line]) := by
  rw [SseBounds.fits, Bool.and_eq_true, decide_eq_true_eq, decide_eq_true_eq, SseBounds.Small]

theorem read_append {lines more : List SseBytes} :
    bounds.read block (lines ++ more) =
      match (bounds.read block lines).2 with
      | some left => ((bounds.read block lines).1 ++ (bounds.read left more).1, (bounds.read left more).2)
      | none => ((bounds.read block lines).1, none) := by
  induction lines generalizing block with
  | nil => rfl
  | cons line lines ih =>
    rw [List.cons_append, SseBounds.read, SseBounds.read]
    split
    · rfl
    · split
      · simp only [ih]
        cases (bounds.read [] lines).2 with
        | none => rfl
        | some left => simp only [List.append_assoc]
      · exact ih

theorem pushByte_lineFeed (small : bounds.Small block) (short : pending.length ≤ bounds.maxLineBytes) :
    (SseParser.behind block pending).pushByte bounds lineFeed =
      if bounds.fits block pending then
        if isBlankLine pending then .ok (blockEvent? block, SseParser.behind [] [])
        else .ok (none, SseParser.behind (block ++ [pending]) [])
      else .error .oversized := by
  rw [SseParser.pushByte, if_pos rfl]
  refine (if_neg (Nat.not_lt.mpr short)).trans ((dispatchLine_behind small).trans ?_)
  have own : (SseParser.behind block pending).pending = pending := rfl
  rw [own]
  by_cases blank : isBlankLine pending
  · have kept : bounds.Small (block ++ [pending]) := by
      rw [SseBounds.Small, dataOf_append, fieldValue?_blank blank, Option.toList_none, List.append_nil]
      exact small
    rw [if_pos blank, if_pos blank, if_pos (fits_iff.mpr ⟨short, kept⟩)]
  · rw [if_neg blank, if_neg blank]
    by_cases kept : bounds.Small (block ++ [pending])
    · rw [if_pos (fits_iff.mpr ⟨short, kept⟩)]
      exact if_pos kept
    · rw [if_neg fun fits => kept (fits_iff.mp fits).2]
      exact if_neg kept

theorem pushByte_open {byte : UInt8} (open_ : byte ≠ lineFeed) :
    (SseParser.behind block pending).pushByte bounds byte =
      if bounds.maxLineBytes < (pending ++ [byte]).length then .error .oversized
      else .ok (none, SseParser.behind block (pending ++ [byte])) := by
  rw [SseParser.pushByte, if_neg open_]
  rfl

theorem getLastD_cons_sseLines {stream : SseBytes} :
    (line :: sseLines stream).getLastD [] = (sseLines stream).getLastD [] := by
  obtain ⟨first, more, lines⟩ := List.exists_cons_of_ne_nil (@sseLines_ne_nil stream)
  rw [lines, List.getLastD_cons, List.getLastD_cons, List.getLastD_cons]

theorem read_long {stream : SseBytes} (free : lineFeed ∉ line) (long : bounds.maxLineBytes < line.length) :
    bounds.read block (sseLines (line ++ stream)).dropLast = ([], none) ∨
      (bounds.read block (sseLines (line ++ stream)).dropLast = ([], some block) ∧
        bounds.maxLineBytes < ((sseLines (line ++ stream)).getLastD []).length) := by
  obtain ⟨first, more, lines⟩ := List.exists_cons_of_ne_nil (@sseLines_ne_nil stream)
  rw [sseLines_append free, lines, List.modifyHead_cons]
  have longer : bounds.maxLineBytes < (line ++ first).length := by
    rw [List.length_append]
    omega
  cases more with
  | nil => exact .inr ⟨rfl, longer⟩
  | cons next more =>
    refine .inl ?_
    rw [List.dropLast_cons_of_ne_nil (List.cons_ne_nil _ _), SseBounds.read]
    have unfit : ¬ bounds.fits block (line ++ first) := fun fits =>
      absurd (fits_iff.mp fits).1 (Nat.not_le_of_lt longer)
    simp [unfit]

/-- Feeding a parser behind some lines reads the lines of what is fed. -/
theorem feed_behind {stream : SseBytes} (small : bounds.Small block) (free : lineFeed ∉ pending)
    (short : pending.length ≤ bounds.maxLineBytes) :
    (SseParser.behind block pending).feed bounds stream =
      ((bounds.read block (sseLines (pending ++ stream)).dropLast).1,
        (bounds.read block (sseLines (pending ++ stream)).dropLast).2.bind fun left =>
          if ((sseLines (pending ++ stream)).getLastD []).length ≤ bounds.maxLineBytes then
            some (SseParser.behind left ((sseLines (pending ++ stream)).getLastD []))
          else none) := by
  -- The induction is on the bytes: each one ends the open line or makes it longer.
  induction stream generalizing block pending with
  | nil =>
    have single : sseLines (pending ++ []) = [pending] := by
      rw [sseLines_append free]
      simp [sseLines]
    rw [single]
    simp [SseParser.feed, SseBounds.read, short]
  | cons byte rest ih =>
    by_cases ends : byte = lineFeed
    · subst ends
      have lines : sseLines (pending ++ lineFeed :: rest) = pending :: sseLines rest := by
        rw [sseLines_append free, sseLines_lineFeed, List.modifyHead_cons, List.append_nil]
      rw [lines, List.dropLast_cons_of_ne_nil sseLines_ne_nil, getLastD_cons_sseLines, SseParser.feed,
        pushByte_lineFeed small short, SseBounds.read]
      by_cases fits : bounds.fits block pending
      · by_cases blank : isBlankLine pending
        · have begun := @ih [] [] (Nat.zero_le _) List.not_mem_nil (Nat.zero_le _)
          rw [List.nil_append] at begun
          simp [fits, blank, begun]
        · have begun := @ih (block ++ [pending]) [] (fits_iff.mp fits).2 List.not_mem_nil (Nat.zero_le _)
          rw [List.nil_append] at begun
          simp [fits, blank, begun]
      · simp [fits]
    · have rest_ : pending ++ byte :: rest = (pending ++ [byte]) ++ rest := by simp
      have stays : lineFeed ∉ pending ++ [byte] := by
        simpa [free] using fun same => ends same.symm
      rw [SseParser.feed, pushByte_open ends, rest_]
      by_cases long : bounds.maxLineBytes < (pending ++ [byte]).length
      · rw [if_pos long]
        rcases @read_long bounds block _ rest stays long with nothing | ⟨nothing, longer⟩
        · rw [nothing]
          rfl
        · rw [nothing, Option.bind_some, if_neg (Nat.not_le_of_lt longer)]
      · rw [if_neg long]
        simp only [Option.toList_none, List.nil_append]
        exact ih small stays (Nat.le_of_not_lt long)

theorem small_of_read {lines left : List SseBytes} (small : bounds.Small block)
    (reads : (bounds.read block lines).2 = some left) : bounds.Small left := by
  induction lines generalizing block with
  | nil =>
    cases reads
    exact small
  | cons line lines ih =>
    rw [SseBounds.read] at reads
    split at reads
    · cases reads
    · next fits =>
      rw [Bool.not_eq_true', Bool.not_eq_false] at fits
      split at reads
      · exact ih (Nat.zero_le _) reads
      · exact ih (fits_iff.mp fits).2 reads

end Reading

section Streams

variable {bounds : SseBounds} {stream more : SseBytes}

theorem dropLast_append_openLine : (sseLines stream).dropLast ++ [openLine stream] = sseLines stream := by
  rw [openLine, List.getLastD_eq_getLast?, List.getLast?_eq_getLast_of_ne_nil sseLines_ne_nil]
  exact List.dropLast_append_getLast sseLines_ne_nil

theorem feed_new : SseParser.new.feed bounds stream =
    (bounds.completed stream, (bounds.waiting stream).bind fun left =>
      if (openLine stream).length ≤ bounds.maxLineBytes then some (.behind left (openLine stream)) else none) :=
  @feed_behind bounds [] [] stream (Nat.zero_le _) List.not_mem_nil (Nat.zero_le _)

theorem exceeds_iff : bounds.Exceeds stream ↔ (SseParser.new.feed bounds stream).2 = none := by
  rw [feed_new, SseBounds.Exceeds]
  cases bounds.waiting stream <;> simp

theorem waiting_of_not_exceeds (within : ¬ bounds.Exceeds stream) : ∃ left,
    bounds.waiting stream = some left ∧ (openLine stream).length ≤ bounds.maxLineBytes ∧
      (SseParser.new.feed bounds stream).2 = some (.behind left (openLine stream)) := by
  rw [SseBounds.Exceeds, not_or, Nat.not_lt] at within
  obtain ⟨left, waits⟩ := Option.ne_none_iff_exists'.mp within.1
  exact ⟨left, waits, within.2, by simp [feed_new, waits, within.2]⟩

theorem exceeds_append (exceeds : bounds.Exceeds stream) :
    bounds.Exceeds (stream ++ more) ∧ bounds.completed (stream ++ more) = bounds.completed stream := by
  have failed := exceeds_iff.mp exceeds
  have fed := @SseParser.feed_append bounds SseParser.new stream more
  rw [failed] at fed
  refine ⟨exceeds_iff.mpr (congrArg Prod.snd fed), ?_⟩
  have completed := congrArg Prod.fst fed
  simpa only [feed_new] using completed

/-- The events that the end of a stream completes behind a block and an open line. -/
def endEvents (bounds : SseBounds) (block : List SseBytes) (line : SseBytes) : List SseEvent :=
  (bounds.read block [line]).1 ++ ((bounds.read block [line]).2.bind blockEvent?).toList

theorem reference_of_exceeds (exceeds : bounds.Exceeds stream) :
    bounds.reference stream = bounds.completed stream := by
  rw [SseBounds.reference, ← dropLast_append_openLine, read_append, SseBounds.completed]
  rcases exceeds with nothing | long
  · rw [SseBounds.waiting] at nothing
    rw [nothing]
    simp
  · cases waits : (bounds.read [] (sseLines stream).dropLast).2 with
    | none => simp
    | some left =>
      have unfit : ¬ bounds.fits left (openLine stream) := fun fits =>
        absurd (fits_iff.mp fits).1 (Nat.not_le_of_lt long)
      simp [SseBounds.read, unfit]

theorem reference_of_waiting {left : List SseBytes} (waits : bounds.waiting stream = some left) :
    bounds.reference stream = bounds.completed stream ++ endEvents bounds left (openLine stream) := by
  rw [SseBounds.waiting] at waits
  rw [SseBounds.reference, ← dropLast_append_openLine, read_append, waits, endEvents, SseBounds.completed]
  simp

theorem isBlankLine_iff {line : SseBytes} : isBlankLine line ↔ line = [] ∨ line = [carriageReturn] := by
  rw [isBlankLine, List.isEmpty_iff, trimCr]
  constructor
  · intro empty
    split at empty
    · next ends =>
      obtain ⟨front, rfl⟩ := List.getLast?_eq_some_iff.mp ends
      rw [List.dropLast_concat] at empty
      exact .inr (by rw [empty, List.nil_append])
    · exact .inl empty
  · rintro (rfl | rfl) <;> rfl

theorem endEvents_eq {block : List SseBytes} {line : SseBytes} (small : bounds.Small block)
    (short : line.length ≤ bounds.maxLineBytes) : endEvents bounds block line =
      if isBlankLine line then (blockEvent? block).toList
      else if bounds.Small (block ++ [line]) then (blockEvent? (block ++ [line])).toList
      else [] := by
  by_cases blank : isBlankLine line
  · have kept : bounds.Small (block ++ [line]) := by
      rw [SseBounds.Small, dataOf_append, fieldValue?_blank blank, Option.toList_none, List.append_nil]
      exact small
    have nothing : blockEvent? [] = none := rfl
    simp [endEvents, SseBounds.read, fits_iff.mpr ⟨short, kept⟩, blank, nothing]
  · by_cases kept : bounds.Small (block ++ [line])
    · simp [endEvents, SseBounds.read, fits_iff.mpr ⟨short, kept⟩, blank, kept]
    · have unfit : ¬ bounds.fits block line := fun fits => kept (fits_iff.mp fits).2
      simp [endEvents, SseBounds.read, unfit, blank, kept]

/-- What is delivered at the end of a stream: the event of the open line's block, but nothing where that
line is a lone carriage return. -/
theorem delivered_nil {left : List SseBytes} {line : SseBytes} (small : bounds.Small left)
    (short : line.length ≤ bounds.maxLineBytes) :
    (SseParser.behind left line).delivered bounds [] =
      if line = [carriageReturn] then [] else endEvents bounds left line := by
  have own : (SseParser.behind left line).pending = line := rfl
  have cleared : { SseParser.behind left line with pending := [] } = SseParser.behind left [] := rfl
  have nothing : blockEvent? [] = none := rfl
  rw [endEvents_eq small short, SseParser.delivered, SseParser.finish, own]
  by_cases empty : line = []
  · -- There is no open line, and the block gives its event.
    subst empty
    have blank : isBlankLine [] := rfl
    rw [if_neg (by decide : ¬ ([] : SseBytes) = [carriageReturn]), if_pos blank]
    split
    · next events finished =>
      split at finished
      · next none_ =>
        cases finished
        rw [Bool.and_eq_true, Bool.and_eq_true] at none_
        have without : dataOf left = [] := List.isEmpty_iff.mp none_.1.2
        rw [blockEvent?, without]
        rfl
      · rw [if_neg (Nat.not_lt.mpr short)] at finished
        cases finished
        exact congrArg (fun taken => Option.toList (Prod.fst taken)) takeEvent_behind
    · next error failed =>
      split at failed
      · cases failed
      · rw [if_neg (Nat.not_lt.mpr short)] at failed
        cases failed
  · have present : ¬ (line.isEmpty && (SseParser.behind left line).dataLines.isEmpty &&
        (SseParser.behind left line).eventName.isEmpty) := by simp [empty]
    have open_ : ¬ line.isEmpty := by simpa using empty
    rw [if_neg present, if_neg (Nat.not_lt.mpr short)]
    simp only [if_neg open_, cleared, dispatchLine_behind small]
    by_cases blank : isBlankLine line
    · have lone := (isBlankLine_iff.mp blank).resolve_left empty
      rw [if_pos blank, if_pos lone]
      simp [takeEvent_behind, nothing, Bind.bind, Except.bind, Pure.pure, Except.pure]
    · have other : line ≠ [carriageReturn] := fun lone => blank (isBlankLine_iff.mpr (.inr lone))
      rw [if_neg blank, if_neg other, if_neg blank]
      by_cases kept : bounds.Small (left ++ [line])
      · rw [if_pos kept, if_pos (show _ ≤ bounds.maxEventBytes from kept)]
        simp [takeEvent_behind, Bind.bind, Except.bind, Pure.pure, Except.pure]
      · rw [if_neg kept, if_neg (show ¬ _ ≤ bounds.maxEventBytes from kept)]
        rfl

theorem exists_first_exceeding {chunks : List SseBytes} (exceeds : bounds.Exceeds chunks.flatten) :
    ∃ front chunk back, chunks = front ++ chunk :: back ∧ ¬ bounds.Exceeds front.flatten ∧
      bounds.Exceeds (front ++ [chunk]).flatten := by
  induction chunks using List.reverseRecOn with
  | nil =>
    have waits : bounds.waiting [] = some [] := rfl
    rcases exceeds with nothing | long
    · cases waits.symm.trans nothing
    · exact absurd long (Nat.not_lt_zero _)
  | append_singleton front chunk ih =>
    by_cases earlier : bounds.Exceeds front.flatten
    · obtain ⟨first, middle, back, rfl, within, breaks⟩ := ih earlier
      exact ⟨first, middle, back ++ [chunk], by simp, within, breaks⟩
    · exact ⟨front, chunk, [], rfl, earlier, exceeds⟩

theorem delivered_of_failure {front back : List SseBytes} {chunk : SseBytes}
    (within : ¬ bounds.Exceeds front.flatten) (breaks : bounds.Exceeds (front ++ [chunk]).flatten) :
    SseParser.new.delivered bounds (front ++ chunk :: back) = bounds.completed front.flatten := by
  obtain ⟨left, -, -, fed⟩ := waiting_of_not_exceeds within
  have failed := exceeds_iff.mp breaks
  rw [List.flatten_append, List.flatten_singleton, SseParser.feed_append, fed] at failed
  rw [SseParser.delivered_append fed, SseParser.delivered_cons]
  simp only at failed
  rw [failed, List.append_nil, feed_new]

/-- The chunks of a stream deliver what its reading gives exactly where the chunk in which a bound is
exceeded completes no event, and where the stream does not end with a lone carriage return behind data. -/
theorem sse_delivery_iff (bounds : SseBounds) (chunks : List SseBytes) :
    SseParser.new.delivered bounds chunks = bounds.reference chunks.flatten ↔
      bounds.KeepsChunks chunks ∧ bounds.KeepsEnd chunks.flatten := by
  have same (front : List SseBytes) (chunk : SseBytes) (back : List SseBytes)
      (split : chunks = front ++ chunk :: back) (within : ¬ bounds.Exceeds front.flatten)
      (breaks : bounds.Exceeds (front ++ [chunk]).flatten) :
      SseParser.new.delivered bounds chunks = bounds.reference chunks.flatten ↔
        bounds.completed (front ++ [chunk]).flatten = bounds.completed front.flatten := by
    have cut : chunks.flatten = (front ++ [chunk]).flatten ++ back.flatten := by simp [split]
    obtain ⟨exceeds, completed⟩ := @exceeds_append bounds _ back.flatten breaks
    rw [cut, reference_of_exceeds exceeds, completed, split, delivered_of_failure within breaks, eq_comm]
  by_cases exceeds : bounds.Exceeds chunks.flatten
  · obtain ⟨front, chunk, back, split, within, breaks⟩ := exists_first_exceeding exceeds
    constructor
    · intro equal
      exact ⟨fun front chunk back split within breaks => (same front chunk back split within breaks).mp equal,
        fun unbroken => absurd exceeds unbroken⟩
    · rintro ⟨keeps, -⟩
      exact (same front chunk back split within breaks).mpr (keeps front chunk back split within breaks)
  · obtain ⟨left, waits, short, fed⟩ := waiting_of_not_exceeds exceeds
    have unbroken : bounds.KeepsChunks chunks := by
      intro front chunk back split _ breaks
      have cut : chunks.flatten = (front ++ [chunk]).flatten ++ back.flatten := by simp [split]
      exact absurd (cut ▸ (@exceeds_append bounds _ back.flatten breaks).1) exceeds
    have small : bounds.Small left := small_of_read (Nat.zero_le _) waits
    have delivers := @SseParser.delivered_append bounds _ _ chunks [] fed
    rw [List.append_nil, delivered_nil small short, feed_new] at delivers
    rw [delivers, reference_of_waiting waits, List.append_cancel_left_eq]
    constructor
    · refine fun equal => ⟨unbroken, fun _ lone other waits' => ?_⟩
      cases waits.symm.trans waits'
      rw [if_pos lone, endEvents_eq small short, if_pos (isBlankLine_iff.mpr (.inr lone))] at equal
      by_contra data
      rw [blockEvent?, if_neg (by simpa using data)] at equal
      cases equal
    · rintro ⟨-, keeps⟩
      split
      · next lone =>
        rw [endEvents_eq small short, if_pos (isBlankLine_iff.mpr (.inr lone)), blockEvent?,
          keeps exceeds lone left waits]
        rfl
      · rfl

end Streams

section Sample

/-- The bytes of a text. -/
abbrev sseText (text : String) : SseBytes := utf8Bytes text.toList

/-- A stream whose second event is too long for the bounds. -/
abbrev longStream : SseBytes := sseText "data: x\n\ndata: longer\n"

/-- A chunk that exceeds a bound takes its earlier events with it, and the end of a stream its last one. -/
theorem not_sse_delivery :
    SseParser.new.delivered ⟨8, 64⟩ [longStream] ≠ SseBounds.reference ⟨8, 64⟩ longStream ∧
    SseParser.new.delivered ⟨8, 64⟩ [longStream] ≠
      SseParser.new.delivered ⟨8, 64⟩ [longStream.take 9, longStream.drop 9] ∧
    SseParser.new.delivered .default [sseText "data: x\n\r"] ≠
      SseBounds.default.reference (sseText "data: x\n\r") := by
  decide

end Sample

end AgentMod
