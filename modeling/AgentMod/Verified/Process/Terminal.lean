import AgentMod.Process.Terminal

/-! The capture of a terminal's output, however it is cut into reads. -/

namespace AgentMod

section Queries

variable {bytes front behind : List UInt8}

theorem isPrefixOf_iff : cursorQuery.isPrefixOf bytes = true ↔ cursorQuery <+: bytes := List.isPrefixOf_iff_prefix

theorem queryCount_cons {byte : UInt8} : queryCount (byte :: bytes) =
    (if cursorQuery.isPrefixOf (byte :: bytes) then 1 else 0) + queryCount bytes := rfl

/-- A window of some output is the query exactly when the query stands somewhere in it. -/
theorem any_windows_iff : (windows 4 bytes).any (· == cursorQuery) = true ↔ 0 < queryCount bytes := by
  induction bytes with
  | nil => exact iff_of_false Bool.noConfusion (Nat.lt_irrefl 0)
  | cons byte rest ih =>
    have starts : cursorQuery <+: byte :: rest ↔ 4 ≤ rest.length + 1 ∧ (byte :: rest).take 4 = cursorQuery := by
      rw [List.prefix_iff_eq_take]
      constructor
      · intro same
        have length := congrArg List.length same
        rw [List.length_take, List.length_cons] at length
        have four : cursorQuery.length = 4 := rfl
        exact ⟨by omega, same.symm⟩
      · exact fun same => same.2.symm
    rw [windows, queryCount_cons]
    by_cases query : cursorQuery <+: byte :: rest
    · obtain ⟨long, same⟩ := starts.mp query
      rw [if_pos long, if_pos (isPrefixOf_iff.mpr query), List.any_cons, same, beq_self_eq_true, Bool.true_or]
      exact iff_of_true rfl (by omega)
    · rw [if_neg (isPrefixOf_iff.not.mpr query), Nat.zero_add, ← ih]
      split
      · next long =>
        have apart : ((byte :: rest).take 4 == cursorQuery) = false :=
          beq_eq_false_iff_ne.mpr fun same => query (starts.mpr ⟨long, same⟩)
        rw [List.any_cons, apart, Bool.false_or]
      · next short =>
        -- Where no window begins, none begins behind it either.
        refine iff_of_false Bool.noConfusion fun found => ?_
        cases rest with
        | nil => exact Bool.noConfusion found
        | cons next others =>
          rw [windows, if_neg (by rw [List.length_cons] at short; omega)] at found
          exact Bool.noConfusion found

/-- The queries in some output are those on the two sides of a cut, and those that the cut is in. -/
theorem queryCount_append : ∃ cut, queryCount (front ++ behind) = queryCount front + queryCount behind + cut ∧
    (cut = 0 ↔ ¬CutsQuery front behind) := by
  induction front with
  | nil =>
    refine ⟨0, by rw [List.nil_append]; exact (Nat.zero_add _).symm, iff_of_true rfl ?_⟩
    rintro ⟨before, head, tail, after, none, _, begun, _⟩
    exact begun (List.append_eq_nil_iff.mp none.symm).2
  | cons byte rest ih =>
    obtain ⟨cut, count, none⟩ := ih
    have later : ∀ {before head tail after}, byte :: rest = before ++ head → behind = tail ++ after →
        head ≠ [] → tail ≠ [] → head ++ tail = cursorQuery → before ≠ [] → CutsQuery rest behind := by
      intro before head tail after split ends begun ended query inside
      obtain ⟨first, others, rfl⟩ := List.exists_cons_of_ne_nil inside
      exact ⟨others, head, tail, after, (List.cons.inj split).2, ends, begun, ended, query⟩
    have earlier : CutsQuery rest behind → CutsQuery (byte :: rest) behind := by
      rintro ⟨before, head, tail, after, rfl, split⟩
      exact ⟨byte :: before, head, tail, after, rfl, split⟩
    rw [List.cons_append, queryCount_cons, queryCount_cons, count]
    by_cases inside : cursorQuery <+: byte :: rest
    · have whole : cursorQuery <+: byte :: (rest ++ behind) := inside.trans (List.prefix_append (byte :: rest) behind)
      rw [if_pos (isPrefixOf_iff.mpr inside), if_pos (isPrefixOf_iff.mpr whole)]
      refine ⟨cut, by omega, none.trans (not_congr ⟨earlier, ?_⟩)⟩
      rintro ⟨before, head, tail, after, split, ends, begun, ended, query⟩
      refine later split ends begun ended query fun first => ?_
      -- The query ends in front of the cut.
      rw [first, List.nil_append] at split
      have shorter := inside.length_le
      rw [split, ← query, List.length_append] at shorter
      have positive := List.length_pos_iff.mpr ended
      omega
    · rw [if_neg (isPrefixOf_iff.not.mpr inside)]
      by_cases whole : cursorQuery <+: byte :: (rest ++ behind)
      · rw [if_pos (isPrefixOf_iff.mpr whole)]
        refine ⟨cut + 1, by omega, iff_of_false (Nat.succ_ne_zero _) (not_not_intro ?_)⟩
        obtain ⟨after, joined⟩ := whole
        rw [← List.cons_append] at joined
        rcases List.append_eq_append_iff.mp joined with ⟨tail, split, ends⟩ | ⟨tail, split, ends⟩
        · exact absurd ⟨tail, split.symm⟩ inside
        · refine ⟨[], byte :: rest, tail, after, rfl, ends, List.cons_ne_nil _ _, ?_, split.symm⟩
          rintro rfl
          exact inside ⟨[], by rw [split, List.append_nil, List.append_nil]⟩
      · rw [if_neg (isPrefixOf_iff.not.mpr whole)]
        refine ⟨cut, by omega, none.trans (not_congr ⟨earlier, ?_⟩)⟩
        rintro ⟨before, head, tail, after, split, ends, begun, ended, query⟩
        refine later split ends begun ended query fun first => ?_
        rw [first, List.nil_append] at split
        refine whole ⟨after, ?_⟩
        rw [← List.cons_append, split, ends, ← query, List.append_assoc]

theorem length_respondToTerminalQueries {replies : List (List UInt8)} :
    (respondToTerminalQueries bytes replies).length = replies.length + min 1 (queryCount bytes) := by
  rw [respondToTerminalQueries]
  split
  · next found =>
    have some := any_windows_iff.mp found
    rw [List.length_append, List.length_singleton]
    omega
  · next missing =>
    have none := any_windows_iff.not.mp missing
    omega

end Queries

section Capture

variable {limit : Nat} {capture : TerminalCapture} {reads : List (List UInt8)} {bytes stream : List UInt8}

/-- What a capture of some output has retained, and whether it has left out any. -/
structure Captured (limit : Nat) (stream : List UInt8) (capture : TerminalCapture) : Prop where
  log : capture.log = stream.take limit
  retained : capture.retained = min limit stream.length
  truncated : capture.truncated = decide (limit < stream.length)

theorem captured_initial : Captured limit [] .initial := ⟨List.take_nil.symm, (Nat.min_zero _).symm, rfl⟩

theorem captured_read (captured : Captured limit stream capture) (fits : limit < 2 ^ 64) :
    ∃ next, captureTerminalRead limit capture bytes = .ok next ∧ Captured limit (stream ++ bytes) next ∧
      next.replies = respondToTerminalQueries bytes capture.replies := by
  obtain ⟨log, retained, truncated⟩ := captured
  have small : ¬ 2 ^ 64 ≤ capture.retained + min (limit - capture.retained) bytes.length := by omega
  refine ⟨_, by rw [captureTerminalRead, refuseIf, if_neg small]; rfl, ⟨?_, ?_, ?_⟩, rfl⟩
  · change capture.log ++ bytes.take (min (limit - capture.retained) bytes.length) = _
    have available : limit - min limit stream.length = limit - stream.length := by omega
    rw [log, retained, available, List.take_append, ← List.take_eq_take_min]
  · change capture.retained + min (limit - capture.retained) bytes.length = _
    rw [List.length_append, retained]
    omega
  · rw [List.length_append, truncated, retained]
    rw [Bool.eq_iff_iff]
    simp only [Bool.or_eq_true, decide_eq_true_eq]
    omega

/-- How many replies reads get. -/
def replyCount (reads : List (List UInt8)) : Nat := (reads.map fun read => min 1 (queryCount read)).sum

theorem captured_stream (captured : Captured limit stream capture) (fits : limit < 2 ^ 64)
    (filled : ∀ read ∈ reads, read ≠ []) :
    ∃ final, captureTerminalStream limit capture reads = .ok final ∧
      Captured limit (stream ++ reads.flatten) final ∧
      final.replies.length = capture.replies.length + replyCount reads := by
  induction reads generalizing stream capture with
  | nil => exact ⟨capture, rfl, by rwa [List.flatten_nil, List.append_nil], rfl⟩
  | cons read rest ih =>
    obtain ⟨next, captures, after, replies⟩ := @captured_read limit capture read stream captured fits
    obtain ⟨final, ends, all, counted⟩ := ih after fun read listed => filled read (List.mem_cons_of_mem _ listed)
    refine ⟨final, ?_, ?_, ?_⟩
    · rw [captureTerminalStream, if_neg (filled read List.mem_cons_self), captures]
      exact ends
    · rwa [List.flatten_cons, ← List.append_assoc]
    · rw [counted, replies, length_respondToTerminalQueries, replyCount, replyCount, List.map_cons, List.sum_cons,
        Nat.add_assoc]

theorem replyCount_eq_iff : replyCount reads ≤ queryCount reads.flatten ∧
    (replyCount reads = queryCount reads.flatten ↔ QueriesApart reads) := by
  induction reads with
  | nil => exact ⟨Nat.le_refl _, iff_of_true rfl trivial⟩
  | cons read rest ih =>
    obtain ⟨cut, count, uncut⟩ := @queryCount_append read rest.flatten
    have split : replyCount (read :: rest) = min 1 (queryCount read) + replyCount rest := List.sum_cons
    rw [List.flatten_cons, count, QueriesApart, ← uncut, ← ih.2, split]
    have fewer := ih.1
    omega

/-- Two ways to read one stream keep the same log of it and agree on whether it is truncated; every query gets a reply
exactly when each read has one query at most and none goes over its end. -/
theorem captureTerminalStream_iff {others : List (List UInt8)} (fits : limit < 2 ^ 64) (isReads : IsReads stream reads)
    (isReads' : IsReads stream others) :
    ∃ first second, captureTerminalStream limit .initial reads = .ok first ∧
      captureTerminalStream limit .initial others = .ok second ∧
      first.log = stream.take limit ∧ second.log = stream.take limit ∧
      (first.truncated = true ↔ limit < stream.length) ∧ (second.truncated = true ↔ limit < stream.length) ∧
      (first.replies.length = queryCount stream ∧ second.replies.length = queryCount stream ↔
        QueriesApart reads ∧ QueriesApart others) := by
  have captures : ∀ {reads : List (List UInt8)}, IsReads stream reads → ∃ final,
      captureTerminalStream limit .initial reads = .ok final ∧ final.log = stream.take limit ∧
      (final.truncated = true ↔ limit < stream.length) ∧
      (final.replies.length = queryCount stream ↔ QueriesApart reads) := by
    intro reads isReads
    obtain ⟨final, ends, captured, replies⟩ := captured_stream captured_initial fits
      fun read listed => (isReads.filled read listed).1
    rw [List.nil_append, isReads.bytes] at captured
    refine ⟨final, ends, captured.log, by rw [captured.truncated, decide_eq_true_iff], ?_⟩
    rw [replies, ← isReads.bytes, ← replyCount_eq_iff.2]
    exact (Nat.zero_add _).symm ▸ Iff.rfl
  obtain ⟨first, ends, log, truncated, replies⟩ := captures isReads
  obtain ⟨second, ends', log', truncated', replies'⟩ := captures isReads'
  exact ⟨first, second, ends, ends', log, log', truncated, truncated', and_congr replies replies'⟩

theorem captureTerminalStream_iff_one : ∃ first second,
    captureTerminalStream 2 .initial [cursorQuery] = .ok first ∧
      captureTerminalStream 2 .initial [cursorQuery] = .ok second ∧
      first.log = cursorQuery.take 2 ∧ second.log = cursorQuery.take 2 ∧
      (first.truncated = true ↔ 2 < cursorQuery.length) ∧ (second.truncated = true ↔ 2 < cursorQuery.length) ∧
      (first.replies.length = queryCount cursorQuery ∧ second.replies.length = queryCount cursorQuery ↔
        QueriesApart [cursorQuery] ∧ QueriesApart [cursorQuery]) :=
  captureTerminalStream_iff (by decide) ⟨rfl, by decide⟩ ⟨rfl, by decide⟩

/-- A query that two reads share is not replied to, as it is where one read has it. -/
theorem not_captureTerminalStream_independent :
    IsReads cursorQuery [cursorQuery] ∧ IsReads cursorQuery [[0x1b], [0x5b, 0x36, 0x6e]] ∧
      captureTerminalStream 9 .initial [cursorQuery] = .ok ⟨cursorQuery, 4, false, [cursorReply]⟩ ∧
      captureTerminalStream 9 .initial [[0x1b], [0x5b, 0x36, 0x6e]] = .ok ⟨cursorQuery, 4, false, []⟩ :=
  ⟨⟨rfl, by decide⟩, ⟨rfl, by decide⟩, by decide, by decide⟩

end Capture

end AgentMod
