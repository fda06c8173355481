import AgentMod.Harness.NonStream
import AgentMod.Verified.Harness.Termination
import AgentMod.Verified.Harness.ToolCalls

/-! Streaming and non-streaming exchanges say the same of one completion. -/

namespace AgentMod

section Buffers

variable {fragments : List ToolCallPiece} {call : ChatToolCall} {buffer : ToolCallBuffer}

theorem foldl_takeFragment :
    (fragments.foldl OpenAiStreamNormalizer.takeFragment buffer).name =
        buffer.name ++ String.join (fragments.map (·.name)) ∧
      (fragments.foldl OpenAiStreamNormalizer.takeFragment buffer).arguments =
        buffer.arguments ++ String.join (fragments.map (·.arguments)) := by
  induction fragments generalizing buffer with
  | nil => simp
  | cons fragment rest ih =>
    rw [List.foldl_cons, ih.1, ih.2, List.map_cons, List.map_cons, String.join_cons, String.join_cons]
    simp only [OpenAiStreamNormalizer.takeFragment, String.append_assoc, and_self]

theorem callId_kept (ids : ∀ fragment ∈ fragments, ∀ id, fragment.id = some id → id = call.id)
    (kept : buffer.callId = call.id) :
    (fragments.foldl OpenAiStreamNormalizer.takeFragment buffer).callId = call.id := by
  induction fragments generalizing buffer with
  | nil => exact kept
  | cons fragment rest ih =>
    refine ih (fun other inside => ids other (List.mem_cons_of_mem _ inside)) ?_
    rw [OpenAiStreamNormalizer.takeFragment]
    cases sent : fragment.id with
    | none => exact kept
    | some id => exact ids fragment List.mem_cons_self id sent

theorem callId_foldl (ids : ∀ fragment ∈ fragments, ∀ id, fragment.id = some id → id = call.id)
    (sent : ∃ fragment ∈ fragments, fragment.id = some call.id) :
    (fragments.foldl OpenAiStreamNormalizer.takeFragment buffer).callId = call.id := by
  obtain ⟨first, inside, identified⟩ := sent
  obtain ⟨front, back, rfl⟩ := List.append_of_mem inside
  rw [List.foldl_append, List.foldl_cons]
  refine callId_kept (fun other inside => ids other ?_) ?_
  · exact List.mem_append_right _ (List.mem_cons_of_mem _ inside)
  · rw [OpenAiStreamNormalizer.takeFragment, identified]
    rfl

theorem FragmentsCall.fills (sent : FragmentsCall fragments call) :
    fragments.foldl OpenAiStreamNormalizer.takeFragment .default = call.buffer := by
  obtain ⟨name, arguments⟩ := @foldl_takeFragment fragments .default
  obtain ⟨front, first, back, split, -, identified⟩ := sent.identified
  have callId := @callId_foldl fragments call .default sent.ids
    ⟨first, split ▸ List.mem_append_right _ List.mem_cons_self, identified⟩
  rw [sent.name] at name
  rw [sent.arguments] at arguments
  generalize fragments.foldl OpenAiStreamNormalizer.takeFragment .default = filled at name arguments callId
  obtain ⟨_, _, _⟩ := filled
  simp only [ToolCallBuffer.default, String.empty_append] at name arguments callId
  rw [name, arguments, callId, ChatToolCall.buffer]

variable {pieces : List ChatPiece} {completion : ChatCompletion}

theorem Fragments.bufferAt (sent : Fragments pieces completion) (index : Nat) :
    bufferAt index pieces = completion.toolCalls[index]?.map (·.buffer) := by
  cases found : completion.toolCalls[index]? with
  | none => rw [AgentMod.bufferAt, sent.others index found, Option.map_none]
  | some call =>
    have fills := (sent.calls index call found).fills
    obtain ⟨front, first, back, split, -⟩ := (sent.calls index call found).identified
    rw [AgentMod.bufferAt]
    split
    next empty =>
      rw [empty] at split
      cases front <;> cases split
    next => rw [fills, Option.map_some]

/-- Fragments with arguments are sent under the identity of their call. -/
theorem Fragments.identityAt (sent : Fragments pieces completion) {front back : List ChatPiece}
    {piece : ToolCallPiece} (split : pieces = front ++ .toolCall piece :: back)
    (full : piece.arguments.isEmpty = false) : ∃ call, completion.toolCalls[piece.index]? = some call ∧
      identityAt piece.index (front ++ [.toolCall piece]) = call.id := by
  have about : (ChatPiece.toolCall piece).toolCallAt? piece.index = some piece := by
    simp [ChatPiece.toolCallAt?, ChatPiece.toolCall?, Option.filter]
  have here : fragmentsAt piece.index pieces =
      fragmentsAt piece.index front ++ piece :: fragmentsAt piece.index back := by
    rw [split, fragmentsAt, List.filterMap_append, List.filterMap_cons_some about, fragmentsAt, fragmentsAt]
  cases found : completion.toolCalls[piece.index]? with
  | none =>
    rw [sent.others _ found] at here
    exact absurd here.symm (by simp)
  | some call =>
    refine ⟨call, rfl, ?_⟩
    have ids := (sent.calls _ call found).ids
    obtain ⟨silent, first, rest, order, quiet, identified⟩ := (sent.calls _ call found).identified
    -- The identity is sent by then, as the fragments before it have no arguments.
    have already : first ∈ fragmentsAt piece.index front ++ [piece] := by
      rw [here] at order
      rcases List.append_eq_append_iff.mp order with ⟨between, rfl, tail⟩ | ⟨between, same, tail⟩
      · cases between with
        | nil =>
          obtain ⟨rfl, -⟩ := List.cons.inj tail
          exact List.mem_append_right _ List.mem_cons_self
        | cons other between =>
          obtain ⟨rfl, -⟩ := List.cons.inj tail
          have empty := quiet piece (List.mem_append_right _ List.mem_cons_self)
          rw [empty] at full
          cases full
      · cases between with
        | nil =>
          obtain ⟨rfl, -⟩ := List.cons.inj tail
          exact List.mem_append_right _ List.mem_cons_self
        | cons other between =>
          obtain ⟨rfl, -⟩ := List.cons.inj tail
          rw [same]
          simp
    have callId : ((AgentMod.bufferAt piece.index (front ++ [.toolCall piece])).getD .default).callId = call.id := by
      have fragments : fragmentsAt piece.index (front ++ [.toolCall piece]) = fragmentsAt piece.index front ++ [piece] := by
        rw [fragmentsAt_snoc, about]
        rfl
      have filled : AgentMod.bufferAt piece.index (front ++ [.toolCall piece]) =
          some ((fragmentsAt piece.index front ++ [piece]).foldl OpenAiStreamNormalizer.takeFragment .default) := by
        rw [AgentMod.bufferAt, fragments]
        cases fragmentsAt piece.index front <;> rfl
      rw [filled, Option.getD_some]
      refine callId_foldl (fun fragment inside => ids fragment ?_) ⟨first, already, identified⟩
      rw [here, List.append_cons]
      exact List.mem_append_left _ inside
    have named := completion.named call (List.mem_of_getElem? found)
    rw [AgentMod.identityAt, ToolCallBuffer.identity, callId, if_neg]
    exact fun empty => named (String.isEmpty_iff.mp empty)

end Buffers

section Normalizer

open OpenAiStreamNormalizer

variable {pieces : List ChatPiece} {completion : ChatCompletion}

theorem takePiece_usage (pushing : Pushing) (piece : ChatPiece) : (takePiece pushing piece).1.usage =
    match piece.usage? with
    | some usage => observeUsage pushing.1.usage usage
    | none => pushing.1.usage := by
  cases piece with
  | usage | finishReason => rfl
  | content text => by_cases empty : text.isEmpty <;> simp [takePiece, empty, ChatPiece.usage?]
  | toolCall piece => by_cases empty : piece.arguments.isEmpty <;> simp [takePiece, empty, ChatPiece.usage?]

theorem takePiece_finishReason (pushing : Pushing) (piece : ChatPiece) : (takePiece pushing piece).1.finishReason =
    match piece.finishReason? with
    | some reason => some reason
    | none => pushing.1.finishReason := by
  cases piece with
  | usage | finishReason => rfl
  | content text => by_cases empty : text.isEmpty <;> simp [takePiece, empty, ChatPiece.finishReason?]
  | toolCall piece => by_cases empty : piece.arguments.isEmpty <;> simp [takePiece, empty, ChatPiece.finishReason?]

theorem usage_foldl (pushing : Pushing) : (pieces.foldl takePiece pushing).1.usage =
    (pieces.filterMap (·.usage?)).foldl observeUsage pushing.1.usage := by
  rw [List.foldl_filterMap]
  refine (List.foldl_hom (fun pushing : Pushing => pushing.1.usage) fun pushing piece => ?_).symm
  rw [takePiece_usage]
  cases piece.usage? <;> rfl

theorem finishReason_foldl (pushing : Pushing) : (pieces.foldl takePiece pushing).1.finishReason =
    (pieces.filterMap (·.finishReason?)).foldl (fun _ reason => some reason) pushing.1.finishReason := by
  rw [List.foldl_filterMap]
  refine (List.foldl_hom (fun pushing : Pushing => pushing.1.finishReason) fun pushing piece => ?_).symm
  rw [takePiece_finishReason]
  cases piece.finishReason? <;> rfl

theorem DependencyUsage.merge_default (usage : DependencyUsage) :
    usage.merge .default = usage ∧ DependencyUsage.default.merge usage = usage ∧ usage.merge usage = usage := by
  obtain ⟨_, _, _, _, _, _⟩ := usage
  simp [DependencyUsage.merge, DependencyUsage.default]

/-- Observations of one usage, or of none, leave that usage or none. -/
theorem observeUsage_foldl {usages : List DependencyUsage} {usage : DependencyUsage} {current : Option DependencyUsage}
    (only : ∀ observed ∈ usages, observed = usage ∨ observed = .default)
    (start : current.getD .default = usage ∨ current.getD .default = .default) :
    (usages.foldl observeUsage current).getD .default =
      if usage ∈ usages then usage else current.getD .default := by
  induction usages generalizing current with
  | nil => rfl
  | cons observed rest ih =>
    have next : (observeUsage current observed).getD .default =
        if observed = usage then usage else current.getD .default := by
      rw [observeUsage, Option.getD_some]
      rcases only observed List.mem_cons_self with rfl | rfl
      · rw [if_pos rfl]
        rcases start with same | same <;> rw [same]
        · exact (DependencyUsage.merge_default _).2.2
        · exact (DependencyUsage.merge_default _).2.1
      · rw [(DependencyUsage.merge_default _).1]
        split
        next same =>
          rcases start with start | start
          · exact start
          · exact start.trans same
        next => rfl
    rw [List.foldl_cons, ih (fun other inside => only other (List.mem_cons_of_mem _ inside)), next]
    · by_cases same : observed = usage
      · subst same
        simp
      · simp [same, Ne.symm same]
    · rw [next]
      split
      · exact .inl rfl
      · exact start

theorem Fragments.usage_eq (sent : Fragments pieces completion) :
    (pieces.foldl takePiece (.new, [])).1.usage.getD .default = completion.usage := by
  rw [usage_foldl, observeUsage_foldl sent.usage (.inr rfl)]
  split
  · rfl
  next unsent => exact (Classical.not_not.mp fun other => unsent (sent.used other)).symm

theorem Fragments.finishReason_eq (sent : Fragments pieces completion) :
    (pieces.foldl takePiece (.new, [])).1.finishReason = completion.finishReason := by
  rw [finishReason_foldl]
  have reasons := sent.finishReason
  have finished := sent.finished
  generalize pieces.filterMap (·.finishReason?) = found at reasons finished ⊢
  cases found using List.reverseRecOn with
  | nil =>
    cases named : completion.finishReason with
    | none => rfl
    | some reason =>
      rw [named] at finished
      cases finished rfl
  | append_singleton front last =>
    rw [List.foldl_append, reasons last (List.mem_append_right _ List.mem_cons_self)]
    rfl

theorem takePiece_pushes (pushing : Pushing) (piece : ChatPiece) : ∃ pushed : List DependencyProviderEvent,
    (takePiece pushing piece).2 = pushing.2 ++ pushed ∧ pushed.length = (if piece.isPushed then 1 else 0) ∧
      String.join (pushed.filterMap (·.text?)) = piece.content?.getD "" ∧ pushed.all (·.isDelta) := by
  cases piece with
  | usage | finishReason => exact ⟨[], (List.append_nil _).symm, rfl, rfl, rfl⟩
  | content text =>
    by_cases empty : text.isEmpty
    · have nothing := String.isEmpty_iff.mp empty
      exact ⟨[], by simp [takePiece, empty], by simp [ChatPiece.isPushed, empty], nothing.symm, rfl⟩
    · exact ⟨[.textDelta text], by simp [takePiece, empty], by simp [ChatPiece.isPushed, empty],
        by simp [DependencyProviderEvent.text?, ChatPiece.content?], rfl⟩
  | toolCall piece =>
    by_cases empty : piece.arguments.isEmpty
    · exact ⟨[], by simp [takePiece, empty], by simp [ChatPiece.isPushed, empty], rfl, rfl⟩
    · refine ⟨_, by rw [takePiece, if_neg empty], by simp [ChatPiece.isPushed, empty], rfl, rfl⟩

theorem foldl_pushes (pieces : List ChatPiece) :
    ((pieces.foldl takePiece (.new, [])).2.length = (pieces.filter (·.isPushed)).length) ∧
    String.join ((pieces.foldl takePiece (.new, [])).2.filterMap (·.text?)) =
      String.join (pieces.filterMap (·.content?)) ∧
    (pieces.foldl takePiece (.new, [])).2.all (·.isDelta) := by
  induction pieces using List.reverseRecOn with
  | nil => exact ⟨rfl, rfl, rfl⟩
  | append_singleton front piece ih =>
    obtain ⟨length, text, deltas⟩ := ih
    obtain ⟨pushed, pushes, one, spelled, delta⟩ := takePiece_pushes (front.foldl takePiece (.new, [])) piece
    rw [List.foldl_append, List.foldl_cons, List.foldl_nil, pushes]
    refine ⟨?_, ?_, ?_⟩
    · rw [List.length_append, length, one, List.filter_append, List.length_append]
      by_cases pushed : piece.isPushed <;> simp [pushed]
    · rw [List.filterMap_append, List.filterMap_append, String.join_append, String.join_append, text, spelled]
      cases said : piece.content? <;> simp [said]
    · rw [List.all_append, deltas, delta]
      rfl

theorem Fragments.carried (sent : Fragments pieces completion) {tagged : List (Nat × CallEntry)}
    (deltas : DeltasOf pieces tagged) {item : Nat × CallEntry} (inside : item ∈ tagged) :
    ∃ call, completion.toolCalls[item.1]? = some call ∧ item.2.callId = call.id := by
  obtain ⟨front, piece, back, split, full, rfl⟩ := deltas.sent item inside
  exact sent.identityAt split full

theorem ChatCompletion.place_unique (completion : ChatCompletion) {first second : Nat} {one two : ChatToolCall}
    (here : completion.toolCalls[first]? = some one) (there : completion.toolCalls[second]? = some two)
    (same : one.id = two.id) : first = second := by
  obtain ⟨inside, -⟩ := List.getElem?_eq_some_iff.mp here
  have nodup := completion.distinct
  refine (List.getElem?_inj (by rwa [List.length_map]) nodup).mp ?_
  rw [List.getElem?_map, List.getElem?_map, here, there, Option.map_some, Option.map_some, same]

theorem Fragments.arguments_eq (sent : Fragments pieces completion) {index : Nat} {call : ChatToolCall}
    (found : completion.toolCalls[index]? = some call) :
    String.join (fragmentsOf call.id (callEntries (pieces.foldl takePiece (.new, [])).2)) = call.arguments := by
  obtain ⟨tagged, deltas⟩ := exists_deltasOf pieces
  have joined := deltas.joined index
  rw [sent.bufferAt, found, Option.map_some, Option.getD_some] at joined
  rw [deltas.entries, fragmentsOf, List.filter_map, List.filterMap_map]
  refine Eq.trans (congrArg String.join ?_) joined
  rw [fragmentsAtPlace, List.filter_congr]
  · rfl
  · intro item inside
    obtain ⟨other, present, same⟩ := sent.carried deltas inside
    rw [Bool.eq_iff_iff, beq_iff_eq, Function.comp_apply, beq_iff_eq, same]
    constructor
    · exact completion.place_unique present found
    · intro here
      rw [here, found] at present
      cases present
      rfl

theorem Fragments.arguments_none (sent : Fragments pieces completion) {callId : String}
    (unused : ∀ call ∈ completion.toolCalls, call.id ≠ callId) :
    fragmentsOf callId (callEntries (pieces.foldl takePiece (.new, [])).2) = [] := by
  obtain ⟨tagged, deltas⟩ := exists_deltasOf pieces
  rw [deltas.entries, fragmentsOf, List.filter_eq_nil_iff.mpr]
  · rfl
  · intro entry inside same
    obtain ⟨item, member, rfl⟩ := List.mem_map.mp inside
    obtain ⟨call, present, carried⟩ := sent.carried deltas member
    exact unused call (List.mem_of_getElem? present) (carried.symm.trans (beq_iff_eq.mp same))

theorem Fragments.summarize_eq {others : List ChatPiece} (sent : Fragments pieces completion)
    (alike : Fragments others completion) :
    summarize (pieces.foldl takePiece (.new, [])).2 = summarize (others.foldl takePiece (.new, [])).2 := by
  have text := (foldl_pushes pieces).2.1.trans (sent.content.trans
    (alike.content.symm.trans (foldl_pushes others).2.1.symm))
  have deltas := (foldl_pushes pieces).2.2
  have otherDeltas := (foldl_pushes others).2.2
  rw [summarize, summarize, text]
  congr 1
  · funext callId
    by_cases present : ∃ call ∈ completion.toolCalls, call.id = callId
    · obtain ⟨call, inside, rfl⟩ := present
      obtain ⟨index, found⟩ := List.getElem?_of_mem inside
      rw [sent.arguments_eq found, alike.arguments_eq found]
    · have unused : ∀ call ∈ completion.toolCalls, call.id ≠ callId :=
        fun call inside same => present ⟨call, inside, same⟩
      rw [sent.arguments_none unused, alike.arguments_none unused]
  · have nothing (events : List DependencyProviderEvent) (deltas : events.all (·.isDelta)) :
        events.filter (!·.isDelta) = [] := by
      rw [List.filter_eq_nil_iff]
      intro event inside
      rw [List.all_eq_true.mp deltas event inside]
      exact Bool.false_ne_true
    rw [nothing _ deltas, nothing _ otherDeltas]

theorem Fragments.toolBuffers_eq {others : List ChatPiece} (sent : Fragments pieces completion)
    (alike : Fragments others completion) : (pieces.foldl takePiece (.new, [])).1.toolBuffers =
      (others.foldl takePiece (.new, [])).1.toolBuffers := by
  refine Std.ExtTreeMap.ext_getElem? fun index => ?_
  rw [AgentMod.toolBuffers_eq, AgentMod.toolBuffers_eq, sent.bufferAt, alike.bufferAt]

end Normalizer

section Summaries

theorem summarize_append (front back : List DependencyProviderEvent) : summarize (front ++ back) =
    ⟨(summarize front).text ++ (summarize back).text,
      fun callId => (summarize front).arguments callId ++ (summarize back).arguments callId,
      (summarize front).others ++ (summarize back).others⟩ := by
  simp only [summarize, List.filterMap_append, String.join_append, List.filter_append, callEntries, fragmentsOf]

end Summaries

section Whole

open OpenAiStreamNormalizer

variable {completion : ChatCompletion}

/-- The piece of a tool call that is sent whole. -/
def ChatToolCall.whole (index : Nat) (call : ChatToolCall) : ToolCallPiece :=
  ⟨index, some call.id, call.name, call.arguments⟩

/-- The pieces of a completion that is sent whole, with its usage and its content if these are there. -/
def ChatCompletion.whole (completion : ChatCompletion) (usage : Option DependencyUsage) (content : Option String) :
    List ChatPiece :=
  (usage.map .usage).toList ++ (completion.finishReason.map .finishReason).toList ++
    (content.map .content).toList ++
    completion.toolCalls.mapIdx fun index call => .toolCall (call.whole index)

theorem fragments_whole (calls : List ChatToolCall) (index : Nat) :
    fragmentsAt index (calls.mapIdx fun place call => .toolCall (call.whole place)) =
      (calls[index]?.map (·.whole index)).toList := by
  induction calls using List.reverseRecOn with
  | nil => rfl
  | append_singleton front call ih =>
    have about : (ChatPiece.toolCall (call.whole front.length)).toolCallAt? index =
        if front.length = index then some (call.whole front.length) else none := by
      simp [ChatPiece.toolCallAt?, ChatPiece.toolCall?, Option.filter, ChatToolCall.whole]
    rw [List.mapIdx_concat, fragmentsAt_snoc, ih, about]
    rcases Nat.lt_trichotomy front.length index with beyond | rfl | within
    · rw [if_neg (by omega), List.getElem?_eq_none (by omega), List.getElem?_eq_none (by simp; omega)]
      rfl
    · rw [if_pos rfl, List.getElem?_eq_none (Nat.le_refl _), List.getElem?_concat_length]
      rfl
    · rw [if_neg (by omega), List.getElem?_append_left within]
      exact List.append_nil _

theorem filterMap_calls {β : Type} {read : ChatPiece → Option β} (calls : List ChatToolCall)
    (unread : ∀ piece, read (.toolCall piece) = none) :
    (calls.mapIdx fun index call => .toolCall (call.whole index)).filterMap read = [] := by
  rw [List.filterMap_eq_nil_iff]
  intro piece inside
  obtain ⟨index, within, rfl⟩ := List.mem_mapIdx.mp inside
  exact unread _

theorem filterMap_whole {usage : Option DependencyUsage} {content : Option String} :
    (completion.whole usage content).filterMap (·.content?) = content.toList ∧
    (completion.whole usage content).filterMap (·.finishReason?) = completion.finishReason.toList ∧
    (completion.whole usage content).filterMap (·.usage?) = usage.toList := by
  simp only [ChatCompletion.whole, List.filterMap_append, List.append_assoc]
  rw [filterMap_calls _ fun _ => rfl, filterMap_calls _ fun _ => rfl, filterMap_calls _ fun _ => rfl]
  refine ⟨?_, ?_, ?_⟩ <;> cases usage <;> cases content <;> cases completion.finishReason <;> rfl

theorem fragmentsAt_whole {usage : Option DependencyUsage} {content : Option String} (index : Nat) :
    fragmentsAt index (completion.whole usage content) = (completion.toolCalls[index]?.map (·.whole index)).toList := by
  rw [← fragments_whole]
  simp only [ChatCompletion.whole, fragmentsAt, List.filterMap_append, List.append_assoc]
  cases usage <;> cases content <;> cases completion.finishReason <;> rfl

/-- A completion that is sent whole is sent in fragments. -/
theorem whole_fragments {usage : Option DependencyUsage} {content : Option String}
    (used : usage.getD .default = completion.usage) (filled : content.getD "" = completion.content) :
    Fragments (completion.whole usage content) completion where
  content := by
    rw [filterMap_whole.1, ← filled]
    cases content <;> simp
  calls := by
    intro index call found
    rw [fragmentsAt_whole, found]
    refine ⟨⟨[], call.whole index, [], rfl, nofun, rfl⟩, ?_, ?_, ?_⟩
    · intro fragment inside id sent
      rw [List.mem_singleton.mp inside] at sent
      exact (Option.some.inj sent).symm
    · simp [ChatToolCall.whole]
    · simp [ChatToolCall.whole]
  others := by
    intro index absent
    rw [fragmentsAt_whole, absent]
    rfl
  finishReason := by
    intro reason inside
    rw [filterMap_whole.2.1] at inside
    exact Option.mem_toList.mp inside
  finished := by
    intro finished
    rw [filterMap_whole.2.1]
    cases named : completion.finishReason with
    | none =>
      rw [named] at finished
      cases finished
    | some reason => rfl
  usage := by
    intro observed inside
    rw [filterMap_whole.2.2] at inside
    rw [Option.mem_toList.mp inside] at used
    exact .inl used
  used := by
    intro different
    rw [filterMap_whole.2.2, ← used]
    cases usage with
    | none => exact absurd used.symm different
    | some usage => exact List.mem_cons_self

theorem toolCallPiece_openAiCallDelta {value : Json} {call : ChatToolCall} {index : Nat}
    (described : DescribesCall value call) (counted : index < 2 ^ 64) :
    toolCallPiece (openAiCallDelta index value) = call.whole index := by
  have function (key : String) : ((openAiCallDelta index value).pointer? ["function", key]).bind (·.asStr?) =
      (value.pointer? ["function", key]).bind (·.asStr?) := by
    have field : (openAiCallDelta index value).get? "function" =
        some ((value.get? "function").getD (.object [])) := rfl
    simp only [Json.pointer?, List.foldlM_cons, List.foldlM_nil, field]
    cases value.get? "function" <;> rfl
  have id : ((openAiCallDelta index value).get? "id").bind (·.asStr?) = (value.get? "id").bind (·.asStr?) := by
    have field : (openAiCallDelta index value).get? "id" = some ((value.get? "id").getD .null) := rfl
    rw [field]
    cases value.get? "id" <;> rfl
  have place : (openAiCallDelta index value).index = index := Nat.mod_eq_of_lt counted
  rw [toolCallPiece, place, id, function, function, described.id, described.name, described.arguments]
  rfl

theorem toolCallsOf_openAiDelta (message : Json) :
    toolCallsOf (openAiDelta message) = (toolCallsOf message).mapIdx openAiCallDelta := by
  rw [toolCallsOf, toolCallsOf, openAiDelta]
  cases (message.get? "content").bind (·.asStr?) <;> cases (message.get? "tool_calls").bind (·.asArray?) <;> rfl

theorem content_openAiDelta (message : Json) : ((openAiDelta message).get? "content").bind (·.asStr?) =
    (message.get? "content").bind (·.asStr?) := by
  rw [openAiDelta]
  cases (message.get? "content").bind (·.asStr?) <;> cases (message.get? "tool_calls").bind (·.asArray?) <;> rfl

/-- The chunks of a described completion are read as the completion sent whole. -/
theorem synthesized_whole {value : Json} (described : Describes value completion) : ∃ chunks usage content,
    synthesizeOpenAiNonStream value = .ok chunks ∧ chunks.flatMap chunkPieces = completion.whole usage content ∧
      usage.getD .default = completion.usage ∧ content.getD "" = completion.content := by
  obtain ⟨choice, message, choices, present, reason, content, calls⟩ := described.choice
  refine ⟨_, (value.get? "usage").map parseUsage, (message.get? "content").bind (·.asStr?),
    by rw [synthesizeOpenAiNonStream, choices], ?_, described.usage, content⟩
  have usagePieces : ((value.get? "usage").map fun usage => Json.object [("usage", usage)]).toList.flatMap
      chunkPieces = (((value.get? "usage").map parseUsage).map ChatPiece.usage).toList := by
    cases value.get? "usage" <;> rfl
  have callPieces : ((toolCallsOf (openAiDelta message)).map (ChatPiece.toolCall ∘ toolCallPiece)) =
      completion.toolCalls.mapIdx fun index call => .toolCall (call.whole index) := by
    rw [toolCallsOf_openAiDelta]
    refine List.ext_getElem (by simpa using calls.length_eq) fun index within withinToo => ?_
    simp only [List.length_map, List.length_mapIdx] at within withinToo
    simp only [List.getElem_map, List.getElem_mapIdx, Function.comp_apply]
    exact congrArg ChatPiece.toolCall (toolCallPiece_openAiCallDelta (calls.get within withinToo)
      (Nat.lt_of_lt_of_le withinToo completion.counted))
  have choicePieces_ : chunkPieces (openAiChoiceChunk choice) =
      (completion.finishReason.map ChatPiece.finishReason).toList ++
        (((message.get? "content").bind (·.asStr?)).map ChatPiece.content).toList ++
        completion.toolCalls.mapIdx fun index call => .toolCall (call.whole index) := by
    have delta : ((choice.get? "message").map openAiDelta).getD (.object []) = openAiDelta message := by
      rw [present]
      rfl
    have ended : ((choice.get? "finish_reason").getD .null).asStr? = completion.finishReason := by
      rw [← reason]
      cases choice.get? "finish_reason" <;> rfl
    have single : chunkPieces (openAiChoiceChunk choice) = choicePieces (.object [("delta", openAiDelta message),
        ("finish_reason", (choice.get? "finish_reason").getD .null)]) := by
      rw [openAiChoiceChunk, delta]
      exact List.append_nil _
    have text : (Json.object [("delta", openAiDelta message), ("finish_reason",
        (choice.get? "finish_reason").getD .null)]).pointer? ["delta", "content"] =
          (openAiDelta message).get? "content" := by
      simp only [Json.pointer?, List.foldlM_cons, List.foldlM_nil]
      exact bind_pure ((openAiDelta message).get? "content")
    rw [single, choicePieces, text, content_openAiDelta, ← callPieces, ← ended]
    rfl
  rw [List.map_singleton, List.flatMap_append, usagePieces, List.flatMap_singleton, choicePieces_,
    ChatCompletion.whole, List.append_assoc, List.append_assoc, List.append_assoc]

end Whole

section Exchanges

open OpenAiStreamNormalizer

variable [ProviderJson] {pieces : List ChatPiece} {completion : ChatCompletion}
  {pricing : DependencyUsage → Option DependencyCostMetadata}

theorem finishOpenAiTools_congr {first second : OpenAiStreamNormalizer}
    (same : first.toolBuffers = second.toolBuffers) :
    (StreamNormalizer.openAi first).finishOpenAiTools = (StreamNormalizer.openAi second).finishOpenAiTools := by
  simp only [StreamNormalizer.finishOpenAiTools, finish, finalToolCalls, same]

theorem Fragments.finishes (sent : Fragments pieces completion) (parse : ArgumentsParse completion) :
    ∃ proposals, (StreamNormalizer.openAi (pieces.foldl takePiece (.new, [])).1).finishOpenAiTools = .ok proposals := by
  refine ⟨((pieces.foldl takePiece (.new, [])).1.finalToolCalls).map StreamNormalizer.proposal, ?_⟩
  simp only [StreamNormalizer.finishOpenAiTools, finish, bind_eq_ok, pure_eq_ok]
  refine ⟨_, ⟨(), forM_eq_ok.mpr ?_, rfl⟩, rfl⟩
  intro call inside
  obtain ⟨buffer, member, rfl⟩ := List.mem_map.mp inside
  obtain ⟨listed, used⟩ := List.mem_filter.mp member
  obtain ⟨⟨index, _⟩, kept, rfl⟩ := List.mem_map.mp listed
  rw [Std.ExtTreeMap.mem_toList_iff_getElem?_eq_some, AgentMod.toolBuffers_eq, sent.bufferAt,
    Option.map_eq_some_iff] at kept
  obtain ⟨call, found, rfl⟩ := kept
  obtain ⟨value, parses⟩ := parse call (List.mem_of_getElem? found) used
  rw [checkArguments, finalToolCall]
  dsimp only
  rw [parses]

/-- The events of an exchange that completes behind some deltas. -/
def completedEvents (pricing : DependencyUsage → Option DependencyCostMetadata) (normalizer : OpenAiStreamNormalizer)
    (deltas proposals : List DependencyProviderEvent) : List DependencyProviderEvent :=
  [.started] ++ deltas ++ proposals ++ [.completed (normalizer.finishReason.getD "stop")
    (normalizer.usage.getD .default) (pricing (normalizer.usage.getD .default))]

omit [ProviderJson] in
theorem Fragments.completedEvents_eq {others : List ChatPiece} (sent : Fragments pieces completion)
    (alike : Fragments others completion) (proposals : List DependencyProviderEvent) :
    summarize (completedEvents pricing (pieces.foldl takePiece (.new, [])).1
      (pieces.foldl takePiece (.new, [])).2 proposals) =
    summarize (completedEvents pricing (others.foldl takePiece (.new, [])).1
      (others.foldl takePiece (.new, [])).2 proposals) := by
  simp only [completedEvents, sent.usage_eq, sent.finishReason_eq, alike.usage_eq, alike.finishReason_eq,
    summarize_append, sent.summarize_eq alike]

theorem handleAll_openAi (chunks : List Json) :
    (StreamNormalizer.openAi .new).handleAll (chunks.map ("message", ·)) =
      (.openAi (handleAll (.new, []) chunks).1, (handleAll (.new, []) chunks).2) := by
  have behind (normalizer : OpenAiStreamNormalizer) (events : List DependencyProviderEvent) :
      (chunks.map ("message", ·)).foldl (fun state chunk =>
        ((StreamNormalizer.handle chunk.1 chunk.2 state.1).1,
          state.2 ++ (StreamNormalizer.handle chunk.1 chunk.2 state.1).2))
        (StreamNormalizer.openAi normalizer, events) =
      (.openAi (handleAll (normalizer, events) chunks).1, (handleAll (normalizer, events) chunks).2) := by
    induction chunks generalizing normalizer events with
    | nil => rfl
    | cons chunk rest ih => exact ih _ _
  exact behind .new []

theorem executeNonStreaming_whole (pricing : DependencyUsage → Option DependencyCostMetadata) {response : String} {value : Json}
    (described : Describes value completion)
    (parsed : ProviderJson.parse response = .ok value) (short : response.utf8ByteSize ≤ maxNonStreamBodyBytes)
    (parse : ArgumentsParse completion) : ∃ pieces proposals, Fragments pieces completion ∧
      (StreamNormalizer.openAi (pieces.foldl takePiece (.new, [])).1).finishOpenAiTools = .ok proposals ∧
      executeNonStreaming .openAi pricing response = .ok (completedEvents pricing
        (pieces.foldl takePiece (.new, [])).1 (pieces.foldl takePiece (.new, [])).2 proposals) := by
  obtain ⟨chunks, usage, content, synthesized, read, used, filled⟩ := synthesized_whole described
  have sent := whole_fragments used filled
  obtain ⟨proposals, finished⟩ := sent.finishes parse
  refine ⟨_, proposals, sent, finished, ?_⟩
  have body : truncatedBody response = .ok response := if_neg (Nat.not_lt.mpr short)
  have all := handleAll_openAi chunks
  rw [handleAll_eq, read] at all
  rw [executeNonStreaming, body]
  simp only [bind, Except.bind, parsed, synthesize, synthesized, Except.map, Except.mapError, StreamNormalizer.new,
    all, finished]
  rfl

omit [ProviderJson] in
theorem textBytes_sum (events : List DependencyProviderEvent) : (events.map LiveExchange.textBytes).sum =
    (String.join (events.filterMap (·.text?))).utf8ByteSize := by
  induction events with
  | nil => rfl
  | cons event rest ih =>
    cases event <;>
      simp [LiveExchange.textBytes, DependencyProviderEvent.text?, ih, String.utf8ByteSize_append]

/-- Pieces fit the budgets of a stream. -/
def Affordable (pieces : List ChatPiece) : Prop :=
  (pieces.filter (·.isPushed)).length < maxStreamEvents ∧
    (String.join (pieces.filterMap (·.content?))).utf8ByteSize ≤ maxEventDeltasBytes

omit [ProviderJson] in
theorem Affordable.front {back : List ChatPiece} (all : Affordable (pieces ++ back)) : Affordable pieces := by
  obtain ⟨events, bytes⟩ := all
  rw [List.filter_append, List.length_append] at events
  rw [List.filterMap_append, String.join_append, String.utf8ByteSize_append] at bytes
  exact ⟨by omega, by omega⟩

/-- The exchange has taken up some pieces. -/
structure Reached (exchange : LiveExchange) (pieces : List ChatPiece) : Prop where
  normalizer : exchange.normalizer = .openAi (pieces.foldl takePiece (.new, [])).1
  events : exchange.events = .started :: (pieces.foldl takePiece (.new, [])).2
  bytes : exchange.eventBytes = ((pieces.foldl takePiece (.new, [])).2.map LiveExchange.textBytes).sum

omit [ProviderJson] in
theorem Reached.withinBudget {exchange : LiveExchange} (reached : Reached exchange pieces)
    (affordable : Affordable pieces) : exchange.exceedsBudget = false := by
  obtain ⟨length, text, -⟩ := foldl_pushes pieces
  obtain ⟨events, bytes⟩ := affordable
  rw [LiveExchange.exceedsBudget, reached.events, reached.bytes, textBytes_sum, text, List.length_cons, length,
    Bool.or_eq_false_iff, decide_eq_false_iff_not, decide_eq_false_iff_not]
  exact ⟨by omega, by omega⟩

theorem Reached.takeValue {exchange : LiveExchange} (reached : Reached exchange pieces) (eventType : String)
    (chunk : Json) (affordable : Affordable (pieces ++ chunkPieces chunk)) :
    ∃ next, exchange.takeValue eventType chunk = .next next ∧ Reached next (pieces ++ chunkPieces chunk) := by
  have handled : exchange.normalizer.handle eventType chunk =
      (.openAi ((pieces ++ chunkPieces chunk).foldl takePiece (.new, [])).1,
        ((chunkPieces chunk).foldl takePiece ((pieces.foldl takePiece (.new, [])).1, [])).2) := by
    rw [reached.normalizer, StreamNormalizer.handle, handle_eq, List.foldl_append,
      foldl_takePiece (pieces.foldl takePiece (.new, [])).1 (pieces.foldl takePiece (.new, [])).2]
    rfl
  have pushed : ((pieces ++ chunkPieces chunk).foldl takePiece (.new, [])).2 =
      (pieces.foldl takePiece (.new, [])).2 ++
        ((chunkPieces chunk).foldl takePiece ((pieces.foldl takePiece (.new, [])).1, [])).2 := by
    rw [List.foldl_append, foldl_takePiece (pieces.foldl takePiece (.new, [])).1 (pieces.foldl takePiece (.new, [])).2]
  let next : LiveExchange := {
    normalizer := .openAi ((pieces ++ chunkPieces chunk).foldl takePiece (.new, [])).1
    events := exchange.events ++ ((chunkPieces chunk).foldl takePiece ((pieces.foldl takePiece (.new, [])).1, [])).2
    eventBytes := exchange.eventBytes + (((chunkPieces chunk).foldl takePiece
      ((pieces.foldl takePiece (.new, [])).1, [])).2.map LiveExchange.textBytes).sum
    receivedAny := exchange.receivedAny ||
      (StreamNormalizer.openAi ((pieces ++ chunkPieces chunk).foldl takePiece (.new, [])).1).started }
  have behind : Reached next (pieces ++ chunkPieces chunk) := by
    refine ⟨rfl, ?_, ?_⟩
    · rw [pushed, ← List.cons_append, ← reached.events]
    · rw [pushed, List.map_append, List.sum_append, ← reached.bytes]
  refine ⟨next, ?_, behind⟩
  rw [LiveExchange.takeValue, handled]
  exact if_neg (by rw [behind.withinBudget affordable]; exact Bool.false_ne_true)

theorem Reached.takeEvents {exchange : LiveExchange} (reached : Reached exchange pieces) {events : List SseEvent}
    {chunks : List Json} (carried : Carries events chunks)
    (affordable : Affordable (pieces ++ chunks.flatMap chunkPieces)) :
    ∃ next, exchange.takeEvents events = .next next ∧ Reached next (pieces ++ chunks.flatMap chunkPieces) := by
  induction carried generalizing exchange pieces with
  | nil => exact ⟨exchange, rfl, by rwa [List.flatMap_nil, List.append_nil]⟩
  | @blank event events chunks blank _ ih =>
    have unmarked : event.data ≠ "[DONE]" := by
      intro done
      rw [done] at blank
      cases blank
    have step : exchange.takeEvent event = .next exchange := by
      rw [LiveExchange.takeEvent, if_neg unmarked, if_pos blank]
    rw [LiveExchange.takeEvents, step]
    exact ih reached affordable
  | @chunk event events chunk chunks unmarked full parsed sound _ ih =>
    rw [List.flatMap_cons, ← List.append_assoc] at affordable ⊢
    obtain ⟨next, took, behind⟩ := reached.takeValue event.event chunk affordable.front
    have step : exchange.takeEvent event = .next next := by
      rw [LiveExchange.takeEvent, if_neg unmarked, if_neg (by rw [full]; exact Bool.false_ne_true), parsed]
      dsimp only
      rw [sound]
      exact took
    rw [LiveExchange.takeEvents, step]
    exact ih behind affordable

theorem executeStream_pieces {receptions : List Reception} {last : StreamEnd} {events : List SseEvent}
    {chunks : List Json} {proposals : List DependencyProviderEvent} (streams : Streams receptions last events)
    (carried : Carries events chunks) (affordable : Affordable (chunks.flatMap chunkPieces))
    (finished : (StreamNormalizer.openAi ((chunks.flatMap chunkPieces).foldl takePiece (.new, [])).1).finishOpenAiTools =
      .ok proposals) :
    executeStream .openAi pricing receptions last = completedEvents pricing
      ((chunks.flatMap chunkPieces).foldl takePiece (.new, [])).1
      ((chunks.flatMap chunkPieces).foldl takePiece (.new, [])).2 proposals := by
  obtain ⟨ending, after, observed, ends⟩ := streams
  have new : Reached (.new .openAi) [] := ⟨rfl, rfl, rfl⟩
  obtain ⟨reached, took, behind⟩ := new.takeEvents carried affordable
  rw [List.nil_append] at behind
  rw [executeStream, LiveExchange.streamLoop_eq, observed, LiveExchange.observe_events, took]
  dsimp only
  rw [LiveExchange.observe_of_ends ends, LiveExchange.finishLiveStream, behind.withinBudget affordable,
    behind.normalizer, finished]
  dsimp only
  rw [behind.events]
  rfl

end Exchanges

section Sample

open OpenAiStreamNormalizer

/-- A completion of so many letters. -/
def letters (count : Nat) : ChatCompletion where
  content := String.join (List.replicate count "x")
  toolCalls := []
  finishReason := none
  usage := .default
  named := nofun
  distinct := .nil
  counted := Nat.zero_le _

/-- A completion with one call, whose arguments are cut off. -/
def cutCall : ChatCompletion where
  content := ""
  toolCalls := [⟨"call-1", "read", "["⟩]
  finishReason := none
  usage := .default
  named := by simp
  distinct := by simp
  counted := by decide

/-- A response with one choice. -/
def responseWith (message : Json) : Json :=
  .object [("choices", .array [.object [("message", message)]])]

/-- A chunk with one choice. -/
def chunkWith (delta : Json) : Json :=
  .object [("choices", .array [.object [("delta", delta)]])]

/-- The tool call that is cut off. -/
def cutCallJson : Json :=
  .object [("id", .string "call-1"), ("function", .object [("name", .string "read"), ("arguments", .string "[")])]

/-- A stand-in for the JSON parser that knows the responses and the chunks of the samples. -/
abbrev agreementJson : ProviderJson where
  parse text :=
    if text = "letters" then .ok (responseWith (.object [("content", .string (letters maxStreamEvents).content)]))
    else if text = "x" then .ok (chunkWith (.object [("content", .string "x")]))
    else if text = "letter" then .ok (responseWith (.object [("content", .string (letters 1).content)]))
    else if text = "call" then .ok (responseWith (.object [("tool_calls", .array [cutCallJson])]))
    else if text = "c" then .ok (chunkWith (.object [("tool_calls", .array [cutCallJson])]))
    else .error "expected value"
  print _ := ""

attribute [local instance] agreementJson

/-- The event of a chunk of a sample. -/
def sampleChunk (text : String) : Reception :=
  .received (.ok (utf8Bytes ("data: " ++ text ++ "\n\n").toList))

theorem describes_letters (count : Nat) :
    Describes (responseWith (.object [("content", .string (letters count).content)])) (letters count) :=
  ⟨⟨_, _, rfl, rfl, rfl, rfl, .nil⟩, rfl⟩

theorem fragments_letters (count : Nat) : Fragments (List.replicate count (.content "x")) (letters count) where
  content := congrArg String.join (List.filterMap_replicate_of_some rfl)
  calls := nofun
  others := fun _ _ => List.filterMap_replicate_of_none rfl
  finishReason := by rw [List.filterMap_replicate_of_none rfl]; nofun
  finished := nofun
  usage := by rw [List.filterMap_replicate_of_none rfl]; nofun
  used := fun other => absurd rfl other

theorem push_sampleChunk {text : String} (sample : text = "x" ∨ text = "c") :
    SseParser.new.push .default (utf8Bytes ("data: " ++ text ++ "\n\n").toList) =
      (.ok [⟨"message", text⟩], .new) := by
  have answered : (SseParser.new.push .default (utf8Bytes ("data: " ++ text ++ "\n\n").toList)).1 =
      .ok [⟨"message", text⟩] := by
    rcases sample with rfl | rfl <;> decide
  have left : (SseParser.new.push .default (utf8Bytes ("data: " ++ text ++ "\n\n").toList)).2.pending = [] ∧
      (SseParser.new.push .default (utf8Bytes ("data: " ++ text ++ "\n\n").toList)).2.eventName = [] ∧
      (SseParser.new.push .default (utf8Bytes ("data: " ++ text ++ "\n\n").toList)).2.dataLines = [] := by
    rcases sample with rfl | rfl <;> decide
  generalize SseParser.new.push .default (utf8Bytes ("data: " ++ text ++ "\n\n").toList) = pushed at answered left
  obtain ⟨answer, ⟨pending, eventName, dataLines⟩⟩ := pushed
  obtain ⟨rfl, rfl, rfl⟩ := left
  rw [SseParser.new, ← answered]

theorem observations_sampleChunk {text : String} (sample : text = "x" ∨ text = "c") (count : Nat) :
    observations .new (List.replicate count (sampleChunk text)) .endOfFile =
      (List.replicate count ⟨"message", text⟩).map .event ++ [.endOfFile] := by
  induction count with
  | zero => rfl
  | succ count ih =>
    have filled : utf8Bytes ("data: " ++ text ++ "\n\n").toList ≠ [] := by
      rcases sample with rfl | rfl <;> decide
    rw [List.replicate_succ, List.replicate_succ, List.map_cons, List.cons_append, ← ih]
    cases bytes : utf8Bytes ("data: " ++ text ++ "\n\n").toList with
    | nil => exact absurd bytes filled
    | cons byte rest =>
      have pushed := push_sampleChunk sample
      rw [bytes] at pushed
      rw [sampleChunk, bytes, observations, pushed]
      · rw [← bytes]
        rfl
      · intro empty
        cases empty

theorem streams_sampleChunk {text : String} (sample : text = "x" ∨ text = "c") (count : Nat) :
    Streams (List.replicate count (sampleChunk text)) .endOfFile (List.replicate count ⟨"message", text⟩) :=
  ⟨.endOfFile, [], observations_sampleChunk sample count, .inl rfl⟩

theorem carries_replicate {text : String} {chunk : Json} (unmarked : text ≠ "[DONE]") (full : isBlank text = false)
    (parsed : ProviderJson.parse text = .ok chunk) (sound : chunk.get? "error" = none) (count : Nat) :
    Carries (List.replicate count ⟨"message", text⟩) (List.replicate count chunk) := by
  induction count with
  | zero => exact .nil
  | succ count ih => exact .chunk unmarked full parsed sound ih

theorem chunkPieces_letters (count : Nat) :
    (List.replicate count (chunkWith (.object [("content", .string "x")]))).flatMap chunkPieces =
      List.replicate count (.content "x") := by
  induction count with
  | zero => rfl
  | succ count ih =>
    rw [List.replicate_succ, List.flatMap_cons, ih]
    rfl

theorem completes_of_summarize {first second : List DependencyProviderEvent}
    (same : summarize first = summarize second) : first.any (·.isCompleted) = second.any (·.isCompleted) := by
  have kept (events : List DependencyProviderEvent) :
      (summarize events).others.any (·.isCompleted) = events.any (·.isCompleted) := by
    rw [summarize, List.any_filter]
    congr 1
    funext event
    cases event <;> rfl
  rw [← kept first, ← kept second, same]

theorem not_completed_of_deltas {events : List DependencyProviderEvent} (deltas : events.all (·.isDelta)) :
    events.any (·.isCompleted) = false := by
  rw [List.any_eq_false]
  intro event inside
  have delta := List.all_eq_true.mp deltas event inside
  cases event <;> first | exact Bool.false_ne_true | cases delta

theorem letters_size (count : Nat) : (letters count).content.utf8ByteSize = count := by
  induction count with
  | zero => rfl
  | succ count ih =>
    have one : "x".utf8ByteSize = 1 := by decide
    rw [letters, List.replicate_succ, String.join_cons, String.utf8ByteSize_append, one]
    rw [letters] at ih
    rw [ih, Nat.add_comm]

/-- Letters beyond the budget of events end their stream without completion. -/
theorem executeStream_letters {count : Nat} (exceeds : count + 1 = maxStreamEvents) :
    (executeStream .openAi (fun _ => none) (List.replicate maxStreamEvents (sampleChunk "x")) .endOfFile).any
      (·.isCompleted) = false := by
  have new : Reached (.new .openAi) [] := ⟨rfl, rfl, rfl⟩
  have carried := carries_replicate (show "x" ≠ "[DONE]" by decide) (by decide) rfl rfl count
  have pushed : (List.replicate count (ChatPiece.content "x")).filter (·.isPushed) =
      List.replicate count (.content "x") := List.filter_replicate_of_pos rfl
  have affordable : Affordable ([] ++ (List.replicate count
      (chunkWith (.object [("content", .string "x")]))).flatMap chunkPieces) := by
    rw [List.nil_append, chunkPieces_letters]
    refine ⟨?_, ?_⟩
    · rw [pushed, List.length_replicate]
      omega
    · rw [(fragments_letters _).content, letters_size]
      have bounded : maxStreamEvents ≤ maxEventDeltasBytes := by decide
      omega
  obtain ⟨reached, took, behind⟩ := new.takeEvents carried affordable
  rw [List.nil_append, chunkPieces_letters] at behind
  obtain ⟨length, -, deltas⟩ := foldl_pushes (List.replicate count (.content "x"))
  have one : reached.takeEvent ⟨"message", "x"⟩ = .returned (reached.events ++ [.textDelta "x"] ++
      [.failed .partialOutputFailure "provider stream exceeded the bounded event budget" .never]) := by
    have handled : reached.normalizer.handle "message" (chunkWith (.object [("content", .string "x")])) =
        (.openAi { ((List.replicate count (ChatPiece.content "x")).foldl takePiece (.new, [])).1 with
          started := true }, [.textDelta "x"]) := by
      rw [behind.normalizer]
      rfl
    have parsed : ProviderJson.parse "x" = .ok (chunkWith (.object [("content", .string "x")])) := rfl
    have sound : (chunkWith (.object [("content", .string "x")])).get? "error" = none := rfl
    rw [LiveExchange.takeEvent, if_neg (by decide), if_neg (by decide), parsed]
    dsimp only
    rw [sound]
    dsimp only
    rw [LiveExchange.takeValue, handled]
    refine if_pos ?_
    rw [LiveExchange.exceedsBudget, Bool.or_eq_true, decide_eq_true_eq]
    left
    dsimp only
    rw [List.length_append, behind.events, List.length_cons, length, pushed, List.length_replicate, List.length_singleton]
    omega
  rw [executeStream, LiveExchange.streamLoop_eq, observations_sampleChunk (.inl rfl), ← exceeds,
    List.replicate_succ', List.map_append,
    List.append_assoc, LiveExchange.observe_events, took]
  dsimp only
  rw [List.map_singleton, List.singleton_append, LiveExchange.observe, one]
  dsimp only
  rw [behind.events, List.any_append, List.any_append, List.any_cons, not_completed_of_deltas deltas]
  rfl

end Sample

end AgentMod
