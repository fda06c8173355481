import AgentMod.Harness.ToolCalls
import AgentMod.Library.Result
import Mathlib.Data.List.Induction

/-! The OpenAI normalizer goes over the pieces of its chunks, and what they leave in it. -/

namespace AgentMod

theorem nonEmpty_some (text : String) :
    (some text).filter (fun text : String => !text.isEmpty) = if text.isEmpty then none else some text := by
  by_cases empty : text.isEmpty <;> simp [Option.filter, empty]

namespace OpenAiStreamNormalizer

/-- A tool call delta is taken as its fragment. -/
theorem handleToolCall_eq (pushing : Pushing) (toolCall : Json) :
    handleToolCall pushing toolCall = takePiece pushing (.toolCall (toolCallPiece toolCall)) := by
  obtain ⟨normalizer, events⟩ := pushing
  have id (buffer : ToolCallBuffer) : takeId toolCall buffer =
      { buffer with callId := ((toolCall.get? "id").bind (·.asStr?)).getD buffer.callId } := by
    rw [takeId]
    cases (toolCall.get? "id").bind (·.asStr?) <;> rfl
  rw [handleToolCall, takePiece]
  dsimp only
  rw [id]
  cases called : toolCall.get? "function" with
  | none => simp [toolCallPiece, Json.pointer?, called, takeFragment]
  | some function =>
    have name (buffer : ToolCallBuffer) : takeName function buffer =
        { buffer with name := buffer.name ++ ((function.get? "name").bind (·.asStr?)).getD "" } := by
      rw [takeName]
      cases (function.get? "name").bind (·.asStr?) <;> simp
    dsimp only
    rw [name, argumentsOf]
    have pointed (key : String) : toolCall.pointer? ["function", key] = function.get? key := by
      simp [Json.pointer?, called]
    cases sent : (function.get? "arguments").bind (·.asStr?) with
    | none => simp [toolCallPiece, pointed, sent, takeFragment]
    | some arguments =>
      rw [nonEmpty_some]
      by_cases empty : arguments.isEmpty
      · have nothing : arguments = "" := String.isEmpty_iff.mp empty
        rw [if_pos empty]
        simp [toolCallPiece, pointed, sent, takeFragment, nothing]
      · rw [if_neg empty]
        simp [toolCallPiece, pointed, sent, takeFragment, empty]

/-- The pieces of a choice are taken one after the other. -/
theorem handleChoice_eq (pushing : Pushing) (choice : Json) :
    handleChoice pushing choice = (choicePieces choice).foldl takePiece pushing := by
  obtain ⟨normalizer, events⟩ := pushing
  have finish : (takeFinishReason choice normalizer, events) =
      (((choice.get? "finish_reason").bind (·.asStr?)).map ChatPiece.finishReason).toList.foldl takePiece
        (normalizer, events) := by
    rw [takeFinishReason]
    cases (choice.get? "finish_reason").bind (·.asStr?) <;> rfl
  have calls (items : List Json) (pushing : Pushing) : items.foldl handleToolCall pushing =
      (items.map (ChatPiece.toolCall ∘ toolCallPiece)).foldl takePiece pushing := by
    rw [List.foldl_map]
    congr 1
    funext pushing toolCall
    exact handleToolCall_eq pushing toolCall
  rw [handleChoice, choicePieces, List.foldl_append, List.foldl_append, ← finish]
  generalize takeFinishReason choice normalizer = reasoned
  cases found : choice.get? "delta" with
  | none => simp [Json.pointer?, found]
  | some delta =>
    have content : takeContent delta (reasoned, events) =
        (((choice.pointer? ["delta", "content"]).bind (·.asStr?)).map ChatPiece.content).toList.foldl takePiece
          (reasoned, events) := by
      have pointed : choice.pointer? ["delta", "content"] = delta.get? "content" := by
        simp [Json.pointer?, found]
      rw [takeContent, pointed]
      cases (delta.get? "content").bind (·.asStr?) with
      | none => rfl
      | some text =>
        rw [nonEmpty_some]
        by_cases empty : text.isEmpty <;> simp [takePiece, empty]
    rw [← content]
    exact calls (toolCallsOf delta) _

theorem handle_eq (normalizer : OpenAiStreamNormalizer) (chunk : Json) :
    normalizer.handle chunk = (chunkPieces chunk).foldl takePiece (normalizer, []) := by
  have usage : (takeUsage chunk normalizer, ([] : List DependencyProviderEvent)) =
      ((chunk.get? "usage").map (ChatPiece.usage ∘ parseUsage)).toList.foldl takePiece (normalizer, []) := by
    rw [takeUsage]
    cases chunk.get? "usage" <;> rfl
  rw [handle, chunkPieces, List.foldl_append, ← usage, List.foldl_flatMap]
  congr 1
  funext pushing choice
  exact handleChoice_eq pushing choice

theorem foldl_takePiece (normalizer : OpenAiStreamNormalizer) (events : List DependencyProviderEvent)
    (pieces : List ChatPiece) : pieces.foldl takePiece (normalizer, events) =
      ((pieces.foldl takePiece (normalizer, [])).1, events ++ (pieces.foldl takePiece (normalizer, [])).2) := by
  have single (pushing : Pushing) (events : List DependencyProviderEvent) (piece : ChatPiece) :
      takePiece (pushing.1, events ++ pushing.2) piece =
        ((takePiece pushing piece).1, events ++ (takePiece pushing piece).2) := by
    cases piece with
    | usage | finishReason => rfl
    | content text => by_cases empty : text.isEmpty <;> simp [takePiece, empty]
    | toolCall piece => by_cases empty : piece.arguments.isEmpty <;> simp [takePiece, empty]
  -- The induction takes the last piece off.
  induction pieces using List.reverseRecOn with
  | nil => simp
  | append_singleton front piece ih =>
    rw [List.foldl_append, List.foldl_append, ih]
    exact single _ _ _

theorem handleAll_eq (pushing : Pushing) (chunks : List Json) :
    handleAll pushing chunks = (chunks.flatMap chunkPieces).foldl takePiece pushing := by
  induction chunks generalizing pushing with
  | nil => rfl
  | cons chunk rest ih =>
    rw [handleAll, List.foldl_cons, List.flatMap_cons, List.foldl_append]
    refine (ih _).trans (congrArg (fun start => (rest.flatMap chunkPieces).foldl takePiece start) ?_)
    exact handle_eq pushing.1 chunk ▸ (foldl_takePiece pushing.1 pushing.2 (chunkPieces chunk)).symm

theorem toolBuffers_takePiece (pushing : Pushing) (piece : ChatPiece) (index : Nat) :
    (takePiece pushing piece).1.toolBuffers[index]? =
      match piece.toolCallAt? index with
      | some fragment => some (takeFragment (pushing.1.toolBuffers[index]?.getD .default) fragment)
      | none => pushing.1.toolBuffers[index]? := by
  cases piece with
  | usage | finishReason => rfl
  | content text => by_cases empty : text.isEmpty <;> simp [takePiece, empty, ChatPiece.toolCallAt?, ChatPiece.toolCall?]
  | toolCall piece =>
    have inserted (buffer : ToolCallBuffer) : (pushing.1.toolBuffers.insert piece.index buffer)[index]? =
        if piece.index = index then some buffer else pushing.1.toolBuffers[index]? := by
      rw [Std.ExtTreeMap.getElem?_insert]
      simp only [Std.LawfulEqCmp.compare_eq_iff_eq]
    have about : (ChatPiece.toolCall piece).toolCallAt? index = if piece.index = index then some piece else none := by
      simp [ChatPiece.toolCallAt?, ChatPiece.toolCall?, Option.filter]
    have either : (takePiece pushing (.toolCall piece)).1.toolBuffers[index]? =
        (pushing.1.toolBuffers.insert piece.index
          (takeFragment (pushing.1.toolBuffers[piece.index]?.getD .default) piece))[index]? := by
      by_cases empty : piece.arguments.isEmpty <;> simp [takePiece, empty]
    rw [either, inserted, about]
    by_cases same : piece.index = index <;> simp [same]

end OpenAiStreamNormalizer

section Buffers

variable {pieces : List ChatPiece} {piece : ChatPiece} {index : Nat}

theorem fragmentsAt_snoc : fragmentsAt index (pieces ++ [piece]) =
    fragmentsAt index pieces ++ (piece.toolCallAt? index).toList := by
  rw [fragmentsAt, List.filterMap_append, fragmentsAt]
  cases found : piece.toolCallAt? index <;> simp [found]

theorem bufferAt_snoc {fragment : ToolCallPiece} (found : piece.toolCallAt? index = some fragment) :
    bufferAt index (pieces ++ [piece]) =
      some (OpenAiStreamNormalizer.takeFragment ((bufferAt index pieces).getD .default) fragment) := by
  rw [bufferAt, fragmentsAt_snoc, found, bufferAt]
  cases fragmentsAt index pieces with
  | nil => rfl
  | cons first rest => simp [List.foldl_append]

theorem bufferAt_snoc_other (none_ : piece.toolCallAt? index = none) :
    bufferAt index (pieces ++ [piece]) = bufferAt index pieces := by
  rw [bufferAt, fragmentsAt_snoc, none_, bufferAt, Option.toList_none, List.append_nil]

theorem toolBuffers_eq (index : Nat) :
    (pieces.foldl OpenAiStreamNormalizer.takePiece (.new, [])).1.toolBuffers[index]? = bufferAt index pieces := by
  induction pieces using List.reverseRecOn with
  | nil => rfl
  | append_singleton front piece ih =>
    rw [List.foldl_append, List.foldl_cons, List.foldl_nil, OpenAiStreamNormalizer.toolBuffers_takePiece, ih]
    cases found : piece.toolCallAt? index with
    | none => rw [bufferAt_snoc_other found]
    | some fragment => rw [bufferAt_snoc found]

end Buffers

end AgentMod
