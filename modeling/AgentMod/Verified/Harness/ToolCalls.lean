import AgentMod.Harness.ToolCalls
import AgentMod.Verified.Harness.ChatPieces
import Std.Data.String.ToNat

/-! The proposals of an exchange belong to their deltas where every call keeps an identity of its own. -/

namespace AgentMod

section Tagged

/-- The entries of an exchange with the places of their calls: every call is proposed at most once and under an
identity of its own, its deltas go by that identity, and its arguments are their fragments. -/
structure Tagged (tagged : List (Nat × CallEntry)) : Prop where
  once : ((tagged.filter (·.2.isProposal)).map Prod.fst).Nodup
  apart : ∀ first ∈ tagged, ∀ second ∈ tagged, first.2.isProposal → second.2.isProposal →
    first.2.callId = second.2.callId → first.1 = second.1
  carries : ∀ item ∈ tagged, item.2.isProposal = false →
    ∃ other ∈ tagged, other.2.isProposal ∧ other.1 = item.1 ∧ other.2.callId = item.2.callId
  arguments : ∀ place callId arguments, (place, .proposal callId arguments) ∈ tagged →
    arguments = argumentsOfFragments ((tagged.filter (·.1 == place)).filterMap (·.2.fragment?))

variable {tagged : List (Nat × CallEntry)}

theorem Tagged.unique (calls : Tagged tagged) {first second : Nat × CallEntry} (one : first ∈ tagged)
    (two : second ∈ tagged) (proposes : first.2.isProposal) (too : second.2.isProposal)
    (same : first.1 = second.1) : first = second :=
  List.inj_on_of_nodup_map calls.once (List.mem_filter.mpr ⟨one, proposes⟩)
    (List.mem_filter.mpr ⟨two, too⟩) same

theorem proposedIds_map : proposedIds (tagged.map Prod.snd) =
    (tagged.filter (·.2.isProposal)).map (·.2.callId) := by
  rw [proposedIds, List.filter_map, List.map_map]
  rfl

theorem Tagged.nodup (calls : Tagged tagged) : (proposedIds (tagged.map Prod.snd)).Nodup := by
  rw [proposedIds_map, List.Nodup, List.pairwise_map]
  refine (List.pairwise_map.mp calls.once).imp_of_mem ?_
  intro first second one two different same
  have one := List.mem_filter.mp one
  have two := List.mem_filter.mp two
  exact different (calls.apart first one.1 second two.1 one.2 two.2 same)

theorem Tagged.identified (calls : Tagged tagged) : CallsIdentified (tagged.map Prod.snd) where
  distinct := calls.nodup
  proposed := by
    intro callId fragment inside
    obtain ⟨⟨place, entry⟩, member, rfl⟩ := List.mem_map.mp inside
    obtain ⟨other, present, proposes, -, same⟩ := calls.carries _ member rfl
    refine List.count_eq_one_of_mem calls.nodup ?_
    rw [proposedIds_map]
    exact List.mem_map.mpr ⟨other, List.mem_filter.mpr ⟨present, proposes⟩, same⟩
  arguments := by
    intro callId arguments inside
    obtain ⟨⟨place, entry⟩, member, rfl⟩ := List.mem_map.mp inside
    rw [calls.arguments place callId arguments member, fragmentsOf, List.filter_map, List.filterMap_map,
      List.filterMap_filter, List.filterMap_filter]
    -- A delta has the identity of the proposal exactly where it is about the same call.
    refine congrArg argumentsOfFragments (List.filterMap_congr fun item present => ?_)
    obtain ⟨tag, entry⟩ := item
    cases entry with
    | delta sent fragment =>
      obtain ⟨other, found, proposes, shared, same⟩ := calls.carries _ present rfl
      have about : tag = place ↔ sent = callId := by
        constructor
        · intro here
          exact same.symm.trans (congrArg (·.2.callId) (calls.unique found member proposes rfl (shared.trans here)))
        · intro here
          exact shared.symm.trans (calls.apart _ found _ member proposes rfl (same.trans here))
      simp [CallEntry.callId, CallEntry.fragment?, about]
    | proposal => simp [CallEntry.fragment?]

end Tagged

section Fragments

/-- The fragments of the deltas of a call. -/
abbrev fragmentsAtPlace (place : Nat) (tagged : List (Nat × CallEntry)) : List String :=
  (tagged.filter (·.1 == place)).filterMap (·.2.fragment?)

theorem fragmentsAtPlace_append {place : Nat} {front back : List (Nat × CallEntry)} :
    fragmentsAtPlace place (front ++ back) = fragmentsAtPlace place front ++ fragmentsAtPlace place back := by
  rw [fragmentsAtPlace, List.filter_append, List.filterMap_append]

@[simp] theorem fragment?_delta {callId fragment : String} :
    CallEntry.fragment? (.delta callId fragment) = some fragment := rfl

@[simp] theorem fragment?_proposal {callId arguments : String} :
    CallEntry.fragment? (.proposal callId arguments) = none := rfl

@[simp] theorem join_delta {place index : Nat} {callId fragment : String} :
    String.join (fragmentsAtPlace index [(place, .delta callId fragment)]) =
      if place = index then fragment else "" := by
  by_cases about : place = index <;> simp [fragmentsAtPlace, about]

@[simp] theorem join_proposal {place index : Nat} {callId arguments : String} :
    String.join (fragmentsAtPlace index [(place, .proposal callId arguments)]) = "" := by
  by_cases about : place = index <;> simp [fragmentsAtPlace, about, List.filterMap_cons]

theorem argumentsOfFragments_join {fragments : List String} (full : ∀ fragment ∈ fragments, fragment ≠ "") :
    argumentsOfFragments fragments =
      if (String.join fragments).isEmpty then "{}" else String.join fragments := by
  cases fragments with
  | nil => simp [argumentsOfFragments]
  | cons first rest =>
    have some_ : (String.join (first :: rest)).isEmpty = false := by
      rw [String.join_cons, Bool.eq_false_iff]
      intro empty
      rw [String.isEmpty_iff, String.append_eq_empty_iff] at empty
      exact full first List.mem_cons_self empty.1
    rw [some_]
    rfl

theorem join_ne_empty {fragments : List String} {fragment : String} (inside : fragment ∈ fragments)
    (full : fragment ≠ "") : String.join fragments ≠ "" := by
  obtain ⟨front, back, rfl⟩ := List.append_of_mem inside
  rw [String.join_append, String.join_cons]
  intro empty
  rw [String.append_eq_empty_iff, String.append_eq_empty_iff] at empty
  exact full empty.2.1

end Fragments

section OpenAi

open OpenAiStreamNormalizer

/-- The deltas of pieces with the indices of their calls. -/
structure DeltasOf (pieces : List ChatPiece) (tagged : List (Nat × CallEntry)) : Prop where
  entries : callEntries (pieces.foldl takePiece (.new, [])).2 = tagged.map Prod.snd
  sent : ∀ item ∈ tagged, ∃ front piece back, pieces = front ++ .toolCall piece :: back ∧
    piece.arguments.isEmpty = false ∧
    item = (piece.index, .delta (identityAt piece.index (front ++ [.toolCall piece])) piece.arguments)
  joined : ∀ index, String.join (fragmentsAtPlace index tagged) =
    ((bufferAt index pieces).getD .default).arguments

theorem bufferAt_toolCall {front : List ChatPiece} {piece : ToolCallPiece} :
    (bufferAt piece.index (front ++ [.toolCall piece])).getD .default =
      takeFragment ((bufferAt piece.index front).getD .default) piece := by
  have about : (ChatPiece.toolCall piece).toolCallAt? piece.index = some piece := by
    simp [ChatPiece.toolCallAt?, ChatPiece.toolCall?, Option.filter]
  rw [bufferAt_snoc about]
  rfl

theorem arguments_snoc {front : List ChatPiece} {piece : ChatPiece} {index : Nat}
    (none_ : ∀ fragment, piece.toolCallAt? index = some fragment → fragment.arguments = "") :
    ((bufferAt index (front ++ [piece])).getD .default).arguments =
      ((bufferAt index front).getD .default).arguments := by
  cases found : piece.toolCallAt? index with
  | none => rw [bufferAt_snoc_other found]
  | some fragment =>
    rw [bufferAt_snoc found]
    simp [takeFragment, none_ fragment found]

theorem DeltasOf.quiet {front : List ChatPiece} {tagged : List (Nat × CallEntry)} (deltas : DeltasOf front tagged)
    {piece : ChatPiece} (none_ : ∀ index fragment, piece.toolCallAt? index = some fragment → fragment.arguments = "")
    (entries : callEntries (takePiece (front.foldl takePiece (.new, [])) piece).2 =
      callEntries (front.foldl takePiece (.new, [])).2) : DeltasOf (front ++ [piece]) tagged where
  entries := by
    rw [List.foldl_append]
    exact entries.trans deltas.entries
  sent := by
    intro item inside
    obtain ⟨before, sent, back, rfl, full, rfl⟩ := deltas.sent item inside
    exact ⟨before, sent, back ++ [piece], by simp, full, rfl⟩
  joined := by
    intro index
    rw [arguments_snoc (none_ index)]
    exact deltas.joined index

/-- Pieces send their deltas one after the other. -/
theorem exists_deltasOf (pieces : List ChatPiece) : ∃ tagged, DeltasOf pieces tagged := by
  induction pieces using List.reverseRecOn with
  | nil => exact ⟨[], rfl, nofun, fun _ => rfl⟩
  | append_singleton front piece ih =>
    obtain ⟨tagged, deltas⟩ := ih
    cases piece with
    | usage usage => exact ⟨tagged, deltas.quiet nofun rfl⟩
    | finishReason reason => exact ⟨tagged, deltas.quiet nofun rfl⟩
    | content text =>
      refine ⟨tagged, deltas.quiet nofun ?_⟩
      by_cases empty : text.isEmpty <;>
        simp [takePiece, empty, callEntries, DependencyProviderEvent.callEntryOf]
    | toolCall piece =>
      by_cases empty : piece.arguments.isEmpty
      · refine ⟨tagged, deltas.quiet ?_ ?_⟩
        · intro index fragment found
          simp only [ChatPiece.toolCallAt?, ChatPiece.toolCall?, Option.filter_eq_some_iff, Option.some.injEq] at found
          rw [← found.1]
          exact String.isEmpty_iff.mp empty
        · simp [takePiece, empty]
      · have buffer : takeFragment ((front.foldl takePiece (.new, [])).1.toolBuffers[piece.index]?.getD .default) piece =
            (bufferAt piece.index (front ++ [.toolCall piece])).getD .default := by
          rw [toolBuffers_eq, bufferAt_toolCall]
        refine ⟨tagged ++ [(piece.index, .delta (identityAt piece.index (front ++ [.toolCall piece])) piece.arguments)],
          ?_, ?_, ?_⟩
        · rw [List.foldl_append, List.foldl_cons, List.foldl_nil, takePiece, buffer, if_neg empty]
          simp only [callEntries, List.filterMap_append, List.map_append]
          rw [← callEntries, deltas.entries]
          rfl
        · intro item inside
          rcases List.mem_append.mp inside with inside | inside
          · obtain ⟨before, sent, back, rfl, full, rfl⟩ := deltas.sent item inside
            exact ⟨before, sent, back ++ [.toolCall piece], by simp, full, rfl⟩
          · exact ⟨front, piece, [], rfl, Bool.eq_false_iff.mpr empty, List.mem_singleton.mp inside⟩
        · intro index
          rw [fragmentsAtPlace_append, String.join_append, deltas.joined]
          by_cases about : piece.index = index
          · subst about
            rw [bufferAt_toolCall]
            simp [takeFragment]
          · rw [bufferAt_snoc_other (by simp [ChatPiece.toolCallAt?, ChatPiece.toolCall?, Option.filter, about])]
            simp [about]

/-- The proposal of a buffer. -/
def proposalOf (item : Nat × ToolCallBuffer) : Nat × CallEntry :=
  (item.1, .proposal (item.2.identity 0) item.2.argumentsJson)

/-- The proposals of a normalizer with the indices of their calls. -/
def proposalsOf (normalizer : OpenAiStreamNormalizer) : List (Nat × CallEntry) :=
  (normalizer.toolBuffers.toList.filter (·.2.isUsed)).map proposalOf

theorem callEntries_finish [ProviderJson] {normalizer : OpenAiStreamNormalizer}
    {proposals : List DependencyProviderEvent}
    (finished : (StreamNormalizer.openAi normalizer).finishOpenAiTools = .ok proposals) :
    callEntries proposals = (proposalsOf normalizer).map Prod.snd := by
  simp only [StreamNormalizer.finishOpenAiTools, OpenAiStreamNormalizer.finish, bind_eq_ok, pure_eq_ok] at finished
  obtain ⟨calls, ⟨-, -, rfl⟩, rfl⟩ := finished
  rw [callEntries, finalToolCalls, List.filter_map, List.map_map, List.map_map, List.filterMap_map, proposalsOf,
    List.map_map]
  exact congrFun (List.filterMap_eq_map (f := Prod.snd ∘ proposalOf)) _

theorem mem_proposalsOf {pieces : List ChatPiece} {item : Nat × CallEntry} :
    item ∈ proposalsOf (pieces.foldl takePiece (.new, [])).1 ↔
      ∃ index buffer, bufferAt index pieces = some buffer ∧ buffer.isUsed ∧ proposalOf (index, buffer) = item := by
  simp only [proposalsOf, List.mem_map, List.mem_filter, Prod.exists, Std.ExtTreeMap.mem_toList_iff_getElem?_eq_some,
    toolBuffers_eq, and_assoc]

variable {pieces : List ChatPiece} {tagged : List (Nat × CallEntry)}

theorem DeltasOf.not_proposal (deltas : DeltasOf pieces tagged) {item : Nat × CallEntry} (inside : item ∈ tagged) :
    item.2.isProposal = false := by
  obtain ⟨front, piece, back, -, -, rfl⟩ := deltas.sent item inside
  rfl

theorem proposalsOf_isProposal {item : Nat × CallEntry}
    (inside : item ∈ proposalsOf (pieces.foldl takePiece (.new, [])).1) : item.2.isProposal := by
  obtain ⟨index, buffer, -, -, rfl⟩ := mem_proposalsOf.mp inside
  rfl

theorem DeltasOf.full (deltas : DeltasOf pieces tagged) {place : Nat} {fragment : String}
    (inside : fragment ∈ fragmentsAtPlace place tagged) : fragment ≠ "" := by
  obtain ⟨item, member, found⟩ := List.mem_filterMap.mp inside
  obtain ⟨front, piece, back, -, full, rfl⟩ := deltas.sent item (List.mem_filter.mp member).1
  cases found
  exact fun empty => Bool.eq_false_iff.mp full (String.isEmpty_iff.mpr empty)

theorem DeltasOf.exists_buffer (deltas : DeltasOf pieces tagged) {item : Nat × CallEntry} (inside : item ∈ tagged) :
    ∃ buffer, bufferAt item.1 pieces = some buffer ∧ buffer.isUsed := by
  obtain ⟨front, piece, back, split, full, rfl⟩ := deltas.sent item inside
  have member : piece.arguments ∈ fragmentsAtPlace piece.index tagged :=
    List.mem_filterMap.mpr ⟨_, List.mem_filter.mpr ⟨inside, beq_self_eq_true _⟩, rfl⟩
  have some_ := join_ne_empty member (deltas.full member)
  rw [deltas.joined] at some_
  cases found : bufferAt piece.index pieces with
  | none =>
    rw [found] at some_
    exact absurd rfl some_
  | some buffer =>
    rw [found] at some_
    refine ⟨buffer, rfl, ?_⟩
    rw [ToolCallBuffer.isUsed, Bool.or_eq_true, Bool.not_eq_true', Bool.not_eq_true']
    exact .inr (Bool.eq_false_iff.mpr fun empty => some_ (String.isEmpty_iff.mp empty))

theorem DeltasOf.fragments (place : Nat) (proposals : List (Nat × CallEntry))
    (propose : ∀ item ∈ proposals, item.2.isProposal) :
    fragmentsAtPlace place (tagged ++ proposals) = fragmentsAtPlace place tagged := by
  rw [fragmentsAtPlace_append]
  refine (congrArg (_ ++ ·) (List.filterMap_eq_nil_iff.mpr fun item inside => ?_)).trans (List.append_nil _)
  have proposes := propose item (List.mem_filter.mp inside).1
  obtain ⟨tag, delta | proposal⟩ := item
  · cases proposes
  · rfl

/-- Pieces that identify their calls identify them in their events. -/
theorem OpenAiIdentified.taggedCalls (identified : OpenAiIdentified pieces) (deltas : DeltasOf pieces tagged) :
    Tagged (tagged ++ proposalsOf (pieces.foldl takePiece (.new, [])).1) where
  once := by
    have deltasOnly : tagged.filter (·.2.isProposal) = [] :=
      List.filter_eq_nil_iff.mpr fun item inside => by simp [deltas.not_proposal inside]
    rw [List.filter_append, deltasOnly, List.nil_append,
      List.filter_eq_self.mpr fun item inside => proposalsOf_isProposal inside, proposalsOf, List.map_map]
    refine List.Nodup.sublist (List.filter_sublist.map _) ?_
    rw [List.Nodup, List.pairwise_map]
    refine Std.ExtTreeMap.distinct_keys_toList.imp ?_
    intro first second different same
    exact different (Std.LawfulEqCmp.compare_eq_iff_eq.mpr same)
  apart := by
    intro first one second two proposes too same
    have final (item : Nat × CallEntry) (inside : item ∈ tagged ++ proposalsOf (pieces.foldl takePiece (.new, [])).1)
        (proposes : item.2.isProposal) : item ∈ proposalsOf (pieces.foldl takePiece (.new, [])).1 := by
      refine (List.mem_append.mp inside).resolve_left fun inside => ?_
      rw [deltas.not_proposal inside] at proposes
      cases proposes
    obtain ⟨index, buffer, found, used, rfl⟩ := mem_proposalsOf.mp (final first one proposes)
    obtain ⟨place, other, present, usedToo, rfl⟩ := mem_proposalsOf.mp (final second two too)
    refine identified.distinct index place buffer other found present used usedToo ?_
    rw [finalIdentity, finalIdentity, found, present]
    exact same
  carries := by
    intro item inside delta
    rcases List.mem_append.mp inside with inside | inside
    · obtain ⟨buffer, found, used⟩ := deltas.exists_buffer inside
      refine ⟨_, List.mem_append_right _ (mem_proposalsOf.mpr ⟨item.1, buffer, found, used, rfl⟩), rfl, rfl, ?_⟩
      obtain ⟨front, piece, back, split, full, rfl⟩ := deltas.sent item inside
      have stable := identified.stable front piece back split full
      rw [finalIdentity, found] at stable
      exact stable.symm
    · rw [proposalsOf_isProposal inside] at delta
      cases delta
  arguments := by
    intro place callId arguments inside
    rcases List.mem_append.mp inside with inside | inside
    · cases deltas.not_proposal inside
    · obtain ⟨index, buffer, found, used, same⟩ := mem_proposalsOf.mp inside
      cases same
      have joined := deltas.joined index
      rw [found, Option.getD_some] at joined
      refine Eq.trans ?_ (congrArg argumentsOfFragments
        (DeltasOf.fragments index _ fun item inside => proposalsOf_isProposal inside).symm)
      rw [argumentsOfFragments_join fun fragment => deltas.full, joined]
      rfl

theorem OpenAiIdentified.identified [ProviderJson] {chunks : List Json} {events : List DependencyProviderEvent}
    (identified : OpenAiIdentified (chunks.flatMap chunkPieces)) (exchange : openAiExchange chunks = .ok events) :
    CallsIdentified (callEntries events) := by
  obtain ⟨tagged, deltas⟩ := exists_deltasOf (chunks.flatMap chunkPieces)
  simp only [openAiExchange, handleAll_eq, bind_eq_ok, pure_eq_ok] at exchange
  obtain ⟨proposals, finished, rfl⟩ := exchange
  have entries := deltas.entries
  rw [callEntries] at entries ⊢
  rw [List.filterMap_append, entries, ← callEntries, callEntries_finish finished, ← List.map_append]
  exact (identified.taggedCalls deltas).identified

end OpenAi

section Anthropic

open AnthropicStreamNormalizer

variable {front pieces : List BlockPiece} {piece : BlockPiece} {index : Nat}

theorem blockAt_snoc : blockAt index (front ++ [piece]) =
    if piece.index = index then takeBlock (blockAt index front) piece else blockAt index front := by
  rw [blockAt, List.filter_append, List.foldl_append, blockAt]
  by_cases about : piece.index = index <;> simp [about]

theorem arguments_blockAt_snoc : (blockAt index (front ++ [piece])).arguments =
    (blockAt index front).arguments ++ match piece with
      | .delta place fragment => if place = index then fragment else ""
      | _ => "" := by
  rw [blockAt_snoc]
  cases piece with
  | start place id name => by_cases about : place = index <;> simp [BlockPiece.index, takeBlock, about]
  | delta place fragment => by_cases about : place = index <;> simp [BlockPiece.index, takeBlock, about]
  | stop place => by_cases about : place = index <;> simp [BlockPiece.index, takeBlock, about]

/-- What a piece of a block adds to the entries of an exchange. -/
def blockEntryOf (front : List BlockPiece) : BlockPiece → Option (Nat × CallEntry)
  | .start .. => none
  | .delta index fragment =>
    some (index, .delta ((blockAt index (front ++ [.delta index fragment])).identity index) fragment)
  | .stop index =>
    if (blockAt index front).isUsed then
      some (index, .proposal ((blockAt index front).identity index) (blockAt index front).argumentsJson)
    else none

/-- The entries that the pieces of blocks add behind others. -/
def blockEntries (front : List BlockPiece) : List BlockPiece → List (Nat × CallEntry)
  | [] => []
  | piece :: rest => (blockEntryOf front piece).toList ++ blockEntries (front ++ [piece]) rest

theorem blockEntries_nil : blockEntries front [] = [] := rfl

theorem blockEntries_cons : blockEntries front (piece :: pieces) =
    (blockEntryOf front piece).toList ++ blockEntries (front ++ [piece]) pieces := rfl

theorem mem_blockEntries {item : Nat × CallEntry} : item ∈ blockEntries front pieces ↔
    ∃ before piece after, pieces = before ++ piece :: after ∧ blockEntryOf (front ++ before) piece = some item := by
  induction pieces generalizing front with
  | nil => simp [blockEntries_nil]
  | cons piece rest ih =>
    rw [blockEntries_cons, List.mem_append, Option.mem_toList, ih]
    constructor
    · rintro (found | ⟨before, other, after, rfl, found⟩)
      · exact ⟨[], piece, rest, rfl, by rwa [List.append_nil]⟩
      · exact ⟨piece :: before, other, after, rfl, by rwa [List.append_cons]⟩
    · rintro ⟨before, other, after, split, found⟩
      cases before with
      | nil =>
        cases split
        exact .inl (by rwa [List.append_nil] at found)
      | cons first before =>
        cases split
        exact .inr ⟨before, other, after, rfl, by rwa [List.append_cons] at found⟩

theorem pairwise_blockEntries {related : Nat × CallEntry → Nat × CallEntry → Prop}
    (apart : ∀ before piece between other after, pieces = before ++ piece :: between ++ other :: after →
      ∀ first, blockEntryOf (front ++ before) piece = some first →
      ∀ second, blockEntryOf (front ++ (before ++ piece :: between)) other = some second → related first second) :
    (blockEntries front pieces).Pairwise related := by
  induction pieces generalizing front with
  | nil => exact .nil
  | cons piece rest ih =>
    rw [blockEntries_cons, List.pairwise_append]
    refine ⟨?_, ih ?_, ?_⟩
    · cases blockEntryOf front piece <;> simp
    · intro before earlier between later after split first one second two
      refine apart (piece :: before) earlier between later after (by rw [split]; rfl) first ?_ second ?_
      · rwa [List.append_cons]
      · rwa [List.append_assoc, List.singleton_append] at two
    · intro first one second two
      obtain ⟨before, later, after, rfl, found⟩ := mem_blockEntries.mp two
      refine apart [] piece before later after rfl first ?_ second ?_
      · rw [List.append_nil]
        exact Option.mem_toList.mp one
      · rwa [List.append_assoc, List.singleton_append] at found

theorem arguments_blockEntries : (blockAt index (front ++ pieces)).arguments =
    (blockAt index front).arguments ++ String.join (fragmentsAtPlace index (blockEntries front pieces)) := by
  induction pieces generalizing front with
  | nil => simp [blockEntries_nil, fragmentsAtPlace]
  | cons piece rest ih =>
    rw [List.append_cons, ih, arguments_blockAt_snoc, blockEntries_cons, fragmentsAtPlace_append, String.join_append,
      ← String.append_assoc]
    congr 2
    cases piece with
    | start => rfl
    | delta place fragment => exact join_delta.symm
    | stop place =>
      rw [blockEntryOf]
      by_cases used : (blockAt place front).isUsed
      · rw [if_pos used]
        exact join_proposal.symm
      · rw [if_neg used]
        rfl

theorem blockEntryOf_stop {place : Nat} (proposes : Proposes front place) :
    blockEntryOf front (.stop place) =
      some (place, .proposal ((blockAt place front).identity place) (blockAt place front).argumentsJson) :=
  if_pos proposes

theorem proposal_of_blockEntryOf {item : Nat × CallEntry} (found : blockEntryOf front piece = some item)
    (proposes : item.2.isProposal) : ∃ place, piece = .stop place ∧ Proposes front place ∧
      item = (place, .proposal ((blockAt place front).identity place) (blockAt place front).argumentsJson) := by
  cases piece with
  | start => cases found
  | delta place fragment =>
    cases found
    cases proposes
  | stop place =>
    rw [blockEntryOf] at found
    split at found
    next used =>
      cases found
      exact ⟨place, rfl, used, rfl⟩
    next => cases found

theorem delta_of_blockEntryOf {item : Nat × CallEntry} (found : blockEntryOf front piece = some item)
    (delta : item.2.isProposal = false) : ∃ place fragment, piece = .delta place fragment ∧
      item = (place, .delta ((blockAt place (front ++ [.delta place fragment])).identity place) fragment) := by
  cases piece with
  | start => cases found
  | delta place fragment =>
    cases found
    exact ⟨place, fragment, rfl, rfl⟩
  | stop place =>
    rw [blockEntryOf] at found
    split at found
    next =>
      cases found
      cases delta
    next => cases found

theorem proposes_of_delta {place : Nat} {fragment : String} {between : List BlockPiece} (full : fragment ≠ "") :
    Proposes (front ++ .delta place fragment :: between) place := by
  have some_ : (blockAt place (front ++ .delta place fragment :: between)).arguments ≠ "" := by
    rw [List.append_cons, arguments_blockEntries, arguments_blockAt_snoc]
    dsimp only
    rw [if_pos rfl]
    intro empty
    rw [String.append_eq_empty_iff, String.append_eq_empty_iff] at empty
    exact full empty.1.2
  rw [Proposes, ToolCallBuffer.isUsed, Bool.or_eq_true, Bool.not_eq_true', Bool.not_eq_true']
  exact .inr (Bool.eq_false_iff.mpr fun empty => some_ (String.isEmpty_iff.mp empty))

theorem AnthropicIdentified.stops (identified : AnthropicIdentified pieces) {before after between back : List BlockPiece}
    {first second : Nat} (one : pieces = before ++ .stop first :: after) (two : pieces = between ++ .stop second :: back)
    (proposes : Proposes before first) (too : Proposes between second)
    (same : first = second ∨ (blockAt first before).identity first = (blockAt second between).identity second) :
    before = between ∧ first = second := by
  rcases List.append_eq_append_iff.mp (one.symm.trans two) with ⟨middle, rfl, split⟩ | ⟨middle, rfl, split⟩
  · cases middle with
    | nil =>
      cases split
      exact ⟨(List.append_nil _).symm, rfl⟩
    | cons piece middle =>
      cases split
      have apart := identified.distinct before first middle second back (by rw [two, List.append_assoc]) proposes too
      exact (same.elim apart.1 apart.2).elim
  · cases middle with
    | nil =>
      cases split
      exact ⟨List.append_nil _, rfl⟩
    | cons piece middle =>
      cases split
      have apart := identified.distinct between second middle first after (by rw [one, List.append_assoc]) too proposes
      exact (same.elim (fun same => apart.1 same.symm) fun same => apart.2 same.symm).elim

theorem arguments_unchanged {back : List BlockPiece} (none_ : ∀ fragment, .delta index fragment ∉ back) :
    (blockAt index (front ++ back)).arguments = (blockAt index front).arguments := by
  induction back generalizing front with
  | nil => rw [List.append_nil]
  | cons piece rest ih =>
    rw [List.append_cons, ih fun fragment inside => none_ fragment (List.mem_cons_of_mem _ inside),
      arguments_blockAt_snoc]
    cases piece with
    | start | stop => exact String.append_empty
    | delta other fragment =>
      have different : other ≠ index := fun same => none_ fragment (same ▸ List.mem_cons_self)
      dsimp only
      rw [if_neg different, String.append_empty]

/-- The fragments of pieces are not empty. -/
abbrev FullFragments (pieces : List BlockPiece) : Prop :=
  ∀ place fragment, .delta place fragment ∈ pieces → fragment ≠ ""

theorem AnthropicIdentified.over (identified : AnthropicIdentified pieces) (full : FullFragments pieces)
    {before after : List BlockPiece} (split : pieces = before ++ .stop index :: after)
    (proposes : Proposes before index) : (blockAt index pieces).arguments = (blockAt index before).arguments := by
  have settled : (blockAt index (before ++ [.stop index])).arguments = (blockAt index before).arguments := by
    rw [arguments_blockAt_snoc, String.append_empty]
  rw [split, List.append_cons, arguments_unchanged, settled]
  intro fragment late
  obtain ⟨between, rest, rfl⟩ := List.append_of_mem late
  have again : pieces = (before ++ .stop index :: between) ++ .delta index fragment :: rest := by
    rw [split, List.append_assoc, List.cons_append]
  have some_ : fragment ≠ "" := full index fragment (by rw [again]; exact List.mem_append_right _ List.mem_cons_self)
  obtain ⟨gap, behind, rfl, -⟩ := identified.stopped _ index fragment rest again
  have later : pieces =
      (before ++ .stop index :: between ++ .delta index fragment :: gap) ++ .stop index :: behind := by
    rw [again]
    simp
  have same := identified.stops split later proposes (proposes_of_delta some_) (.inl rfl)
  have lengths := congrArg List.length same.1
  simp only [List.length_append, List.length_cons] at lengths
  omega

theorem FullFragments.entries (full : FullFragments pieces) {place : Nat} {fragment : String}
    (inside : fragment ∈ fragmentsAtPlace place (blockEntries [] pieces)) : fragment ≠ "" := by
  obtain ⟨item, member, sent⟩ := List.mem_filterMap.mp inside
  obtain ⟨before, piece, after, rfl, found⟩ := mem_blockEntries.mp (List.mem_filter.mp member).1
  cases delta : item.2.isProposal with
  | true =>
    obtain ⟨index, -, -, rfl⟩ := proposal_of_blockEntryOf found delta
    cases sent
  | false =>
    obtain ⟨index, text, rfl, rfl⟩ := delta_of_blockEntryOf found delta
    cases sent
    exact full index fragment (List.mem_append_right _ List.mem_cons_self)

/-- Pieces that identify their blocks identify them in their entries. -/
theorem AnthropicIdentified.taggedBlocks (identified : AnthropicIdentified pieces) (full : FullFragments pieces) :
    Tagged (blockEntries [] pieces) where
  once := by
    have apart : (blockEntries [] pieces).Pairwise
        fun first second => first.2.isProposal → second.2.isProposal → first.1 ≠ second.1 := by
      refine pairwise_blockEntries ?_
      intro before piece between other after split first one second two proposes too
      rw [List.nil_append] at one two
      obtain ⟨place, rfl, used, rfl⟩ := proposal_of_blockEntryOf one proposes
      obtain ⟨index, rfl, usedToo, rfl⟩ := proposal_of_blockEntryOf two too
      exact (identified.distinct before place between index after split used usedToo).1
    rw [List.Nodup, List.pairwise_map]
    refine (apart.filter _).imp_of_mem fun one two different => ?_
    exact different (List.mem_filter.mp one).2 (List.mem_filter.mp two).2
  apart := by
    intro first one second two proposes too same
    obtain ⟨before, piece, after, split, found⟩ := mem_blockEntries.mp one
    obtain ⟨between, other, back, splitToo, foundToo⟩ := mem_blockEntries.mp two
    rw [List.nil_append] at found foundToo
    obtain ⟨place, rfl, used, rfl⟩ := proposal_of_blockEntryOf found proposes
    obtain ⟨index, rfl, usedToo, rfl⟩ := proposal_of_blockEntryOf foundToo too
    exact (identified.stops split splitToo used usedToo (.inr same)).2
  carries := by
    intro item inside delta
    obtain ⟨before, piece, after, split, found⟩ := mem_blockEntries.mp inside
    rw [List.nil_append] at found
    obtain ⟨place, fragment, rfl, rfl⟩ := delta_of_blockEntryOf found delta
    have some_ : fragment ≠ "" := full place fragment (by rw [split]; exact List.mem_append_right _ List.mem_cons_self)
    obtain ⟨between, behind, rfl, same⟩ := identified.stopped before place fragment after split
    refine ⟨_, mem_blockEntries.mpr ⟨before ++ .delta place fragment :: between, .stop place, behind, ?_,
      blockEntryOf_stop (proposes_of_delta some_)⟩, rfl, rfl, same⟩
    rw [split, List.append_assoc, List.cons_append]
  arguments := by
    intro place callId arguments inside
    obtain ⟨before, piece, after, split, found⟩ := mem_blockEntries.mp inside
    rw [List.nil_append] at found
    obtain ⟨index, rfl, used, same⟩ := proposal_of_blockEntryOf found rfl
    cases same
    have joined := @arguments_blockEntries [] pieces place
    rw [List.nil_append, identified.over full split used] at joined
    rw [argumentsOfFragments_join fun fragment => full.entries, ToolCallBuffer.argumentsJson, joined]
    simp [blockAt, ToolCallBuffer.default]

/-- The normalizer keeps the buffers of the blocks of some pieces. -/
def Keeps (normalizer : AnthropicStreamNormalizer) (pieces : List BlockPiece) : Prop :=
  ∀ index, normalizer.toolBlocks[index]?.getD .default = blockAt index pieces

theorem Keeps.insert {normalizer : AnthropicStreamNormalizer} (keeps : Keeps normalizer front)
    {next : AnthropicStreamNormalizer} (inserted : next.toolBlocks =
      normalizer.toolBlocks.insert piece.index (takeBlock (blockAt piece.index front) piece)) :
    Keeps next (front ++ [piece]) := by
  intro index
  rw [inserted, Std.ExtTreeMap.getElem?_insert, blockAt_snoc]
  simp only [Std.LawfulEqCmp.compare_eq_iff_eq]
  by_cases about : piece.index = index
  · subst about
    rw [if_pos rfl, if_pos rfl]
    rfl
  · rw [if_neg about, if_neg about]
    exact keeps index

/-- What an event with a piece of a block does: it keeps the buffers and adds the entry of the piece. -/
structure Handles (front : List BlockPiece) (piece : Option BlockPiece)
    (handled : AnthropicStreamNormalizer × List DependencyProviderEvent) : Prop where
  keeps : Keeps handled.1 (front ++ piece.toList)
  entries : callEntries handled.2 = (piece.bind (blockEntryOf front)).toList.map Prod.snd

theorem Keeps.idle {normalizer next : AnthropicStreamNormalizer} (keeps : Keeps normalizer front)
    (same : next.toolBlocks = normalizer.toolBlocks) : Handles front none (next, []) where
  keeps := by
    intro index
    rw [Option.toList_none, List.append_nil, same]
    exact keeps index
  entries := rfl

theorem blockPiece?_start (payload : Json) : blockPiece? ("content_block_start", payload) =
    (do
      let block ← payload.get? "content_block"
      guard ((block.get? "type").bind (·.asStr?) = some "tool_use")
      return .start payload.index ((block.get? "id").bind (·.asStr?)) ((block.get? "name").bind (·.asStr?))) := rfl

theorem blockPiece?_delta (payload : Json) : blockPiece? ("content_block_delta", payload) =
    (do
      let delta ← payload.get? "delta"
      guard ((delta.get? "type").bind (·.asStr?) = some "input_json_delta")
      let fragment ← ((delta.get? "partial_json").bind (·.asStr?)).filter (!·.isEmpty)
      return .delta payload.index fragment) := rfl

theorem blockPiece?_stop (payload : Json) :
    blockPiece? ("content_block_stop", payload) = some (.stop payload.index) := rfl

theorem Keeps.start {normalizer : AnthropicStreamNormalizer} (keeps : Keeps normalizer front) (payload : Json) :
    Handles front (blockPiece? ("content_block_start", payload)) (normalizer.contentBlockStart payload, []) := by
  simp only [blockPiece?_start, contentBlockStart]
  cases found : payload.get? "content_block" with
  | none => exact keeps.idle rfl
  | some block =>
    by_cases tool : (block.get? "type").bind (·.asStr?) = some "tool_use"
    · simp only [tool, if_true, guard_true, Option.bind_eq_bind, Option.bind_some, Option.pure_def]
      refine ⟨keeps.insert ?_, rfl⟩
      rw [BlockPiece.index, ← keeps payload.index]
      rfl
    · simp only [tool, if_false, guard_false, Option.bind_eq_bind, Option.bind_some]
      exact keeps.idle rfl

theorem Keeps.delta {normalizer : AnthropicStreamNormalizer} (keeps : Keeps normalizer front) (payload : Json) :
    Handles front (blockPiece? ("content_block_delta", payload)) (normalizer.contentBlockDelta payload) := by
  simp only [blockPiece?_delta, contentBlockDelta]
  cases found : payload.get? "delta" with
  | none => exact keeps.idle rfl
  | some delta =>
    simp only [Option.bind_eq_bind, Option.bind_some]
    split
    next text =>
      -- A text delta is about no tool block.
      simp only [text, Option.some.injEq, String.reduceEq, guard_false]
      split
      · exact ⟨(keeps.idle rfl).keeps, rfl⟩
      · exact keeps.idle rfl
    next json =>
      simp only [json, guard_true]
      cases ((delta.get? "partial_json").bind (·.asStr?)).filter (!·.isEmpty) with
      | none => exact keeps.idle rfl
      | some fragment =>
        have buffer := keeps payload.index
        refine ⟨keeps.insert ?_, ?_⟩
        · rw [BlockPiece.index, ← buffer]
          rfl
        · rw [buffer]
          simp [blockEntryOf, blockAt_snoc, BlockPiece.index, takeBlock, callEntries,
            DependencyProviderEvent.callEntryOf]
    next other =>
      simp only [eq_false fun json => other json, guard_false]
      exact keeps.idle rfl

theorem Keeps.stop {normalizer : AnthropicStreamNormalizer} (keeps : Keeps normalizer front) (payload : Json) :
    Handles front (blockPiece? ("content_block_stop", payload)) (normalizer, normalizer.contentBlockStop payload) where
  keeps := by
    intro index
    rw [keeps index]
    simp [blockPiece?_stop, blockAt_snoc, takeBlock]
  entries := by
    have buffer := keeps payload.index
    rw [blockPiece?_stop, Option.bind_some, blockEntryOf, ← buffer, contentBlockStop]
    cases normalizer.toolBlocks[payload.index]? with
    | none => rfl
    | some found =>
      rw [Option.getD_some]
      dsimp only
      by_cases used : found.isUsed
      · rw [if_pos used, if_pos used]
        rfl
      · rw [if_neg used, if_neg used]
        rfl

theorem Keeps.handle {normalizer : AnthropicStreamNormalizer} (keeps : Keeps normalizer front)
    (payload : String × Json) :
    Handles front (blockPiece? payload) (normalizer.handle payload.2 payload.1) := by
  have used (usage : Option Json) (normalizer : AnthropicStreamNormalizer) :
      (normalizer.takeUsage usage).toolBlocks = normalizer.toolBlocks := by
    cases usage <;> rfl
  obtain ⟨eventType, payload⟩ := payload
  unfold AnthropicStreamNormalizer.handle
  dsimp only
  split
  · exact keeps.idle (used _ _)
  · exact keeps.start payload
  · exact keeps.delta payload
  · exact keeps.stop payload
  · refine keeps.idle ((used _ _).trans ?_)
    rw [takeStopReason]
    split <;> rfl
  next _ notStart notDelta notStop _ =>
    have unread : blockPiece? (eventType, payload) = none := by
      unfold blockPiece?
      split
      next start => exact absurd start notStart
      next delta => exact absurd delta notDelta
      next stop => exact absurd stop notStop
      next => rfl
    rw [unread]
    exact keeps.idle rfl

theorem callEntries_anthropicExchange (payloads : List (String × Json)) :
    callEntries (anthropicExchange payloads) =
      (blockEntries [] (payloads.filterMap blockPiece?)).map Prod.snd := by
  have behind (front : List BlockPiece) (normalizer : AnthropicStreamNormalizer) (keeps : Keeps normalizer front)
      (events : List DependencyProviderEvent) :
      callEntries (payloads.foldl (fun state payload =>
        ((state.1.handle payload.2 payload.1).1, state.2 ++ (state.1.handle payload.2 payload.1).2))
        (normalizer, events)).2 =
      callEntries events ++ (blockEntries front (payloads.filterMap blockPiece?)).map Prod.snd := by
    induction payloads generalizing front normalizer events with
    | nil => exact (List.append_nil _).symm
    | cons payload rest ih =>
      have handles := keeps.handle payload
      rw [List.foldl_cons]
      dsimp only
      rw [ih _ _ handles.keeps, callEntries, List.filterMap_append]
      rw [← callEntries, ← callEntries, handles.entries, List.append_assoc, List.filterMap_cons]
      congr 1
      cases blockPiece? payload with
      | none => simp
      | some piece => simp [blockEntries_cons]
  exact behind [] .new (fun index => rfl) []

theorem fullFragments (payloads : List (String × Json)) : FullFragments (payloads.filterMap blockPiece?) := by
  intro place fragment inside empty
  obtain ⟨⟨eventType, payload⟩, -, found⟩ := List.mem_filterMap.mp inside
  unfold blockPiece? at found
  split at found
  · simp only [Option.bind_eq_bind, Option.bind_eq_some_iff] at found
    obtain ⟨_, _, _, _, started⟩ := found
    exact absurd (Option.some.inj started) nofun
  · simp only [Option.bind_eq_bind, Option.bind_eq_some_iff] at found
    obtain ⟨_, _, _, _, text, kept, same⟩ := found
    obtain ⟨-, rfl⟩ := BlockPiece.delta.inj (Option.some.inj same)
    have full := (Option.filter_eq_some_iff.mp kept).2
    rw [empty] at full
    cases full
  · cases found
  · cases found

theorem AnthropicIdentified.identified {payloads : List (String × Json)}
    (identified : AnthropicIdentified (payloads.filterMap blockPiece?)) :
    CallsIdentified (callEntries (anthropicExchange payloads)) := by
  rw [callEntries_anthropicExchange]
  exact (identified.taggedBlocks (fullFragments payloads)).identified

end Anthropic

section Gemini

/-- The entries of calls that are proposed as soon as they are sent. -/
def pairEntries (calls : List (String × String)) : List CallEntry :=
  calls.flatMap fun call => [.delta call.1 call.2, .proposal call.1 call.2]

variable {calls : List (String × String)}

theorem proposedIds_pairEntries : proposedIds (pairEntries calls) = calls.map Prod.fst := by
  induction calls with
  | nil => rfl
  | cons call rest ih =>
    rw [List.map_cons, ← ih]
    rfl

theorem fragmentsOf_pairEntries {callId : String} :
    fragmentsOf callId (pairEntries calls) = (calls.filter (·.1 == callId)).map Prod.snd := by
  induction calls with
  | nil => rfl
  | cons call rest ih =>
    have split : fragmentsOf callId (pairEntries (call :: rest)) =
        fragmentsOf callId (pairEntries [call]) ++ fragmentsOf callId (pairEntries rest) := by
      rw [fragmentsOf, pairEntries, List.flatMap_cons, List.filter_append, List.filterMap_append]
      rfl
    rw [split, ih, List.filter_cons]
    by_cases same : call.1 = callId <;>
      simp [fragmentsOf, pairEntries, CallEntry.callId, CallEntry.fragment?, same]

theorem filter_eq_singleton {call : String × String} (nodup : (calls.map Prod.fst).Nodup) (inside : call ∈ calls) :
    calls.filter (·.1 == call.1) = [call] := by
  obtain ⟨front, back, rfl⟩ := List.append_of_mem inside
  rw [List.map_append, List.map_cons, List.nodup_append, List.nodup_cons] at nodup
  obtain ⟨-, ⟨later, -⟩, earlier⟩ := nodup
  have front_ : front.filter (·.1 == call.1) = [] := by
    rw [List.filter_eq_nil_iff]
    intro other member same
    exact earlier _ (List.mem_map_of_mem member) _ List.mem_cons_self (beq_iff_eq.mp same)
  have back_ : back.filter (·.1 == call.1) = [] := by
    rw [List.filter_eq_nil_iff]
    intro other member same
    exact later (beq_iff_eq.mp same ▸ List.mem_map_of_mem member)
  rw [List.filter_append, List.filter_cons, if_pos (beq_self_eq_true _), front_, back_]
  rfl

theorem callsIdentified_pairEntries :
    CallsIdentified (pairEntries calls) ↔ (calls.map Prod.fst).Nodup := by
  refine ⟨fun identified => proposedIds_pairEntries ▸ identified.distinct, fun nodup => ?_⟩
  have distinct : (proposedIds (pairEntries calls)).Nodup := proposedIds_pairEntries.symm ▸ nodup
  refine ⟨distinct, ?_, ?_⟩
  · intro callId fragment inside
    obtain ⟨call, member, found⟩ := List.mem_flatMap.mp inside
    refine List.count_eq_one_of_mem distinct ?_
    rw [proposedIds_pairEntries]
    simp only [List.mem_cons, CallEntry.delta.injEq, reduceCtorEq, List.not_mem_nil, or_false] at found
    exact List.mem_map.mpr ⟨call, member, found.1.symm⟩
  · intro callId arguments inside
    obtain ⟨call, member, found⟩ := List.mem_flatMap.mp inside
    simp only [List.mem_cons, CallEntry.proposal.injEq, reduceCtorEq, List.not_mem_nil, or_false, false_or] at found
    obtain ⟨rfl, rfl⟩ := found
    rw [fragmentsOf_pairEntries, filter_eq_singleton nodup member]
    simp [argumentsOfFragments]

variable [ProviderJson]

open GeminiStreamNormalizer

omit [ProviderJson] in
theorem takeText_length (part : Json) (pushing : Pushing) :
    callEntries (takeText part pushing).2 = callEntries pushing.2 ∧
      (takeText part pushing).2.length = pushing.2.length + textsOf part := by
  rw [takeText, textsOf]
  cases ((part.get? "text").bind (·.asStr?)).filter (!·.isEmpty) with
  | none => exact ⟨rfl, rfl⟩
  | some text =>
    refine ⟨?_, by simp⟩
    dsimp only
    rw [callEntries, List.filterMap_append]
    exact List.append_nil _

theorem takeFunctionCall_entries (part : Json) (pushing : Pushing) :
    (callsFunction part = false ∧ takeFunctionCall part pushing = pushing) ∨
    (callsFunction part ∧ (takeFunctionCall part pushing).2.length = pushing.2.length + 2 ∧
      ∃ arguments, callEntries (takeFunctionCall part pushing).2 =
        callEntries pushing.2 ++ pairEntries [(GeminiStreamNormalizer.inventedCallId pushing.2.length, arguments)]) := by
  rw [callsFunction, takeFunctionCall]
  cases part.get? "functionCall" with
  | none => exact .inl ⟨rfl, rfl⟩
  | some call =>
    dsimp only
    rw [Option.any_some]
    by_cases nameless : (((call.get? "name").bind (·.asStr?)).getD "").isEmpty
    · rw [if_pos nameless, nameless]
      exact .inl ⟨rfl, rfl⟩
    · rw [if_neg nameless, Bool.eq_false_iff.mpr nameless]
      refine .inr ⟨rfl, by simp, ProviderJson.print ((call.get? "args").getD (.object [])), ?_⟩
      rw [callEntries, List.filterMap_append]
      rfl

/-- From one state of a chunk to another, calls are pushed that stand at the places of some parts. -/
def Announces (before after : Pushing) (parts : List Json) : Prop :=
  ∃ calls, callEntries after.2 = callEntries before.2 ++ pairEntries calls ∧
    ∀ rest, (callPlaces before.2.length (parts ++ rest)).map GeminiStreamNormalizer.inventedCallId =
      calls.map Prod.fst ++ (callPlaces after.2.length rest).map GeminiStreamNormalizer.inventedCallId

omit [ProviderJson] in
theorem Announces.none {before after : Pushing} (same : after.2 = before.2) : Announces before after [] :=
  ⟨[], by rw [same]; exact (List.append_nil _).symm, fun rest => by rw [same]; rfl⟩

omit [ProviderJson] in
theorem Announces.append {before between after : Pushing} {front back : List Json}
    (earlier : Announces before between front) (later : Announces between after back) :
    Announces before after (front ++ back) := by
  obtain ⟨first, entries, places⟩ := earlier
  obtain ⟨second, more, behind⟩ := later
  refine ⟨first ++ second, ?_, fun rest => ?_⟩
  · rw [more, entries, List.append_assoc, pairEntries, pairEntries, pairEntries, List.flatMap_append]
  · rw [List.append_assoc, places, behind, List.map_append, List.append_assoc]

theorem handlePart_announces (part : Json) (pushing : Pushing) :
    Announces pushing (handlePart pushing part) [part] := by
  obtain ⟨sameEntries, length⟩ := takeText_length part pushing
  rw [handlePart, Announces, ← sameEntries]
  simp only [List.singleton_append, callPlaces, ← length]
  rcases takeFunctionCall_entries part (takeText part pushing) with ⟨idle, same⟩ | ⟨calling, longer, arguments, added⟩
  · refine ⟨[], by rw [same]; exact (List.append_nil _).symm, fun rest => ?_⟩
    rw [same, idle]
    rfl
  · refine ⟨_, added, fun rest => ?_⟩
    rw [if_pos calling, longer]
    rfl

omit [ProviderJson] in
theorem foldl_announces {take : Pushing → Json → Pushing} {partsOf : Json → List Json}
    (single : ∀ item pushing, Announces pushing (take pushing item) (partsOf item)) (items : List Json)
    (pushing : Pushing) : Announces pushing (items.foldl take pushing) (items.flatMap partsOf) := by
  induction items generalizing pushing with
  | nil => exact .none rfl
  | cons item rest ih => exact (single item pushing).append (ih _)

theorem handleCandidate_announces (candidate : Json) (pushing : Pushing) :
    Announces pushing (handleCandidate pushing candidate) (partsOf candidate) := by
  have parts := foldl_announces (show ∀ item pushing, Announces pushing (handlePart pushing item) [item] from
    handlePart_announces) (partsOf candidate)
    (takeFinishReason candidate pushing.1, pushing.2)
  rw [List.flatMap_singleton'] at parts
  exact parts

theorem chunk_announces (normalizer : GeminiStreamNormalizer) (chunk : Json) : ∃ calls,
    callEntries (normalizer.handle chunk).2 = pairEntries calls ∧
      calls.map Prod.fst = (callPlaces 0 (chunkParts chunk)).map GeminiStreamNormalizer.inventedCallId := by
  -- The usage that a chunk reports is read in front of its candidates, and announces no call.
  refine (foldl_announces handleCandidate_announces (candidatesOf chunk) (_, [])).imp fun calls announced =>
    ⟨announced.1, ?_⟩
  have places := announced.2 []
  rw [callPlaces, List.map_nil, List.append_nil, List.append_nil] at places
  exact places.symm

theorem callEntries_geminiExchange (chunks : List Json) : ∃ calls,
    callEntries (geminiExchange chunks) = pairEntries calls ∧
      calls.map Prod.fst = (chunks.flatMap fun chunk => callPlaces 0 (chunkParts chunk)).map GeminiStreamNormalizer.inventedCallId := by
  have behind (normalizer : GeminiStreamNormalizer) (events : List DependencyProviderEvent) : ∃ calls,
      callEntries (chunks.foldl (fun state chunk =>
        ((GeminiStreamNormalizer.handle state.1 chunk).1,
          state.2 ++ (GeminiStreamNormalizer.handle state.1 chunk).2)) (normalizer, events)).2 =
        callEntries events ++ pairEntries calls ∧
      calls.map Prod.fst = (chunks.flatMap fun chunk => callPlaces 0 (chunkParts chunk)).map GeminiStreamNormalizer.inventedCallId := by
    induction chunks generalizing normalizer events with
    | nil => exact ⟨[], (List.append_nil _).symm, rfl⟩
    | cons chunk rest ih =>
      obtain ⟨calls, entries, ids⟩ := chunk_announces normalizer chunk
      obtain ⟨others, more, behind⟩ := ih (normalizer.handle chunk).1 (events ++ (normalizer.handle chunk).2)
      refine ⟨calls ++ others, ?_, ?_⟩
      · rw [List.foldl_cons]
        dsimp only
        rw [more, callEntries, List.filterMap_append, ← callEntries, ← callEntries, entries, List.append_assoc,
          pairEntries, pairEntries, pairEntries, List.flatMap_append]
      · rw [List.map_append, ids, behind, List.flatMap_cons, List.map_append]
  exact behind .new []

theorem callsIdentified_geminiExchange (chunks : List Json) :
    CallsIdentified (callEntries (geminiExchange chunks)) ↔ GeminiApart chunks := by
  obtain ⟨calls, entries, ids⟩ := callEntries_geminiExchange chunks
  have injective : Function.Injective GeminiStreamNormalizer.inventedCallId := by
    intro first second same
    exact Nat.repr_injective (String.append_right_inj _ |>.mp same)
  rw [entries, callsIdentified_pairEntries, ids, List.nodup_map_iff injective, GeminiApart]

end Gemini

section Sample

/-- A stand-in for the JSON parser that takes every text. -/
abbrev lenientJson : ProviderJson where
  parse _ := .ok .null
  print _ := "{}"

attribute [local instance] lenientJson

/-- A chunk that sends a tool call, with an index and an identity if there are any. -/
def callChunk (head : List (String × Json)) : Json :=
  .object [("choices", .array [.object [("delta", .object [("tool_calls", .array [.object (head ++
    [("function", .object [("name", .string "read"), ("arguments", .string "{}")])])])])]])]

/-- A chunk that calls a function. -/
def functionChunk : Json :=
  .object [("candidates", .array [.object [("content", .object [("parts", .array [
    .object [("functionCall", .object [("name", .string "read")])]])])]])]

/-- Two calls without identities. -/
def namelessCalls : List Json :=
  [callChunk [], callChunk [("index", .number (.posInt 1 one_lt_word))]]

end Sample

end AgentMod
