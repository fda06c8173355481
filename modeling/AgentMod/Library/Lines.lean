import AgentMod.Library.Result

/-! Lists cut into lines, each of which ends with a separator, except possibly the last one, and the matches
of a pattern in a list. -/

namespace AgentMod

section Lines

variable {α : Type} {separator : α} {line text rest : List α}

/-- A list is a sequence of lines that all end with the separator. -/
def Terminated (separator : α) (text : List α) : Prop :=
  text = [] ∨ text.getLast? = some separator

theorem Terminated.append (first : Terminated separator text) (second : Terminated separator rest) :
    Terminated separator (text ++ rest) := by
  rcases second with rfl | last
  · rwa [List.append_nil]
  · refine .inr ?_
    rw [List.getLast?_append, last, Option.some_or]

variable [DecidableEq α]

/-- `slice::split_inclusive` at every separator: each line keeps the separator that ends it. -/
def splitInclusive (separator : α) : List α → List (List α)
  | [] => []
  | item :: rest =>
    if item = separator then [item] :: splitInclusive separator rest
    else match splitInclusive separator rest with
      | [] => [[item]]
      | line :: lines => (item :: line) :: lines

theorem splitInclusive_nil : splitInclusive separator [] = [] := rfl

theorem splitInclusive_cons (item : α) : splitInclusive separator (item :: rest) =
    if item = separator then [item] :: splitInclusive separator rest
    else match splitInclusive separator rest with
      | [] => [[item]]
      | line :: lines => (item :: line) :: lines := rfl

theorem flatten_splitInclusive : (splitInclusive separator text).flatten = text := by
  induction text with
  | nil => rfl
  | cons item rest ih =>
    rw [splitInclusive_cons]
    split
    · rw [List.flatten_cons, ih, List.singleton_append]
    · -- The item opens the first line of the rest, or is a line of its own.
      cases lines : splitInclusive separator rest with
      | nil =>
        rw [lines] at ih
        simp [← ih]
      | cons line others =>
        rw [lines, List.flatten_cons] at ih
        simp [← ih]

theorem splitInclusive_eq_nil : splitInclusive separator text = [] ↔ text = [] := by
  constructor
  · intro none_
    rw [← @flatten_splitInclusive α separator text _, none_, List.flatten_nil]
  · intro empty
    rw [empty, splitInclusive_nil]

theorem splitInclusive_of_not_mem (nonempty : line ≠ []) (free : separator ∉ line) :
    splitInclusive separator line = [line] := by
  induction line with
  | nil => exact absurd rfl nonempty
  | cons item rest ih =>
    rw [List.mem_cons, not_or] at free
    rw [splitInclusive_cons, if_neg (Ne.symm free.1)]
    by_cases last : rest = []
    · rw [last, splitInclusive_nil]
    · rw [ih last free.2]

theorem splitInclusive_line (free : separator ∉ line) :
    splitInclusive separator (line ++ separator :: rest) =
      (line ++ [separator]) :: splitInclusive separator rest := by
  induction line with
  | nil => rw [List.nil_append, splitInclusive_cons, if_pos rfl, List.nil_append]
  | cons item line ih =>
    rw [List.mem_cons, not_or] at free
    rw [List.cons_append, splitInclusive_cons, if_neg (Ne.symm free.1), ih free.2, List.cons_append]

theorem exists_line (separator : α) (text : List α) : separator ∉ text ∨
    ∃ line rest, separator ∉ line ∧ text = line ++ separator :: rest := by
  by_cases member : separator ∈ text
  · obtain ⟨line, rest, same, free⟩ := List.eq_append_cons_of_mem member
    exact .inr ⟨line, rest, free, same⟩
  · exact .inl member

/-- A line has its separator at most at its end. -/
theorem exists_of_mem_splitInclusive (listed : line ∈ splitInclusive separator text) :
    ∃ front, separator ∉ front ∧ (line = front ∨ line = front ++ [separator]) := by
  -- The text loses one line at a time.
  generalize size : text.length = length
  induction length using Nat.strong_induction_on generalizing text with
  | _ length ih =>
    rcases exists_line separator text with free | ⟨first, others, free, rfl⟩
    · by_cases empty : text = []
      · rw [empty] at listed
        cases listed
      · rw [splitInclusive_of_not_mem empty free, List.mem_singleton] at listed
        exact ⟨text, free, .inl listed⟩
    · rw [splitInclusive_line free] at listed
      rcases List.mem_cons.mp listed with rfl | later
      · exact ⟨first, free, .inr rfl⟩
      · simp only [List.length_append, List.length_cons] at size
        exact ih others.length (by omega) later rfl

theorem splitInclusive_append (terminated : Terminated separator text) :
    splitInclusive separator (text ++ rest) =
      splitInclusive separator text ++ splitInclusive separator rest := by
  -- The text loses one line at a time.
  generalize size : text.length = length
  induction length using Nat.strong_induction_on generalizing text with
  | _ length ih =>
    rcases exists_line separator text with free | ⟨line, others, free, rfl⟩
    · rcases terminated with rfl | last
      · rfl
      · exact absurd (List.mem_of_getLast? last) free
    · have shorter : others.length < length := by
        simp only [List.length_append, List.length_cons] at size
        omega
      have ends : Terminated separator others := by
        rcases terminated with empty | last
        · simp at empty
        · by_cases none_ : others = []
          · exact .inl none_
          · refine .inr ?_
            rwa [List.getLast?_append_of_ne_nil _ (List.cons_ne_nil _ _),
              List.getLast?_cons_of_ne_nil none_] at last
      rw [List.append_assoc, List.cons_append, splitInclusive_line free, splitInclusive_line free,
        ih _ shorter ends rfl, List.cons_append]

/-- In front of its last line, a list consists of its earlier lines, which are complete. -/
theorem split_last {init : List (List α)} {last : List α}
    (cut : splitInclusive separator text = init ++ [last]) :
    ∃ before, text = before ++ last ∧ Terminated separator before ∧
      splitInclusive separator before = init ∧ last ≠ [] ∧ separator ∉ last.dropLast := by
  generalize size : text.length = length
  induction length using Nat.strong_induction_on generalizing text init with
  | _ length ih =>
    rcases exists_line separator text with free | ⟨line, others, free, rfl⟩
    · by_cases empty : text = []
      · rw [empty, splitInclusive_nil] at cut
        simp at cut
      · -- A list without separators is its only line.
        rw [splitInclusive_of_not_mem empty free] at cut
        have joined : [] ++ [text] = init ++ [last] := cut
        obtain ⟨none_, same⟩ := List.append_inj' joined rfl
        cases same
        exact ⟨[], rfl, .inl rfl, none_, empty, fun member => free (List.dropLast_subset _ member)⟩
    · rw [splitInclusive_line free] at cut
      cases init with
      | nil =>
        obtain ⟨rfl, ends⟩ := List.cons.inj cut
        rw [splitInclusive_eq_nil.mp ends]
        refine ⟨[], rfl, .inl rfl, rfl, by simp, ?_⟩
        rwa [List.dropLast_concat]
      | cons first init =>
        obtain ⟨rfl, later⟩ := List.cons.inj cut
        have shorter : others.length < length := by
          simp only [List.length_append, List.length_cons] at size
          omega
        obtain ⟨before, same, terminated, lines, nonempty, only⟩ := ih _ shorter later rfl
        refine ⟨line ++ separator :: before, by simp [same], ?_, ?_, nonempty, only⟩
        · rw [← List.singleton_append, ← List.append_assoc]
          exact .append (.inr List.getLast?_concat) terminated
        · rw [splitInclusive_line free, lines]

theorem terminated_of_lines
    (complete : ∀ line ∈ splitInclusive separator text, line.getLast? = some separator) :
    Terminated separator text := by
  rcases List.eq_nil_or_concat (splitInclusive separator text) with none_ | ⟨init, last, cut⟩
  · exact .inl (splitInclusive_eq_nil.mp none_)
  · rw [List.concat_eq_append] at cut
    obtain ⟨before, rfl, _⟩ := split_last cut
    have ends := complete last (by simp [cut])
    exact .inr (by rw [List.getLast?_append, ends, Option.some_or])

theorem splitOn_append_of_not_mem {front : List α} (free : separator ∉ front) :
    (front ++ rest).splitOn separator = (rest.splitOn separator).modifyHead (front ++ ·) := by
  induction front with
  | nil =>
    rw [List.nil_append]
    cases rest.splitOn separator <;> rfl
  | cons item front ih =>
    have apart : ¬ item = separator := fun same => free (same ▸ List.mem_cons_self)
    rw [List.cons_append, List.splitOn_cons_eq_if_modifyHead, if_neg (by simpa using apart),
      ih fun inside => free (List.mem_cons_of_mem _ inside), List.modifyHead_modifyHead]
    rfl

end Lines

section Matches

variable {α : Type} [DecidableEq α] {pattern text rest before front : List α} {separator : α} {skip : Nat}
  {found : List α × List α}

/-- What stands in front of and behind the matches of a pattern that do not overlap, from the left; as many items
are skipped first. -/
def matchesFrom (pattern : List α) : List α → Nat → List α → List (List α × List α)
  | _, _, [] => []
  | before, skip + 1, item :: rest => matchesFrom pattern (before ++ [item]) skip rest
  | before, 0, item :: rest =>
    if pattern <+: item :: rest then
      (before, (item :: rest).drop pattern.length) ::
        matchesFrom pattern (before ++ [item]) (pattern.length - 1) rest
    else matchesFrom pattern (before ++ [item]) 0 rest

omit [DecidableEq α] in
theorem prefix_append_cons_iff (free : separator ∉ pattern) :
    pattern <+: text ++ separator :: rest ↔ pattern <+: text := by
  refine ⟨fun begins => ?_, fun begins => begins.trans (List.prefix_append _ _)⟩
  rcases List.prefix_or_prefix_of_prefix begins (List.prefix_append text _) with inside | ⟨extra, rfl⟩
  · exact inside
  · cases extra with
    | nil => simp
    | cons item extra =>
      have same := (List.cons_prefix_cons.mp ((List.prefix_append_right_inj text).mp begins)).1
      exact absurd (same ▸ List.mem_append_right _ List.mem_cons_self) free

theorem matchesFrom_append : matchesFrom pattern (front ++ before) skip text =
    (matchesFrom pattern before skip text).map fun found => (front ++ found.1, found.2) := by
  induction text generalizing before skip with
  | nil => cases skip <;> rfl
  | cons item text ih =>
    cases skip with
    | succ skip => simp only [matchesFrom, List.append_assoc, ih]
    | zero =>
      rw [matchesFrom, matchesFrom]
      split
      · simp only [List.append_assoc, ih, List.map_cons]
      · simp only [List.append_assoc, ih]

theorem mem_matchesFrom_of_left (free : separator ∉ pattern) (inside : found ∈ matchesFrom pattern before skip text) :
    (found.1, found.2 ++ separator :: rest) ∈ matchesFrom pattern before skip (text ++ separator :: rest) := by
  induction text generalizing before skip with
  | nil => cases skip <;> cases inside
  | cons item text ih =>
    cases skip with
    | succ skip => exact ih inside
    | zero =>
      have same := @prefix_append_cons_iff _ pattern (item :: text) rest separator free
      rw [List.cons_append] at same
      rw [matchesFrom] at inside
      rw [List.cons_append, matchesFrom]
      split at inside
      · next begins =>
        rw [if_pos (same.mpr begins)]
        rcases List.mem_cons.mp inside with rfl | behind
        · have enough : pattern.length ≤ (item :: text).length := begins.length_le
          rw [← List.cons_append, List.drop_append_of_le_length enough]
          exact List.mem_cons_self
        · exact List.mem_cons_of_mem _ (ih behind)
      · next other =>
        rw [if_neg (same.not.mpr other)]
        exact ih inside

/-- A match stays one when a separator and more stand in front. -/
theorem mem_matchesFrom_of_right (free : separator ∉ pattern) (nonempty : pattern ≠ []) (enough : skip ≤ front.length)
    (inside : found ∈ matchesFrom pattern [] 0 text) :
    (before ++ front ++ separator :: found.1, found.2) ∈
      matchesFrom pattern before skip (front ++ separator :: text) := by
  induction front generalizing before skip with
  | nil =>
    have none : skip = 0 := Nat.le_zero.mp enough
    subst none
    have other : ¬ pattern <+: separator :: text := by
      intro begins
      have empty := (@prefix_append_cons_iff _ pattern [] text separator free).mp begins
      exact nonempty (List.prefix_nil.mp empty)
    rw [List.nil_append, matchesFrom, if_neg other]
    have shifted := @matchesFrom_append _ _ pattern text [] (before ++ [separator]) 0
    rw [List.append_nil] at shifted
    rw [shifted]
    exact List.mem_map.mpr ⟨found, inside, by simp⟩
  | cons item front ih =>
    have step : ∀ {skip}, skip ≤ front.length → (before ++ item :: front ++ separator :: found.1, found.2) ∈
        matchesFrom pattern (before ++ [item]) skip (front ++ separator :: text) := by
      intro skip enough
      have next := @ih (before ++ [item]) skip enough
      rwa [List.append_assoc before, List.singleton_append] at next
    cases skip with
    | succ skip => exact step (Nat.le_of_succ_le_succ enough)
    | zero =>
      rw [List.cons_append, matchesFrom]
      split
      · next begins =>
        have fits := ((@prefix_append_cons_iff _ pattern (item :: front) text separator free).mp begins).length_le
        rw [List.length_cons] at fits
        exact List.mem_cons_of_mem _ (step (by omega))
      · exact step (Nat.zero_le _)

end Matches

end AgentMod
