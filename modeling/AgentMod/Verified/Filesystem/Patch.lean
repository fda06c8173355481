import AgentMod.Filesystem.Patch

/-! Patches are cut into the diffs that they are made of, as long as no hunk looks like a header. -/

namespace AgentMod

section Sections

variable {line : List Char} {rest front back lines : List (List Char)}

theorem startsFile_iff : startsFile line rest ↔
    "--- ".toList <+: line ∧ ∃ next others, rest = next :: others ∧ "+++ ".toList <+: next := by
  cases rest <;> simp [startsFile]

/-- Lines without a header are those of which no two are one. -/
theorem fileSections_eq_nil : fileSections lines = [] ↔
    lines.IsChain fun line next => ¬ ("--- ".toList <+: line ∧ "+++ ".toList <+: next) := by
  induction lines with
  | nil => simp [fileSections]
  | cons line rest ih =>
    cases rest with
    | nil => simp [fileSections, startsFile]
    | cons next others =>
      rw [fileSections, List.isChain_cons_cons, ← ih]
      split
      next starts =>
        obtain ⟨old, _, _, ⟨⟩, new⟩ := startsFile_iff.mp starts
        exact ⟨fun empty => (by cases empty), fun chain => absurd ⟨old, new⟩ chain.1⟩
      next inner =>
        exact (and_iff_right fun both => inner (startsFile_iff.mpr ⟨both.1, next, others, rfl, both.2⟩)).symm

theorem untilFile_of_fileSections (none_ : fileSections lines = []) : untilFile lines = lines := by
  induction lines with
  | nil => rfl
  | cons line rest ih =>
    rw [fileSections] at none_
    split at none_
    · cases none_
    next inner => rw [untilFile, if_neg inner, ih none_]

/-- Nothing, or lines that a header leads. -/
def Headed (lines : List (List Char)) : Prop := lines = [] ∨ ∃ line rest, lines = line :: rest ∧ startsFile line rest

theorem startsFile_append (headed : Headed back) : startsFile line (rest ++ back) = startsFile line rest := by
  cases rest with
  | cons next others => rfl
  | nil =>
    rcases headed with rfl | ⟨next, others, rfl, starts⟩
    · rfl
    · -- A line that starts a header does not continue one.
      obtain ⟨⟨text, rfl⟩, -⟩ := startsFile_iff.mp starts
      simp [startsFile, List.isPrefixOf]

theorem untilFile_append (headed : Headed back) : untilFile (front ++ back) = untilFile front := by
  induction front with
  | nil =>
    rcases headed with rfl | ⟨next, others, rfl, starts⟩
    · rfl
    · simp only [List.nil_append, untilFile, starts, if_true]
  | cons line rest ih => rw [List.cons_append, untilFile, untilFile, startsFile_append headed, ih]

/-- Lines are cut in front of a header. -/
theorem fileSections_append (headed : Headed back) :
    fileSections (front ++ back) = fileSections front ++ fileSections back := by
  induction front with
  | nil => rfl
  | cons line rest ih =>
    rw [List.cons_append, fileSections, fileSections, startsFile_append headed, untilFile_append headed, ih]
    split <;> rfl

theorem untilFile_subset : untilFile lines ⊆ lines := by
  induction lines with
  | nil => exact List.Subset.refl _
  | cons line rest ih =>
    rw [untilFile]
    split
    · exact List.nil_subset _
    · exact List.cons_subset_cons _ ih

theorem subset_of_fileSections {file : List (List Char)} (listed : file ∈ fileSections lines) : file ⊆ lines := by
  induction lines with
  | nil => cases listed
  | cons line rest ih =>
    have behind (later : file ∈ fileSections rest) : file ⊆ line :: rest :=
      fun _ among => List.mem_cons_of_mem _ (ih later among)
    rw [fileSections] at listed
    split at listed
    · rcases List.mem_cons.mp listed with rfl | later
      · exact List.cons_subset_cons _ untilFile_subset
      · exact behind later
    · exact behind listed

end Sections

section Paths

variable {line marker : List Char} {lines : List (List Char)} {path name : String}

theorem toList_trimText :
    (trimText path).toList = (path.toList.dropWhile isWhitespace).rdropWhile isWhitespace := by
  rw [trimText, String.toList_ofList]
  rfl

theorem trimText_sublist : (trimText path).toList.Sublist path.toList := by
  rw [toList_trimText]
  exact (List.rdropWhile_prefix ..).sublist.trans (List.dropWhile_suffix _).sublist

theorem stripPatchPrefix_eq_ok (same : stripPatchPrefix name = path) (sub : name.toList.Sublist path.toList) :
    name = path ∧ '\\' ∉ path.toList ∧ ¬ "a/".toList <+: path.toList ∧ ¬ "b/".toList <+: path.toList := by
  have texts := congrArg String.toList same
  rw [stripPatchPrefix, String.toList_ofList] at texts
  have lengths := congrArg List.length texts
  rw [List.length_map] at lengths
  have short := sub.length_le
  split at lengths
  next marked =>
    -- A marker would make the path shorter.
    have long : 2 ≤ name.toList.length := by
      rw [Bool.or_eq_true, List.isPrefixOf_iff_prefix, List.isPrefixOf_iff_prefix] at marked
      rcases marked with marked | marked <;> exact marked.length_le
    rw [List.length_drop] at lengths
    omega
  next unmarked =>
    have names := String.toList_injective (sub.eq_of_length lengths)
    rw [if_neg unmarked, names] at texts
    rw [Bool.or_eq_true, List.isPrefixOf_iff_prefix, List.isPrefixOf_iff_prefix, not_or, names] at unmarked
    refine ⟨names, fun inside => ?_, unmarked⟩
    have changed := List.map_inj_left.mp (texts.trans (List.map_id _).symm) _ inside
    simp at changed

theorem patchHeaderPath_eq_ok : patchHeaderPath line marker = .ok name ↔ marker <+: line ∧ name ≠ "" ∧
    trimText (.ofList ((line.drop marker.length).takeWhile (· ≠ '\t'))) = name := by
  rw [patchHeaderPath]
  constructor
  · intro reads
    split at reads
    next found =>
      rw [Bool.and_eq_true, List.isPrefixOf_iff_prefix, Bool.not_eq_true', Bool.eq_false_iff, Ne,
        String.isEmpty_iff] at found
      cases reads
      exact ⟨found.1, found.2, rfl⟩
    · cases reads
  · rintro ⟨marked, nonempty, rfl⟩
    rw [if_pos]
    rw [Bool.and_eq_true, List.isPrefixOf_iff_prefix, Bool.not_eq_true', Bool.eq_false_iff, Ne, String.isEmpty_iff]
    exact ⟨marked, nonempty⟩

/-- What a header reads as is inside its line. -/
theorem sublist_of_patchHeaderPath (reads : patchHeaderPath line marker = .ok name) :
    name.toList.Sublist (line.drop marker.length) := by
  obtain ⟨-, -, rfl⟩ := patchHeaderPath_eq_ok.mp reads
  refine trimText_sublist.trans ?_
  rw [String.toList_ofList]
  exact (List.takeWhile_prefix _).sublist

theorem patchPath_eq_ok {oldLine newLine : List Char} : patchPath oldLine newLine = .ok path ↔ ∃ oldName newName,
    patchHeaderPath (oldLine.rdropWhile isWhitespace) "--- ".toList = .ok oldName ∧
      patchHeaderPath (newLine.rdropWhile isWhitespace) "+++ ".toList = .ok newName ∧
        oldName ≠ "/dev/null" ∧ newName ≠ "/dev/null" ∧ stripPatchPrefix oldName = stripPatchPrefix newName ∧
          stripPatchPrefix newName = path := by
  simp only [patchPath, bind_eq_ok, refuseIf_eq_ok, exists_unit, not_or, ne_eq, not_not, pure_eq_ok]
  constructor
  · rintro ⟨oldName, reads, newName, reads', ⟨old, new⟩, same, rfl⟩
    exact ⟨oldName, newName, reads, reads', old, new, same, rfl⟩
  · rintro ⟨oldName, newName, reads, reads', old, new, same, rfl⟩
    exact ⟨oldName, reads, newName, reads', ⟨old, new⟩, same, rfl⟩

theorem rdropWhile_header (change : FileChange) (mark : String) :
    (change.header mark).rdropWhile isWhitespace = (mark.toList ++ change.path.toList).rdropWhile isWhitespace :=
  List.rdropWhile_concat_pos _ _ _ rfl

theorem CarriedPath.stripPatchPrefix (carried : CarriedPath path) : stripPatchPrefix path = path := by
  have unmarked := carried.unmarked
  rw [AgentMod.stripPatchPrefix, if_neg]
  · have same : path.toList.map (fun character => if character = '\\' then '/' else character) = path.toList := by
      refine (List.map_congr_left fun character inside => ?_).trans (List.map_id _)
      have plain := carried.characters character inside
      simp only [List.mem_cons, List.not_mem_nil, not_or] at plain
      exact if_neg plain.2.2.1
    exact (congrArg String.ofList same).trans String.ofList_toList
  · rwa [Bool.or_eq_true, List.isPrefixOf_iff_prefix, List.isPrefixOf_iff_prefix, not_or]

theorem CarriedPath.patchHeaderPath {change : FileChange} {mark : String} (carried : CarriedPath change.path) :
    patchHeaderPath ((change.header mark).rdropWhile isWhitespace) mark.toList = .ok change.path := by
  have trimmed := carried.trimmed
  have texts := congrArg String.toList trimmed
  rw [toList_trimText] at texts
  have front := (List.rdropWhile_prefix isWhitespace (change.path.toList.dropWhile isWhitespace)).sublist
  rw [texts] at front
  have first : change.path.toList.dropWhile isWhitespace = change.path.toList :=
    (List.dropWhile_suffix _).sublist.antisymm front
  rw [first] at texts
  have nonempty : change.path.toList ≠ [] := fun empty => carried.nonempty (String.toList_eq_nil_iff.mp empty)
  have ends : (mark.toList ++ change.path.toList).rdropWhile isWhitespace = mark.toList ++ change.path.toList := by
    rw [List.rdropWhile_eq_self_iff]
    intro some_
    rw [List.getLast_append_of_right_ne_nil _ _ nonempty]
    exact List.rdropWhile_eq_self_iff.mp texts nonempty
  have tabless : change.path.toList.takeWhile (· ≠ '\t') = change.path.toList := by
    rw [List.takeWhile_eq_self_iff]
    intro character inside
    have plain := carried.characters character inside
    simp only [List.mem_cons, not_or] at plain
    exact decide_eq_true plain.1
  rw [rdropWhile_header, ends, patchHeaderPath_eq_ok]
  refine ⟨List.prefix_append .., carried.nonempty, ?_⟩
  rw [List.drop_left, tabless, String.ofList_toList, trimmed]

theorem carried_of_patchHeaderPath {change : FileChange} {mark : String} (free : '\n' ∉ change.path.toList)
    (reads : patchHeaderPath ((change.header mark).rdropWhile isWhitespace) mark.toList = .ok name)
    (written : name ≠ "/dev/null") (same : stripPatchPrefix name = change.path) : CarriedPath change.path := by
  have inside : (((change.header mark).rdropWhile isWhitespace).drop mark.toList.length).Sublist
      change.path.toList := by
    rw [rdropWhile_header]
    refine ((List.rdropWhile_prefix ..).sublist.drop _).trans ?_
    rw [List.drop_left]
  obtain ⟨rfl, slashed, unmarked⟩ := stripPatchPrefix_eq_ok same ((sublist_of_patchHeaderPath reads).trans inside)
  obtain ⟨-, nonempty, trimmed⟩ := patchHeaderPath_eq_ok.mp reads
  -- The path is all that is left of the line at each step.
  have trims := @trimText_sublist (.ofList ((((change.header mark).rdropWhile isWhitespace).drop
    mark.toList.length).takeWhile (· ≠ '\t')))
  rw [trimmed, String.toList_ofList] at trims
  have whole := ((List.takeWhile_prefix _).sublist.trans inside).antisymm trims
  rw [whole, String.ofList_toList] at trimmed
  refine ⟨nonempty, trimmed, fun character among special => ?_, unmarked, written⟩
  rw [← whole] at among
  have untabbed := List.mem_takeWhile_imp among
  rw [whole] at among
  simp only [List.mem_cons, List.not_mem_nil, or_false] at special
  rcases special with rfl | rfl | rfl
  · cases untabbed
  · exact free among
  · exact slashed among

theorem patchPath_header {change : FileChange} (free : '\n' ∉ change.path.toList) :
    patchPath (change.header "--- ") (change.header "+++ ") = .ok change.path ↔ CarriedPath change.path := by
  rw [patchPath_eq_ok]
  constructor
  · rintro ⟨oldName, newName, -, reads, -, written, -, same⟩
    exact carried_of_patchHeaderPath free reads written same
  · intro carried
    exact ⟨_, _, carried.patchHeaderPath, carried.patchHeaderPath, carried.written, carried.written,
      rfl, carried.stripPatchPrefix⟩

theorem not_mem_of_patchPath {oldLine newLine text : List Char} (free : '\n' ∉ text)
    (line : newLine = text ∨ newLine = text ++ ['\n']) (reads : patchPath oldLine newLine = .ok path) :
    '\n' ∉ path.toList := by
  obtain ⟨_, name, -, found, -, -, -, rfl⟩ := patchPath_eq_ok.mp reads
  have ends : newLine.rdropWhile isWhitespace = text.rdropWhile isWhitespace := by
    rcases line with rfl | rfl
    · rfl
    · exact List.rdropWhile_concat_pos _ _ _ rfl
  rw [ends] at found
  have inside : name.toList.Sublist text :=
    (sublist_of_patchHeaderPath found).trans ((List.drop_sublist ..).trans (List.rdropWhile_prefix ..).sublist)
  rw [stripPatchPrefix, String.toList_ofList]
  intro broken
  obtain ⟨character, among, same⟩ := List.mem_map.mp broken
  have kept : character ∈ name.toList := by
    split at among
    · exact List.mem_of_mem_drop among
    · exact among
  split at same
  · cases same
  · exact free (inside.subset (same ▸ kept))

theorem splitPatch_eq_ok {source : List Char} {sections : List PatchSection} : splitPatch source = .ok sections ↔
    utf8Length source ≤ maxPatchBytes ∧ fileSections (splitInclusive '\n' source) ≠ [] ∧
      (fileSections (splitInclusive '\n' source)).mapM patchSection = .ok sections := by
  simp only [splitPatch, bind_eq_ok, refuseIf_eq_ok, exists_unit, not_lt, ne_eq]

/-- A path is read from one line. -/
theorem unbroken_of_splitPatch {source : List Char} {sections : List PatchSection}
    (cut : splitPatch source = .ok sections) : ∀ section_ ∈ sections, '\n' ∉ section_.path.toList := by
  intro section_ listed
  obtain ⟨-, -, mapped⟩ := splitPatch_eq_ok.mp cut
  obtain ⟨file, inside, made⟩ := exists_of_forall₂_right (mapM_eq_ok.mp mapped) listed
  obtain ⟨path, reads, same⟩ := bind_eq_ok.mp made
  cases same
  have line : ∃ text, '\n' ∉ text ∧ (file.tail.headD [] = text ∨ file.tail.headD [] = text ++ ['\n']) := by
    cases lines : file.tail with
    | nil => exact ⟨[], List.not_mem_nil, .inl rfl⟩
    | cons line others =>
      have among : line ∈ file := List.mem_of_mem_tail (by rw [lines]; exact List.mem_cons_self)
      exact exists_of_mem_splitInclusive (subset_of_fileSections inside among)
  obtain ⟨text, free, ends⟩ := line
  exact not_mem_of_patchPath free ends reads

end Paths

section Patches

variable [UnifiedHunks] {change : FileChange} {changes : List FileChange}

/-- The diff of a change is cut at its header, and at every false one in its hunks. -/
theorem fileSections_diff : fileSections change.diff =
    (change.header "--- " :: change.header "+++ " :: untilFile change.body) :: fileSections change.body := by
  have starts : startsFile (change.header "--- ") (change.header "+++ " :: change.body) :=
    startsFile_iff.mpr ⟨⟨_, (List.append_assoc ..).symm⟩, _, _, rfl, ⟨_, (List.append_assoc ..).symm⟩⟩
  have inner : startsFile (change.header "+++ ") change.body = false := by
    simp [startsFile, FileChange.header]
  rw [FileChange.diff, fileSections, if_pos starts, fileSections, inner, untilFile, inner]
  rfl

theorem headed_diffs : Headed (changes.flatMap FileChange.diff) := by
  cases changes with
  | nil => exact .inl rfl
  | cons change others =>
    refine .inr ⟨_, _, rfl, ?_⟩
    exact startsFile_iff.mpr ⟨⟨_, (List.append_assoc ..).symm⟩, _, _, rfl, ⟨_, (List.append_assoc ..).symm⟩⟩

theorem fileSections_diffs :
    fileSections (changes.flatMap FileChange.diff) = changes.flatMap fun change => fileSections change.diff := by
  induction changes with
  | nil => rfl
  | cons change others ih => rw [List.flatMap_cons, fileSections_append headed_diffs, ih, List.flatMap_cons]

/-- A patch has the lines of its diffs. -/
theorem splitInclusive_diffs (free : ∀ change ∈ changes, '\n' ∉ change.path.toList) :
    splitInclusive '\n' (changes.flatMap FileChange.diff).flatten = changes.flatMap FileChange.diff := by
  have ended : ∀ line ∈ changes.flatMap FileChange.diff, ∃ text, line = text ++ ['\n'] ∧ '\n' ∉ text := by
    intro line listed
    obtain ⟨change, inside, listed⟩ := List.mem_flatMap.mp listed
    have path := free change inside
    rcases List.mem_cons.mp listed with rfl | listed
    · exact ⟨_, rfl, by simp [path]⟩
    · rcases List.mem_cons.mp listed with rfl | listed
      · exact ⟨_, rfl, by simp [path]⟩
      · obtain ⟨text, among, rfl⟩ := List.mem_map.mp listed
        exact ⟨text, rfl, UnifiedHunks.unbroken _ _ text among⟩
  generalize changes.flatMap FileChange.diff = lines at ended
  induction lines with
  | nil => rfl
  | cons line rest ih =>
    obtain ⟨text, rfl, free⟩ := ended line List.mem_cons_self
    rw [List.flatten_cons, List.append_assoc, List.singleton_append, splitInclusive_line free,
      ih fun other listed => ended other (List.mem_cons_of_mem _ listed)]

theorem patchSection_diff : patchSection change.diff = .ok change.toSection ↔
    patchPath (change.header "--- ") (change.header "+++ ") = .ok change.path := by
  rw [patchSection, bind_eq_ok]
  constructor
  · rintro ⟨path, reads, same⟩
    have paths : path = change.path := congrArg PatchSection.path (Except.ok.inj same)
    exact reads.trans (congrArg Except.ok paths)
  · exact fun reads => ⟨_, reads, rfl⟩

/-- Each diff is cut at least once, so that no diff is cut again where there are as many sections as changes. -/
theorem fileSections_body_of_length (few : (changes.flatMap fun change => fileSections change.diff).length ≤
    changes.length) : ∀ change ∈ changes, fileSections change.body = [] := by
  have least : ∀ changes : List FileChange, changes.length ≤
      (changes.flatMap fun change => fileSections change.diff).length := by
    intro changes
    induction changes with
    | nil => exact le_rfl
    | cons change others ih =>
      rw [List.flatMap_cons, fileSections_diff, List.cons_append, List.length_cons, List.length_cons,
        List.length_append]
      omega
  induction changes with
  | nil => exact fun change listed => (by cases listed)
  | cons change others ih =>
    have behind := least others
    rw [List.flatMap_cons, fileSections_diff, List.cons_append, List.length_cons, List.length_cons,
      List.length_append] at few
    refine List.forall_mem_cons.mpr ⟨List.eq_nil_of_length_eq_zero (by omega), ih (by omega)⟩

/-- As long as no path is broken, a patch is cut at its headers, and at the lines of hunks that look like one. -/
theorem splitPatch_diffs_of_unbroken (some_ : changes ≠ []) (free : ∀ change ∈ changes, '\n' ∉ change.path.toList) :
    splitPatch (changes.flatMap FileChange.diff).flatten = .ok (changes.map FileChange.toSection) ↔
      utf8Length (changes.flatMap FileChange.diff).flatten ≤ maxPatchBytes ∧
        ∀ change ∈ changes, CarriedPath change.path ∧ change.Unmistakable := by
  have split : splitPatch (changes.flatMap FileChange.diff).flatten = .ok (changes.map FileChange.toSection) ↔
      utf8Length (changes.flatMap FileChange.diff).flatten ≤ maxPatchBytes ∧
        (changes.flatMap fun change => fileSections change.diff).mapM patchSection =
          .ok (changes.map FileChange.toSection) := by
    have cut : (changes.flatMap fun change => fileSections change.diff) ≠ [] := by
      cases changes with
      | nil => exact absurd rfl some_
      | cons change others =>
        rw [List.flatMap_cons, fileSections_diff]
        exact List.cons_ne_nil _ _
    rw [splitPatch, splitInclusive_diffs free, fileSections_diffs]
    simp only [bind_eq_ok, refuseIf_eq_ok, exists_unit, not_lt, cut, not_false_eq_true, true_and]
  have whole : ∀ change : FileChange, fileSections change.body = [] → fileSections change.diff = [change.diff] :=
    fun change plain => by rw [fileSections_diff, plain, untilFile_of_fileSections plain]; rfl
  have single (plain : ∀ change ∈ changes, fileSections change.body = []) :
      (changes.flatMap fun change => fileSections change.diff) = changes.map FileChange.diff := by
    rw [List.flatMap_congr fun change listed => whole change (plain change listed), List.map_eq_flatMap]
  rw [split]
  refine and_congr_right fun _ => ⟨fun sections change listed => ?_, fun reads => ?_⟩
  · have count := (mapM_eq_ok.mp sections).length_eq
    rw [List.length_map] at count
    have plain := fileSections_body_of_length count.le
    rw [single plain, mapM_eq_ok, List.forall₂_map_left_iff, List.forall₂_map_right_iff, List.forall₂_same] at sections
    have reads := patchSection_diff.mp (sections change listed)
    exact ⟨(patchPath_header (free change listed)).mp reads, fileSections_eq_nil.mp (plain change listed)⟩
  · rw [single fun change listed => fileSections_eq_nil.mpr (reads change listed).2, mapM_eq_ok,
      List.forall₂_map_left_iff, List.forall₂_map_right_iff, List.forall₂_same]
    exact fun change listed => patchSection_diff.mpr
      ((patchPath_header (free change listed)).mpr (reads change listed).1)

/-- A patch of some changes is cut into exactly their paths and diffs if and only if it is small enough, the headers
carry the paths, and no two lines of a hunk look like a header. -/
theorem patch_splitting (some_ : changes ≠ []) :
    splitPatch (changes.flatMap FileChange.diff).flatten = .ok (changes.map FileChange.toSection) ↔
      utf8Length (changes.flatMap FileChange.diff).flatten ≤ maxPatchBytes ∧
        ∀ change ∈ changes, CarriedPath change.path ∧ change.Unmistakable := by
  by_cases free : ∀ change ∈ changes, '\n' ∉ change.path.toList
  · exact splitPatch_diffs_of_unbroken some_ free
  · constructor
    · intro cut
      exact absurd (fun change listed => unbroken_of_splitPatch cut _ (List.mem_map_of_mem listed)) free
    · rintro ⟨-, carried⟩
      refine absurd (fun change listed broken => ?_) free
      exact (carried change listed).1.characters _ broken (List.mem_cons_of_mem _ List.mem_cons_self)

end Patches

section OneLine

/-- The hunk of two texts of one line. -/
instance lineHunks : UnifiedHunks where
  hunks old new :=
    ["@@ -1 +1 @@".toList, '-' :: old.toList.filter (· ≠ '\n'), '+' :: new.toList.filter (· ≠ '\n')]
  unbroken old new line listed := by
    simp only [List.mem_cons, List.not_mem_nil, or_false] at listed
    rcases listed with rfl | rfl | rfl
    · decide
    · simp
    · simp

theorem carried_notes : CarriedPath "notes/a.txt" where
  nonempty := by decide
  trimmed := by decide
  characters := by
    have clean : "notes/a.txt".toList.all (· ∉ ['\t', '\n', '\\']) = true := by decide
    simpa only [List.all_eq_true, decide_eq_true_eq] using clean
  unmarked := by decide
  written := by decide

theorem patch_splitting_oneLine :
    splitPatch ([⟨"notes/a.txt", "a\n", "b\n"⟩].flatMap FileChange.diff).flatten =
      .ok ([⟨"notes/a.txt", "a\n", "b\n"⟩].map FileChange.toSection) := by
  refine (patch_splitting (List.cons_ne_nil _ _)).mpr ⟨by decide, ?_⟩
  rw [List.forall_mem_singleton]
  exact ⟨carried_notes, by unfold FileChange.Unmistakable; decide⟩

/-- The evaluation of a patch whose removed and added lines look like a header. -/
instance lookalike_refused : Fact (splitPatch ([⟨"notes/a.txt", "-- a\n", "++ b\n"⟩].flatMap FileChange.diff).flatten =
    .error (.unsupportedPatchOperation "renames are not supported")) where
  out := by decide +kernel

/-- A removed line that begins with two minus signs, and an added one that begins with two plus signs. -/
theorem not_patch_splitting : ¬ ∀ changes : List FileChange, changes ≠ [] → (changes.map FileChange.path).Nodup →
    (∀ change ∈ changes, CarriedPath change.path) →
      utf8Length (changes.flatMap FileChange.diff).flatten ≤ maxPatchBytes →
        splitPatch (changes.flatMap FileChange.diff).flatten = .ok (changes.map FileChange.toSection) := by
  intro splits
  have cut := splits [⟨"notes/a.txt", "-- a\n", "++ b\n"⟩] (List.cons_ne_nil _ _) (by decide)
    (List.forall_mem_singleton.mpr carried_notes) (by decide)
  rw [lookalike_refused.out] at cut
  cases cut

end OneLine

end AgentMod
