import AgentMod.InformationFlow.Detection

/-! What a scan flags stays flagged between other lines, and the case of letters hides nothing. -/

namespace AgentMod

/-- What a detector finds in a text, it finds where the text stands as lines of its own. -/
def Undiluted (detector : List Char → Bool) : Prop :=
  ∀ before text behind, detector text = true → detector (before ++ '\n' :: (text ++ '\n' :: behind)) = true

section Undiluted

variable {detector other : List Char → Bool} {ends : Char → Bool} {check : List Char → Bool}

theorem Undiluted.or (first : Undiluted detector) (second : Undiluted other) :
    Undiluted fun text => detector text || other text := by
  intro before text behind found
  rw [Bool.or_eq_true] at found ⊢
  exact found.imp (first before text behind) (second before text behind)

theorem Undiluted.any {α : Type} {values : List α} {detectors : α → List Char → Bool}
    (each : ∀ value ∈ values, Undiluted (detectors value)) :
    Undiluted fun text => values.any fun value => detectors value text := by
  intro before text behind found
  obtain ⟨value, listed, here⟩ := List.any_eq_true.mp found
  exact List.any_eq_true.mpr ⟨value, listed, each value listed before text behind here⟩

theorem mem_splitOnP_of_lines {before text behind token : List Char} (line : ends '\n' = true)
    (inside : token ∈ text.splitOnP ends) : token ∈ (before ++ '\n' :: (text ++ '\n' :: behind)).splitOnP ends := by
  rw [List.splitOnP_append_cons _ _ line, List.splitOnP_append_cons _ _ line]
  exact List.mem_append_right _ (List.mem_append_left _ inside)

theorem Undiluted.tokens (line : ends '\n' = true) : Undiluted fun text => (text.splitOnP ends).any check := by
  intro before text behind found
  obtain ⟨token, inside, here⟩ := List.any_eq_true.mp found
  exact List.any_eq_true.mpr ⟨token, mem_splitOnP_of_lines line inside, here⟩

theorem Undiluted.whitespace : Undiluted fun text => (whitespaceTokens text).any check := by
  intro before text behind found
  obtain ⟨token, inside, here⟩ := List.any_eq_true.mp found
  obtain ⟨split, filled⟩ := List.mem_filter.mp inside
  exact List.any_eq_true.mpr ⟨token, List.mem_filter.mpr ⟨mem_splitOnP_of_lines (by decide) split, filled⟩, here⟩

theorem Undiluted.marker (marker : String) : Undiluted (containsMarker marker) := by
  intro before text behind found
  rw [containsMarker, decide_eq_true_eq] at found ⊢
  have front : text <:+: text ++ '\n' :: behind := (List.prefix_append _ _).isInfix
  have inner : text ++ '\n' :: behind <:+: before ++ '\n' :: (text ++ '\n' :: behind) :=
    ((List.suffix_cons _ _).trans (List.suffix_append _ _)).isInfix
  exact (found.trans front).trans inner

/-- A check of a match that looks no further than to the ends of the lines around it. -/
def WithinLines (accepts : List Char × List Char → Bool) : Prop :=
  ∀ found before behind, accepts found = true →
    accepts (before ++ '\n' :: found.1, found.2 ++ '\n' :: behind) = true

theorem Undiluted.matches {pattern : String} {accepts : List Char × List Char → Bool}
    (free : '\n' ∉ pattern.toList) (nonempty : pattern.toList ≠ []) (within : WithinLines accepts) :
    Undiluted fun text => (matchIndices pattern text).any accepts := by
  intro before text behind found
  obtain ⟨place, inside, here⟩ := List.any_eq_true.mp found
  have left := @mem_matchesFrom_of_left _ _ pattern.toList text behind [] '\n' 0 place free inside
  have right := @mem_matchesFrom_of_right _ _ pattern.toList _ [] before '\n' 0 _ free nonempty (Nat.zero_le _) left
  exact List.any_eq_true.mpr ⟨_, right, within place before behind here⟩

theorem takeWhile_append_cons {taken : Char → Bool} {separator : Char} (stops : taken separator = false)
    (text behind : List Char) : (text ++ separator :: behind).takeWhile taken = text.takeWhile taken := by
  induction text with
  | nil => simp [stops]
  | cons first text ih => simp only [List.cons_append, List.takeWhile_cons, ih]

theorem withinLines_isBearer : WithinLines isBearer := by
  intro found before behind accepted
  rw [isBearer, takeWhile_append_cons (by decide)]
  exact accepted

theorem startsWith_dropWhile_append {front : String} (nonempty : front.toList ≠ []) {trimmed : Char → Bool}
    {text : List Char} (more : List Char) (begins : startsWith front (text.dropWhile trimmed) = true) :
    startsWith front ((text ++ more).dropWhile trimmed) = true := by
  rw [startsWith, decide_eq_true_eq] at begins ⊢
  rw [List.dropWhile_append]
  split
  · next empty =>
    rw [List.isEmpty_iff.mp empty] at begins
    exact absurd (List.prefix_nil.mp begins) nonempty
  · exact begins.trans (List.prefix_append _ _)

theorem withinLines_isAssignment : WithinLines isAssignment := by
  intro found before behind accepted
  rw [isAssignment] at accepted ⊢
  have last : (before ++ '\n' :: found.1).getLast?.any (fun character =>
      isAsciiAlphanumeric character || character == '_') =
      found.1.getLast?.any fun character => isAsciiAlphanumeric character || character == '_' := by
    cases found.1 with
    | nil => simp [isAsciiAlphanumeric, isAsciiAlphabetic, isAsciiDigit]
    | cons first rest => simp [List.getLast?_append, List.getLast?_cons]
  rw [last]
  split at accepted
  · exact Bool.noConfusion accepted
  · next apart =>
    rw [if_neg apart]
    simp only [Bool.or_eq_true, Bool.and_eq_true] at accepted ⊢
    refine accepted.imp (Or.imp (Or.imp ?_ ?_) ?_) ?_
    · exact startsWith_dropWhile_append (by decide) _
    · exact startsWith_dropWhile_append (by decide) _
    · exact startsWith_dropWhile_append (by decide) _
    · rintro ⟨quote, colon⟩
      refine ⟨startsWith_dropWhile_append (by decide) _ quote, ?_⟩
      rw [List.dropWhile_append]
      split
      · next empty =>
        rw [List.isEmpty_iff.mp empty] at quote
        exact absurd quote (by decide)
      · next some_ =>
        rw [List.isEmpty_iff] at some_
        rw [List.tail_append_of_ne_nil some_]
        exact startsWith_dropWhile_append (by decide) _ colon

theorem undiluted_containsSensitiveAssignment {name : String} (free : '\n' ∉ name.toList)
    (nonempty : name.toList ≠ []) : Undiluted (containsSensitiveAssignment · name) :=
  Undiluted.matches free nonempty withinLines_isAssignment

theorem undiluted_lowercase : Undiluted containsExternalHandle ∧ Undiluted containsPrivateKey ∧
    Undiluted containsAuthorization ∧ Undiluted containsCredentialAssignment := by
  have names : ∀ name ∈ credentialNames, '\n' ∉ name.toList ∧ name.toList ≠ [] := by decide
  refine ⟨Undiluted.whitespace, Undiluted.any fun marker _ => Undiluted.marker marker, ?_, ?_⟩
  · have markers : Undiluted fun text => authorizationMarkers.any (containsMarker · text) :=
      Undiluted.any fun marker _ => Undiluted.marker marker
    have bearer : Undiluted containsBearerToken :=
      Undiluted.matches (by decide) (by decide) withinLines_isBearer
    exact (markers.or bearer).or Undiluted.whitespace
  · exact Undiluted.any fun name listed =>
      undiluted_containsSensitiveAssignment (names name listed).1 (names name listed).2

end Undiluted

section Cases

variable {left right : String}

/-- The lowercase form of a character. -/
def lowerCharacter (character : Char) : Char :=
  if 65 ≤ character.toNat && character.toNat ≤ 90 then Char.ofNat (character.toNat + 32) else character

theorem toList_toAsciiLowercase (text : String) :
    (toAsciiLowercase text).toList = text.toList.map lowerCharacter := by
  rw [toAsciiLowercase, String.toList_map]
  rfl

theorem lowerCharacter_eq {first second : Char} (upper : isAsciiUppercase first = true)
    (shifted : second.toNat = first.toNat + 32) :
    lowerCharacter first = lowerCharacter second ∧ first.utf8Size = second.utf8Size ∧ first ≠ '\x00' ∧
      second ≠ '\x00' := by
  rw [isAsciiUppercase] at upper
  have bounds : 65 ≤ first.toNat ∧ first.toNat ≤ 90 := by simpa using upper
  have lower : lowerCharacter second = second := by
    rw [lowerCharacter, if_neg]
    simp
    omega
  have small : ∀ character : Char, character.toNat ≤ 127 → character.utf8Size = 1 := fun character narrow =>
    Char.utf8Size_eq_one_iff.mpr (UInt32.le_iff_toNat_le.mpr narrow)
  refine ⟨?_, ?_, ?_, ?_⟩
  · rw [lower, lowerCharacter, if_pos upper, ← shifted, Char.ofNat_toNat]
  · rw [small first (by omega), small second (by omega)]
  · rintro rfl
    exact absurd bounds.1 (by decide)
  · rintro rfl
    have zero : ('\x00' : Char).toNat = 0 := rfl
    omega

theorem AsciiCaseChange.same (change : AsciiCaseChange left right) :
    (toAsciiLowercase left).toList = (toAsciiLowercase right).toList ∧
      utf8Length left.toList = utf8Length right.toList ∧
      ('\x00' ∈ left.toList ↔ '\x00' ∈ right.toList) := by
  rw [toList_toAsciiLowercase, toList_toAsciiLowercase]
  rw [AsciiCaseChange] at change
  generalize left.toList = lefts at change ⊢
  generalize right.toList = rights at change ⊢
  induction change with
  | nil => exact ⟨rfl, rfl, Iff.rfl⟩
  | @cons first second firsts seconds letter _ ih =>
    have same : lowerCharacter first = lowerCharacter second ∧ first.utf8Size = second.utf8Size ∧
        (first = '\x00' ↔ second = '\x00') := by
      rcases letter with rfl | ⟨upper, shifted⟩ | ⟨upper, shifted⟩
      · exact ⟨rfl, rfl, Iff.rfl⟩
      · obtain ⟨lower, size, firstNul, secondNul⟩ := lowerCharacter_eq upper shifted
        exact ⟨lower, size, iff_of_false firstNul secondNul⟩
      · obtain ⟨lower, size, firstNul, secondNul⟩ := lowerCharacter_eq upper shifted
        exact ⟨lower.symm, size.symm, iff_of_false secondNul firstNul⟩
    obtain ⟨lowers, lengths, nul⟩ := ih
    refine ⟨?_, ?_, ?_⟩
    · rw [List.map_cons, List.map_cons, same.1, lowers]
    · rw [utf8Length, utf8Length] at lengths ⊢
      rw [List.map_cons, List.map_cons, List.sum_cons, List.sum_cons, same.2.1, lengths]
    · rw [List.mem_cons, List.mem_cons, nul]
      exact or_congr_left (eq_comm.trans (same.2.2.trans eq_comm))

end Cases

/-- The findings of the detectors that look at the lowercase text, or at nothing that the case changes. -/
def ignoresCase : InformationFlowFinding → Bool
  | .inspectionBoundExceeded | .controlCharacter | .externalHandle | .privateKeyMaterial | .authorizationMaterial
  | .credentialAssignment => true
  | .credentialPrefix | .signedToken => false

theorem detectSensitiveText_isSome_iff {text : String} : (detectSensitiveText text).isSome ↔
    maxInformationFlowTextBytes < utf8Length text.toList ∨ '\x00' ∈ text.toList ∨
      containsExternalHandle (toAsciiLowercase text).toList ∨ containsPrivateKey (toAsciiLowercase text).toList ∨
      containsAuthorization (toAsciiLowercase text).toList ∨
      containsCredentialAssignment (toAsciiLowercase text).toList ∨ containsCredentialPrefix text.toList ∨
      (text.toList.splitOnP endsSigned).any looksLikeJwt := by
  rw [detectSensitiveText]
  split_ifs <;> simp_all

/-- A flagged text stays flagged between other lines, and the handle, key, authorization and assignment detectors
ignore the case of letters. -/
theorem secret_detection_undiluted :
    (∀ before text behind : String, (detectSensitiveText text).isSome →
      (detectSensitiveText (before ++ "\n" ++ text ++ "\n" ++ behind)).isSome) ∧
    ∀ text changed : String, AsciiCaseChange text changed →
      containsExternalHandle (toAsciiLowercase text).toList =
        containsExternalHandle (toAsciiLowercase changed).toList ∧
      containsPrivateKey (toAsciiLowercase text).toList = containsPrivateKey (toAsciiLowercase changed).toList ∧
      containsAuthorization (toAsciiLowercase text).toList =
        containsAuthorization (toAsciiLowercase changed).toList ∧
      containsCredentialAssignment (toAsciiLowercase text).toList =
        containsCredentialAssignment (toAsciiLowercase changed).toList ∧
      ∀ finding, ignoresCase finding →
        (detectSensitiveText text = some finding ↔ detectSensitiveText changed = some finding) := by
  constructor
  · intro before text behind flagged
    have lines : (before ++ "\n" ++ text ++ "\n" ++ behind).toList =
        before.toList ++ '\n' :: (text.toList ++ '\n' :: behind.toList) := by
      simp [String.toList_append]
    have lowered : (toAsciiLowercase (before ++ "\n" ++ text ++ "\n" ++ behind)).toList =
        (toAsciiLowercase before).toList ++ '\n' :: ((toAsciiLowercase text).toList ++
          '\n' :: (toAsciiLowercase behind).toList) := by
      have newline : lowerCharacter '\n' = '\n' := by decide
      simp only [toList_toAsciiLowercase, lines, List.map_append, List.map_cons, newline]
    obtain ⟨handle, key, authorization, assignment⟩ := undiluted_lowercase
    have credential : Undiluted containsCredentialPrefix := Undiluted.tokens (by decide)
    have signed : Undiluted fun text => (text.splitOnP endsSigned).any looksLikeJwt := Undiluted.tokens (by decide)
    rw [detectSensitiveText_isSome_iff] at flagged ⊢
    rw [lowered, lines]
    refine flagged.imp ?_ (Or.imp ?_ (Or.imp (handle _ _ _) (Or.imp (key _ _ _) (Or.imp (authorization _ _ _)
      (Or.imp (assignment _ _ _) (Or.imp (credential _ _ _) (signed _ _ _)))))))
    · intro long
      refine long.trans_le ?_
      simp only [utf8Length, List.map_append, List.map_cons, List.sum_append, List.sum_cons]
      omega
    · intro nul
      simp [nul]
  · intro text changed change
    obtain ⟨lower, lengths, nul⟩ := change.same
    refine ⟨by rw [lower], by rw [lower], by rw [lower], by rw [lower], fun finding ignores => ?_⟩
    rw [detectSensitiveText, detectSensitiveText, lower, lengths]
    simp only [nul]
    -- Up to the detectors that depend on the case, both scans take the same branch.
    split_ifs <;> first | rfl | (cases finding <;> simp_all [ignoresCase])

section Sample

/-- An assigned password is flagged inside of a longer text, and in capitals. -/
theorem secret_detection_undiluted_sample :
    (detectSensitiveText ("notes" ++ "\n" ++ "password=x" ++ "\n" ++ "more")).isSome ∧
    containsCredentialAssignment (toAsciiLowercase "password=x").toList =
      containsCredentialAssignment (toAsciiLowercase "PASSWORD=x").toList := by
  have flagged : (detectSensitiveText "password=x").isSome := by decide +kernel
  have change : AsciiCaseChange "password=x" "PASSWORD=x" := by
    simp only [AsciiCaseChange]
    decide
  exact ⟨secret_detection_undiluted.1 _ _ _ flagged, (secret_detection_undiluted.2 _ _ change).2.2.2.1⟩

end Sample

end AgentMod
