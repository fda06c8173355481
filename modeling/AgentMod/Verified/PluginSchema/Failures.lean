import AgentMod.Verified.PluginSchema.Value

/-! Schemas fail as declarations, and values under well-formed ones fail as values. -/

namespace AgentMod

section Declarations

variable {members : List (String × Json)} {keyword : String} {value : Json}

theorem countNode_fails {visited : Nat} {error : PluginSchemaValidationError} :
    FailsWith error (countNode visited error) := .bind .refuseIf fun _ _ => .ok

theorem schemaMembers_fails : FailsWith .invalidDeclaration (schemaMembers value) := by
  cases value with
  | object members => exact .bind .refuseIf fun _ _ => .ok
  | _ => exact .error

theorem expectedType_fails : FailsWith .invalidDeclaration (expectedType members) := by
  rw [expectedType]
  split
  · exact .ok
  · exact .bind .refuseIf fun _ _ => .ok
  · exact .error

theorem validateKeywordApplicability_fails {expected : Option String} :
    FailsWith .invalidDeclaration (validateKeywordApplicability members expected) :=
  .bind .refuseIf fun _ _ => .bind .refuseIf fun _ _ => .bind .refuseIf fun _ _ => .refuseIf

theorem allowedValues_fails : FailsWith .invalidDeclaration (allowedValues members) := by
  rw [allowedValues]
  split
  · exact .ok
  · exact .bind .refuseIf fun _ _ => .ok
  · exact .error

theorem requiredFields_fails {seen : List String} {required : List Json} :
    FailsWith .invalidDeclaration (requiredFields seen required) := by
  induction required generalizing seen with
  | nil => exact .ok
  | cons name rest ih =>
    cases name with
    | string field => exact .bind .refuseIf fun _ _ => ih
    | _ => exact .error

theorem validateRequired_fails : FailsWith .invalidDeclaration (validateRequired value) := by
  cases value with
  | array required => exact requiredFields_fails
  | _ => exact .error

theorem objectMembers_fails : FailsWith .invalidDeclaration (objectMembers value) := by
  cases value with
  | object members => exact .ok
  | _ => exact .error

theorem schemaBool_fails : FailsWith .invalidDeclaration (schemaBool value) := by
  cases value with
  | bool allow => exact .ok
  | _ => exact .error

theorem schemaU64_fails : FailsWith .invalidDeclaration (schemaU64 value) := by
  cases value with
  | number number => exact .okOr
  | _ => exact .error

theorem checkKeyword_fails {α : Type} {check : Json → SchemaCheck α}
    (fails : ∀ value, FailsWith .invalidDeclaration (check value)) :
    FailsWith .invalidDeclaration (checkKeyword members keyword check) := by
  rw [checkKeyword]
  split
  · exact .ok
  · exact (fails _).map

theorem visitProperties_fails {visit : Json → Nat → SchemaCheck Nat} {visited : Nat}
    (fails : ∀ schema visited, FailsWith .invalidDeclaration (visit schema visited)) :
    FailsWith .invalidDeclaration (visitProperties visit members visited) := by
  rw [visitProperties]
  split
  · exact .ok
  · exact .bind objectMembers_fails fun _ _ => .foldlM fun _ _ _ => fails _ _

theorem visitItems_fails {error : PluginSchemaValidationError} {visit : Json → Nat → SchemaCheck Nat}
    {visited : Nat} (fails : ∀ schema, members.lookup "items" = some schema →
      FailsWith error (visit schema visited)) :
    FailsWith error (visitItems visit members visited) := by
  rw [visitItems]
  split
  · exact .ok
  · exact fails _ ‹_›

variable [DoubleText]

theorem schemaNumber_fails : FailsWith .invalidDeclaration (schemaNumber value) := by
  cases value with
  | number number => exact .bind .ok fun _ _ => .bind .refuseIf fun _ _ => .ok
  | _ => exact .error

theorem validateSchemaDeclaration_fails {levels visited : Nat} :
    FailsWith .invalidDeclaration (validateSchemaDeclaration levels value visited) := by
  induction levels generalizing value visited with
  | zero => exact .error
  | succ levels ih =>
    rw [validateSchemaDeclaration]
    refine .bind countNode_fails fun _ _ => ?_
    refine .bind schemaMembers_fails fun _ _ => ?_
    refine .bind expectedType_fails fun _ _ => ?_
    refine .bind validateKeywordApplicability_fails fun _ _ => ?_
    refine .bind allowedValues_fails fun _ _ => ?_
    refine .bind (visitProperties_fails fun _ _ => ih) fun _ _ => ?_
    refine .bind (checkKeyword_fails fun _ => validateRequired_fails) fun _ _ => ?_
    refine .bind (checkKeyword_fails fun _ => schemaBool_fails) fun _ _ => ?_
    refine .bind (visitItems_fails fun _ _ => ih) fun _ _ => ?_
    refine .bind (checkKeyword_fails fun _ => schemaU64_fails) fun _ _ => ?_
    refine .bind (checkKeyword_fails fun _ => schemaU64_fails) fun _ _ => ?_
    refine .bind (checkKeyword_fails fun _ => schemaU64_fails) fun _ _ => ?_
    refine .bind .refuseIf fun _ _ => ?_
    refine .bind (checkKeyword_fails fun _ => schemaNumber_fails) fun _ _ => ?_
    refine .bind (checkKeyword_fails fun _ => schemaNumber_fails) fun _ _ => ?_
    exact .bind .refuseIf fun _ _ => .ok

end Declarations

theorem visitTree_fails {kind : Bool} {remaining : Nat} {stack : List (Json × Nat)} :
    FailsWith (schemaValidationError kind) (visitTree kind remaining stack) := by
  induction remaining generalizing stack with
  | zero =>
    cases stack with
    | nil => exact .ok
    | cons entry rest => exact .error
  | succ remaining ih =>
    cases stack with
    | nil => exact .ok
    | cons entry rest =>
      simp only [visitTree]
      split
      · exact .error
      · split
        · exact .error
        · exact ih

section Values

variable [DoubleText] {members : List (String × Json)} {schema value : Json} {levels visited : Nat}

/-- A value fails for its kind as a value, where what is below it does. -/
theorem validateKind_fails (declaration : Declaration members)
    {visit : Json → Json → Nat → SchemaCheck Nat}
    (properties : ∀ property ∈ declaredProperties members, ∀ nested visited,
      FailsWith .invalidValue (visit property.2 nested visited))
    (items : ∀ schema, members.lookup "items" = some schema → ∀ nested visited,
      FailsWith .invalidValue (visit schema nested visited)) :
    FailsWith .invalidValue (validateKind visit members value visited) := by
  cases value with
  | object object =>
    obtain ⟨declared, declares, same⟩ := declaration.declared
    obtain ⟨required, requires, -⟩ := checkKeyword_of (fun _ _ => validateRequired_eq_ok)
      declaration.required
    obtain ⟨additional, adds, -⟩ := checkKeyword_of (fun _ _ => schemaBool_eq_ok) declaration.additional
    rw [validateKind, validateObject, declares, requires, adds]
    refine .bind .ok fun _ returned => .bind .ok fun _ _ => .bind .refuseIf fun _ _ => .bind .ok fun _ _ =>
      .bind .refuseIf fun _ _ => .foldlM fun property inside before => ?_
    cases returned
    rw [same] at inside
    rw [visitMember]
    split
    · exact .ok
    · exact properties property inside _ _
  | array array =>
    obtain ⟨most, mosts, -⟩ := declaration.count "maxItems" (by simp) fun _ => true
    rw [validateKind, validateArray, mosts]
    exact .bind .ok fun _ _ => .bind .refuseIf fun _ _ => visitItems_fails fun schema found =>
      .foldlM fun _ _ _ => items schema found _ _
  | string text =>
    obtain ⟨least, leasts, -⟩ := declaration.count "minLength" (by simp) fun _ => true
    obtain ⟨most, mosts, -⟩ := declaration.count "maxLength" (by simp) fun _ => true
    rw [validateKind, validateText, leasts, mosts]
    exact .bind (.bind .ok fun _ _ => .bind .ok fun _ _ => .refuseIf) fun _ _ => .ok
  | number number =>
    obtain ⟨minimum, lows, -⟩ := declaration.bound "minimum" (by simp) fun _ => true
    obtain ⟨maximum, highs, -⟩ := declaration.bound "maximum" (by simp) fun _ => true
    rw [validateKind, validateNumericBounds, lows, highs]
    exact .bind (.bind .ok fun _ _ => .bind .ok fun _ _ => .refuseIf) fun _ _ => .ok
  | _ => exact .ok

theorem validateSchemaValue_fails (declares : Declares schema) :
    FailsWith .invalidValue (validateSchemaValue levels schema value visited) := by
  induction levels generalizing schema value visited with
  | zero => exact .error
  | succ levels ih =>
    obtain ⟨declaration, properties, items⟩ := declares
    obtain ⟨expected, expects⟩ := expectedType_isOk declaration.type
    obtain ⟨allowed, allows⟩ := allowedValues_isOk declaration.enum
    have applies := (validateKeywordApplicability_eq_ok (expectedType_eq_ok.mp expects).2).mpr
      ⟨declaration.onObjects, declaration.onArrays, declaration.onStrings, declaration.onNumbers⟩
    rw [validateSchemaValue, schemaMembers_eq_ok.mpr ⟨rfl, declaration.keywords⟩]
    refine .bind countNode_fails fun _ _ => .bind .ok fun _ same => ?_
    cases same
    rw [expects]
    refine .bind .ok fun _ same => ?_
    cases same
    rw [applies, allows]
    refine .bind .ok fun _ _ => .bind .refuseIf fun _ _ => .bind .ok fun _ _ => .bind .refuseIf fun _ _ => ?_
    refine validateKind_fails declaration (fun property inside nested visited => ?_)
      fun schema found nested visited => ih (items schema found)
    rw [declaredProperties] at inside
    split at inside
    · rename_i entries found
      exact ih (properties entries found property inside)
    · cases inside

end Values

end AgentMod
