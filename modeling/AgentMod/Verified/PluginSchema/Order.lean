import AgentMod.Verified.PluginSchema.Equality
import AgentMod.Verified.PluginSchema.Value

/-! Schemas mean the same in whatever order the members of objects stand. -/

namespace AgentMod

open Json

section Members

variable {left right : Json} {members others : List (String × Json)}

theorem Json.Alike.reversed (alike : Reorders left right) : Reorders right left :=
  alike.symm fun _ _ => Eq.symm

theorem equal_reordered {left' right' : Json} (first : Reorders left left') (second : Reorders right right')
    (keyed : left.Keyed) (keyed' : left'.Keyed) (keyedRight : right.Keyed) (reorderedRight : right'.Keyed)
    (equals : left.equal right) : left'.equal right' := by
  have numbers : ∀ first second : Number, first = second → first.equal second := by
    rintro first _ rfl
    exact first.equal_refl
  have transitive : ∀ first second third : Number, first.equal second → second.equal third →
      first.equal third := fun _ _ _ => Number.equal_trans
  rw [equal_iff keyed' reorderedRight]
  exact ((first.reversed.mono numbers).trans transitive ((equal_iff keyed keyedRight).mp equals)).trans
    transitive (second.mono numbers)

theorem lookup_reordered (reorders : Reorders (.object members) (.object others)) {key : String}
    {value : Json} (found : others.lookup key = some value) :
    ∃ original, members.lookup key = some original ∧ Reorders original value := by
  cases reorders with
  | object keys each =>
    obtain ⟨original, finds⟩ := lookup_isSome.mpr (keys.symm.subset (lookup_isSome.mp ⟨value, found⟩))
    exact ⟨original, finds, each key original value finds found⟩

theorem mem_keys_reordered (reorders : Reorders (.object members) (.object others)) {key : String} :
    key ∈ keysOf others ↔ key ∈ keysOf members := by
  cases reorders with
  | object keys each => exact keys.symm.mem_iff

theorem reorders_string {text : String} : Reorders left (.string text) ↔ left = .string text :=
  ⟨fun | .string => rfl, fun same => by rw [same]; exact .string⟩

theorem reorders_bool {value : Bool} : Reorders left (.bool value) ↔ left = .bool value :=
  ⟨fun | .bool => rfl, fun same => by rw [same]; exact .bool⟩

theorem reorders_number {number : Number} : Reorders left (.number number) ↔ left = .number number :=
  ⟨fun | .number same => by rw [same], fun same => by rw [same]; exact .number rfl⟩

theorem array_of_reorders {items : List Json} (reorders : Reorders left (.array items)) :
    ∃ originals, left = .array originals ∧ originals.length = items.length ∧
      ∀ (index : Nat) (item other : Json), originals[index]? = some item → items[index]? = some other →
        Reorders item other := by
  cases reorders with
  | array length each => exact ⟨_, rfl, length, each⟩

theorem object_of_reorders (reorders : Reorders left (.object others)) :
    ∃ members, left = .object members := by
  cases reorders
  exact ⟨_, rfl⟩

theorem item_of_reorders {items : List Json} (reorders : Reorders left (.array items)) {item : Json}
    (inside : item ∈ items) : ∃ originals original, left = .array originals ∧ original ∈ originals ∧
      Reorders original item := by
  obtain ⟨originals, rfl, length, each⟩ := array_of_reorders reorders
  obtain ⟨index, found⟩ := List.mem_iff_getElem?.mp inside
  have within := (List.getElem?_eq_some_iff.mp found).1
  rw [← length] at within
  have finds := List.getElem?_eq_getElem within
  exact ⟨originals, _, rfl, List.mem_of_getElem? finds, each index _ item finds found⟩

theorem reorders_strings {names : List String} (reorders : Reorders (.array (names.map .string)) right) :
    right = .array (names.map .string) := by
  obtain ⟨items, rfl, length, each⟩ := array_of_reorders reorders.reversed
  refine congrArg Json.array (List.ext_getElem length fun index within within' => ?_)
  have found := List.getElem?_eq_getElem within'
  have same := each index _ _ (List.getElem?_eq_getElem within) found
  rw [List.getElem_map] at same ⊢
  exact reorders_string.mp same

theorem applies_reordered (reorders : Reorders (.object members) (.object others)) {keyword : String}
    {types : List String} (applies : Applies members keyword types) : Applies others keyword types := by
  intro used
  obtain ⟨value, found⟩ := Option.isSome_iff_exists.mp used
  obtain ⟨original, finds, -⟩ := lookup_reordered reorders found
  obtain ⟨type, listed, typed⟩ := applies (Option.isSome_iff_exists.mpr ⟨original, finds⟩)
  obtain ⟨value, finds, same⟩ := lookup_reordered reorders.reversed typed
  exact ⟨type, listed, finds.trans (congrArg some (reorders_string.mp same))⟩

theorem isCount_reordered (reorders : Reorders left right) {count : Nat} (counts : IsCount right count) :
    IsCount left count := by
  obtain ⟨number, rfl, counted⟩ := counts
  exact ⟨number, reorders_number.mp reorders, counted⟩

theorem HasType.reordered {name : String} (typed : HasType name left) (reorders : Reorders left right) :
    HasType name right := by
  cases typed with
  | natural count => cases reorders with | number same => exact same ▸ .natural count
  | integer integer => cases reorders with | number same => exact same ▸ .integer integer
  | _ => cases reorders; constructor

variable [DoubleText]

/-- The keywords of a reordered schema are well-formed. -/
theorem Declaration.reordered (declaration : Declaration members)
    (reorders : Reorders (.object members) (.object others)) (keyed : (Json.object members).Keyed)
    (keyed' : (Json.object others).Keyed) : Declaration others where
  keywords keyword inside := declaration.keywords keyword ((mem_keys_reordered reorders).mp inside)
  type value found := by
    obtain ⟨original, finds, same⟩ := lookup_reordered reorders found
    obtain ⟨name, known, rfl⟩ := declaration.type original finds
    exact ⟨name, known, reorders_string.mp same.reversed⟩
  onObjects keyword inside := applies_reordered reorders (declaration.onObjects keyword inside)
  onArrays keyword inside := applies_reordered reorders (declaration.onArrays keyword inside)
  onStrings keyword inside := applies_reordered reorders (declaration.onStrings keyword inside)
  onNumbers keyword inside := applies_reordered reorders (declaration.onNumbers keyword inside)
  enum value found := by
    obtain ⟨original, finds, same⟩ := lookup_reordered reorders found
    obtain ⟨allowed, rfl, nonempty, apart⟩ := declaration.enum original finds
    obtain ⟨items, rfl, length, each⟩ := array_of_reorders same.reversed
    refine ⟨items, rfl, fun empty => nonempty ?_, ?_⟩
    · rw [empty, List.length_nil] at length
      exact List.eq_nil_of_length_eq_zero length.symm
    · rw [List.pairwise_iff_getElem] at apart ⊢
      intro first second within within' before equals
      have keyed_ : ∀ {item}, item ∈ allowed → item.Keyed := fun inside => (keyed.lookup finds).child inside
      have keyed_' : ∀ {item}, item ∈ items → item.Keyed := fun inside => (keyed'.lookup found).child inside
      have within_ : first < allowed.length := by omega
      have within_' : second < allowed.length := by omega
      refine apart first second within_ within_' before (equal_reordered
        (each first _ _ (List.getElem?_eq_getElem within) (List.getElem?_eq_getElem within_))
        (each second _ _ (List.getElem?_eq_getElem within') (List.getElem?_eq_getElem within_'))
        (keyed_' (List.getElem_mem _)) (keyed_ (List.getElem_mem _)) (keyed_' (List.getElem_mem _))
        (keyed_ (List.getElem_mem _)) equals)
  properties value found := by
    obtain ⟨original, finds, same⟩ := lookup_reordered reorders found
    obtain ⟨entries, rfl⟩ := declaration.properties original finds
    exact object_of_reorders same.reversed
  required value found := by
    obtain ⟨original, finds, same⟩ := lookup_reordered reorders found
    obtain ⟨fields, rfl, distinct, absent⟩ := declaration.required original finds
    exact ⟨fields, reorders_strings same, distinct, absent⟩
  additional value found := by
    obtain ⟨original, finds, same⟩ := lookup_reordered reorders found
    obtain ⟨allow, rfl⟩ := declaration.additional original finds
    exact ⟨allow, reorders_bool.mp same.reversed⟩
  counts keyword inside value found := by
    obtain ⟨original, finds, same⟩ := lookup_reordered reorders found
    obtain ⟨count, counts⟩ := declaration.counts keyword inside original finds
    exact ⟨count, isCount_reordered same.reversed counts⟩
  lengths least most minimum maximum found found' counts counts' := by
    obtain ⟨original, finds, same⟩ := lookup_reordered reorders found
    obtain ⟨original', finds', same'⟩ := lookup_reordered reorders found'
    exact declaration.lengths original original' minimum maximum finds finds'
      (isCount_reordered same counts) (isCount_reordered same' counts')
  bounds keyword inside value found := by
    obtain ⟨original, finds, same⟩ := lookup_reordered reorders found
    obtain ⟨number, rfl, comparable⟩ := declaration.bounds keyword inside original finds
    exact ⟨number, reorders_number.mp same.reversed, comparable⟩
  ordered minimum maximum found found' := by
    obtain ⟨original, finds, same⟩ := lookup_reordered reorders found
    obtain ⟨original', finds', same'⟩ := lookup_reordered reorders found'
    cases reorders_number.mp same
    cases reorders_number.mp same'
    exact declaration.ordered minimum maximum finds finds'

theorem Declares.reordered (declares : Declares left) (reorders : Reorders left right)
    (keyed : left.Keyed) (keyed' : right.Keyed) : Declares right := by
  induction declares generalizing right with
  | @intro members declaration _ _ propertiesHold itemsHold =>
    obtain ⟨others, rfl⟩ := object_of_reorders reorders.reversed
    refine .intro (declaration.reordered reorders keyed keyed') ?_ ?_
    · intro entries found entry inside
      obtain ⟨original, finds, same⟩ := lookup_reordered reorders found
      obtain ⟨originals, rfl⟩ := object_of_reorders same
      have distinct := (keyed'.lookup found).distinct
      obtain ⟨schema, listed, alike⟩ := lookup_reordered same (lookup_of_mem distinct inside)
      exact propertiesHold originals finds _ (mem_of_lookup listed) alike
        ((keyed.lookup finds).lookup listed) ((keyed'.lookup found).child (List.mem_map_of_mem inside))
    · intro value found
      obtain ⟨original, finds, same⟩ := lookup_reordered reorders found
      exact itemsHold original finds same (keyed.lookup finds) (keyed'.lookup found)

/-- What a schema asks of the values of a kind does not depend on the order of members. -/
theorem ConstrainsKind.reordered {value other : Json} (constrains : ConstrainsKind members value)
    (reorders : Reorders (.object members) (.object others)) (reorders' : Reorders value other) :
    ConstrainsKind others other := by
  cases reorders' with
  | null => trivial
  | bool => trivial
  | number same =>
    subst same
    refine ⟨fun minimum found => ?_, fun maximum found => ?_⟩
    · obtain ⟨original, finds, alike⟩ := lookup_reordered reorders found
      cases reorders_number.mp alike
      exact constrains.1 minimum finds
    · obtain ⟨original, finds, alike⟩ := lookup_reordered reorders found
      cases reorders_number.mp alike
      exact constrains.2 maximum finds
  | string =>
    refine ⟨fun least minimum found counts => ?_, fun most maximum found counts => ?_⟩
    · obtain ⟨original, finds, alike⟩ := lookup_reordered reorders found
      exact constrains.1 original minimum finds (isCount_reordered alike counts)
    · obtain ⟨original, finds, alike⟩ := lookup_reordered reorders found
      exact constrains.2 original maximum finds (isCount_reordered alike counts)
  | array length each =>
    intro most maximum found counts
    obtain ⟨original, finds, alike⟩ := lookup_reordered reorders found
    exact length ▸ constrains original maximum finds (isCount_reordered alike counts)
  | object keys each =>
    refine ⟨fun fields found field inside => ?_, fun found key inside => ?_⟩
    · obtain ⟨original, finds, alike⟩ := lookup_reordered reorders found
      obtain ⟨originals, rfl⟩ := array_of_reorders alike |>.imp fun _ => And.left
      obtain ⟨_, listed, same, inside', alike'⟩ := item_of_reorders alike inside
      cases same
      cases reorders_string.mp alike'
      exact keys.mem_iff.mp (constrains.1 originals finds field inside')
    · obtain ⟨original, finds, alike⟩ := lookup_reordered reorders found
      cases reorders_bool.mp alike
      obtain ⟨properties, declared, listed⟩ := constrains.2 finds key (keys.mem_iff.mpr inside)
      obtain ⟨reordered, declares, alike'⟩ := lookup_reordered reorders.reversed declared
      obtain ⟨properties', rfl⟩ := object_of_reorders alike'
      exact ⟨properties', declares, (mem_keys_reordered alike').mp listed⟩

theorem Conforms.reordered {value other : Json} (conforms : Conforms members value)
    (reorders : Reorders (.object members) (.object others)) (reorders' : Reorders value other)
    (keyed : (Json.object members).Keyed) (keyed' : (Json.object others).Keyed)
    (keyedValue : value.Keyed) (keyedOther : other.Keyed) : Conforms others other where
  type name found := by
    obtain ⟨original, finds, alike⟩ := lookup_reordered reorders found
    cases reorders_string.mp alike
    exact (conforms.type name finds).reordered reorders'
  enum allowed found := by
    obtain ⟨original, finds, alike⟩ := lookup_reordered reorders found
    obtain ⟨originals, rfl⟩ := array_of_reorders alike |>.imp fun _ => And.left
    obtain ⟨candidate, inside, equals⟩ := conforms.enum originals finds
    obtain ⟨items, reordered, same, inside', alike'⟩ := item_of_reorders alike.reversed inside
    cases same
    exact ⟨reordered, inside', equal_reordered alike'.reversed reorders' ((keyed.lookup finds).child inside)
      ((keyed'.lookup found).child inside') keyedValue keyedOther equals⟩
  kind := conforms.kind.reordered reorders reorders'

theorem Satisfies.reordered {schema value other : Json} (satisfies : Satisfies schema value)
    (reorders : Reorders schema right) (reorders' : Reorders value other) (keyed : schema.Keyed)
    (keyed' : right.Keyed) (keyedValue : value.Keyed) (keyedOther : other.Keyed) :
    Satisfies right other := by
  induction satisfies generalizing right other with
  | @intro members value conforms _ _ propertiesHold itemsHold =>
    obtain ⟨others, rfl⟩ := object_of_reorders reorders.reversed
    refine .intro (conforms.reordered reorders reorders' keyed keyed' keyedValue keyedOther) ?_ ?_
    · rintro properties entries found rfl key nested below declares inside
      obtain ⟨original, finds, same⟩ := lookup_reordered reorders found
      obtain ⟨originals, rfl⟩ := object_of_reorders same
      obtain ⟨entries', rfl⟩ := object_of_reorders reorders'
      obtain ⟨schema, listed, alike⟩ := lookup_reordered same declares
      obtain ⟨value, has, alike'⟩ := lookup_reordered reorders' inside
      exact propertiesHold originals entries' finds rfl key schema value listed has alike alike'
        ((keyed.lookup finds).lookup listed) ((keyed'.lookup found).lookup declares)
        (keyedValue.lookup has) (keyedOther.lookup inside)
    · rintro nested array found rfl item inside
      obtain ⟨original, finds, same⟩ := lookup_reordered reorders found
      obtain ⟨items, value, rfl, inside', alike⟩ := item_of_reorders reorders' inside
      exact itemsHold original items finds rfl value inside' same alike (keyed.lookup finds)
        (keyed'.lookup found) (keyedValue.child inside') (keyedOther.child inside)

end Members

end AgentMod
