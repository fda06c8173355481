import AgentMod.Verified.PluginSchema.Tree

/-! Equality of JSON values up to the order of object members. -/

namespace AgentMod

namespace Number

/-- A double that is one of the two zeros. -/
def IsZero : Number → Prop
  | float bits _ => bits <<< 1 = 0
  | _ => False

theorem equal_iff {left right : Number} :
    left.equal right ↔ left = right ∨ left.IsZero ∧ right.IsZero := by
  cases left <;> cases right <;> simp [equal, IsZero]

theorem equal_refl (number : Number) : number.equal number := equal_iff.mpr (.inl rfl)

theorem equal_trans {left right third : Number} (first : left.equal right)
    (second : right.equal third) : left.equal third := by
  rw [equal_iff] at first second ⊢
  rcases first with rfl | ⟨zero, zero'⟩
  · exact second
  · rcases second with rfl | ⟨-, zero''⟩
    · exact .inr ⟨zero, zero'⟩
    · exact .inr ⟨zero, zero''⟩

end Number

namespace Json

variable {value left right third : Json} {same other : Number → Number → Prop}

theorem Alike.refl (reflexive : ∀ number, same number number) (value : Json) : Alike same value value := by
  induction value using childInduction with
  | step value ih =>
    cases value with
    | null => exact .null
    | bool => exact .bool
    | number number => exact .number (reflexive number)
    | string => exact .string
    | array items =>
      refine .array rfl fun index item other found finds => ?_
      cases found.symm.trans finds
      exact ih item (List.mem_of_getElem? found)
    | object entries =>
      refine .object (.refl _) fun key item other found finds => ?_
      cases found.symm.trans finds
      exact ih item (mem_children_of_lookup found)

theorem Alike.symm (symmetric : ∀ first second, same first second → same second first)
    (alike : Alike same left right) : Alike same right left := by
  induction alike with
  | null => exact .null
  | bool => exact .bool
  | number numbers => exact .number (symmetric _ _ numbers)
  | string => exact .string
  | array length _ ih =>
    exact .array length.symm fun index item other found finds => ih index other item finds found
  | object keys _ ih =>
    exact .object keys.symm fun key item other found finds => ih key other item finds found

theorem Alike.trans (transitive : ∀ first second third, same first second → same second third →
    same first third) (first : Alike same left right) (second : Alike same right third) :
    Alike same left third := by
  induction first generalizing third with
  | null => exact second
  | bool => exact second
  | number numbers =>
    cases second with
    | number others => exact .number (transitive _ _ _ numbers others)
  | string => exact second
  | array length _ ih =>
    cases second with
    | array length' each =>
      refine .array (length.trans length') fun index item other found finds => ?_
      have within := (List.getElem?_eq_some_iff.mp finds).1
      rw [← length'] at within
      have between := List.getElem?_eq_getElem within
      exact ih index item _ found between (each index _ other between finds)
  | object keys _ ih =>
    cases second with
    | object keys' each =>
      refine .object (keys.trans keys') fun key item other found finds => ?_
      obtain ⟨between, inside⟩ := lookup_isSome.mpr (keys.subset (lookup_isSome.mp ⟨item, found⟩))
      exact ih key item between found inside (each key between other inside finds)

theorem Alike.mono (weaker : ∀ first second, same first second → other first second)
    (alike : Alike same left right) : Alike other left right := by
  induction alike with
  | null => exact .null
  | bool => exact .bool
  | number numbers => exact .number (weaker _ _ numbers)
  | string => exact .string
  | array length _ ih => exact .array length ih
  | object keys _ ih => exact .object keys ih

theorem itemsEqual_iff {items others : List Json} : itemsEqual items others ↔
    items.length = others.length ∧ ∀ (index : Nat) (item other : Json), items[index]? = some item →
      others[index]? = some other → item.equal other := by
  induction items generalizing others with
  | nil => cases others <;> simp [itemsEqual]
  | cons item rest ih =>
    cases others with
    | nil => simp [itemsEqual]
    | cons other more =>
      rw [itemsEqual, Bool.and_eq_true, ih, List.length_cons, List.length_cons, Nat.add_right_cancel_iff]
      constructor
      · rintro ⟨first, length, each⟩
        refine ⟨length, fun index => ?_⟩
        cases index with
        | zero => simpa using first
        | succ index => simpa using each index
      · rintro ⟨length, each⟩
        exact ⟨each 0 item other rfl rfl, length, fun index item other found finds =>
          each (index + 1) item other (by simpa using found) (by simpa using finds)⟩

theorem entriesIncluded_iff {entries others : List (String × Json)} : entriesIncluded entries others ↔
    ∀ entry ∈ entries, ∃ other, others.lookup entry.1 = some other ∧ entry.2.equal other := by
  induction entries with
  | nil => simp [entriesIncluded]
  | cons entry rest ih =>
    obtain ⟨key, value⟩ := entry
    rw [entriesIncluded, Bool.and_eq_true, ih, List.forall_mem_cons, Option.any_eq_true]

/-- Equality is likeness up to equal numbers. -/
theorem equal_iff (keyed : Keyed left) (keyed' : Keyed right) :
    left.equal right ↔ Alike (fun first second => first.equal second) left right := by
  induction left using childInduction generalizing right with
  | step left ih =>
    cases left with
    | null => cases right <;> simp [equal] <;> first | exact .null | exact nofun
    | bool first =>
      constructor
      · intro equals
        cases right <;> simp [equal] at equals
        exact equals ▸ .bool
      · rintro ⟨⟩
        simp [equal]
    | number first =>
      constructor
      · intro equals
        cases right <;> simp [equal] at equals
        exact .number equals
      · rintro ⟨⟩
        assumption
    | string first =>
      constructor
      · intro equals
        cases right <;> simp [equal] at equals
        exact equals ▸ .string
      · rintro ⟨⟩
        simp [equal]
    | array items =>
      constructor
      · intro equals
        cases right with
        | array others =>
          obtain ⟨length, each⟩ := itemsEqual_iff.mp equals
          refine .array length fun index item other found finds => ?_
          have inside := List.mem_of_getElem? found
          have there := List.mem_of_getElem? finds
          exact (ih item inside (keyed.child inside) (keyed'.child there)).mp
            (each index item other found finds)
        | _ => cases equals
      · rintro (_ | _ | _ | _ | ⟨length, each⟩)
        refine itemsEqual_iff.mpr ⟨length, fun index item other found finds => ?_⟩
        have inside := List.mem_of_getElem? found
        have there := List.mem_of_getElem? finds
        exact (ih item inside (keyed.child inside) (keyed'.child there)).mpr
          (each index item other found finds)
    | object entries =>
      constructor
      · intro equals
        cases right with
        | object others =>
          rw [equal, Bool.and_eq_true, beq_iff_eq, entriesIncluded_iff] at equals
          obtain ⟨length, each⟩ := equals
          have subset : keysOf entries ⊆ keysOf others := by
            intro key inside
            obtain ⟨entry, there, rfl⟩ := List.mem_map.mp inside
            obtain ⟨other, found, -⟩ := each entry there
            exact lookup_isSome.mp ⟨other, found⟩
          have keys : (keysOf entries).Perm (keysOf others) :=
            (List.subperm_of_subset keyed.distinct subset).perm_of_length_le
              (by simp [keysOf, length])
          refine .object keys fun key item other found finds => ?_
          obtain ⟨other', finds', same⟩ := each (key, item) (mem_of_lookup found)
          cases finds.symm.trans finds'
          exact (ih item (mem_children_of_lookup found) (keyed.lookup found) (keyed'.lookup finds)).mp same
        | _ => cases equals
      · intro alike
        cases alike with
        | @object _ others keys each =>
          rw [equal, Bool.and_eq_true, beq_iff_eq, entriesIncluded_iff]
          refine ⟨by simpa [keysOf] using keys.length_eq, fun entry inside => ?_⟩
          have found : entries.lookup entry.1 = some entry.2 := lookup_of_mem keyed.distinct inside
          obtain ⟨other, finds⟩ := lookup_isSome.mpr (keys.subset (lookup_isSome.mp ⟨_, found⟩))
          exact ⟨other, finds, (ih entry.2 (mem_children_of_lookup found) (keyed.lookup found)
            (keyed'.lookup finds)).mpr (each _ _ _ found finds)⟩

theorem sum_items_eq {items others : List Json} (length : items.length = others.length)
    (measure : Json → Nat) (each : ∀ (index : Nat) (item other : Json), items[index]? = some item →
      others[index]? = some other → measure item = measure other) :
    (items.map measure).sum = (others.map measure).sum := by
  refine congrArg List.sum (List.ext_getElem (by simpa using length) fun index within within' => ?_)
  rw [List.getElem_map, List.getElem_map]
  rw [List.length_map] at within within'
  exact each index _ _ (List.getElem?_eq_getElem within) (List.getElem?_eq_getElem within')

theorem Alike.nodes (alike : Alike same left right) (keyed : Keyed left) (keyed' : Keyed right) :
    left.nodes = right.nodes := by
  induction alike with
  | array length _ ih =>
    rw [Json.nodes, Json.nodes, itemNodes_eq, itemNodes_eq]
    refine congrArg (1 + ·) (sum_items_eq length Json.nodes fun index item other found finds => ?_)
    exact ih index item other found finds (keyed.child (List.mem_of_getElem? found))
      (keyed'.child (List.mem_of_getElem? finds))
  | object keys _ ih =>
    rw [Json.nodes, Json.nodes, entryNodes_eq, entryNodes_eq]
    refine congrArg (1 + ·) (sum_measure_eq keyed.distinct keyed'.distinct keys
      (fun _ value => value.nodes) fun key item other found finds => ?_)
    exact ih key item other found finds (keyed.lookup found) (keyed'.lookup finds)
  | _ => rfl

theorem Alike.child (alike : Alike same left right) (keyed : Keyed left) {child : Json}
    (below : child ∈ left.children) : ∃ other ∈ right.children, Alike same child other := by
  cases alike with
  | @array items others length each =>
    obtain ⟨index, found⟩ := List.mem_iff_getElem?.mp (show child ∈ items from below)
    have within := (List.getElem?_eq_some_iff.mp found).1
    rw [length] at within
    have finds := List.getElem?_eq_getElem within
    exact ⟨_, List.mem_of_getElem? finds, each index child _ found finds⟩
  | object keys each =>
    obtain ⟨entry, inside, rfl⟩ := List.mem_map.mp below
    have found := lookup_of_mem keyed.distinct (show (entry.1, entry.2) ∈ _ from inside)
    obtain ⟨other, finds⟩ := lookup_isSome.mpr (keys.subset (lookup_isSome.mp ⟨_, found⟩))
    exact ⟨other, mem_children_of_lookup finds, each _ _ _ found finds⟩
  | _ => cases below

theorem Alike.height_le {levels : Nat}
    (symmetric : ∀ first second, same first second → same second first) (alike : Alike same left right)
    (keyed : Keyed left) (keyed' : Keyed right) (bounded : left.height ≤ levels) :
    right.height ≤ levels := by
  induction left using childInduction generalizing right levels with
  | step left ih =>
    rw [height_le_iff] at bounded ⊢
    intro other below
    obtain ⟨child, inside, related⟩ := (alike.symm symmetric).child keyed' below
    have lower := bounded child inside
    have levels' : levels = levels - 1 + 1 := by omega
    rw [levels']
    exact Nat.succ_le_succ (ih child inside (related.symm symmetric) (keyed.child inside)
      (keyed'.child below) (by omega))

variable [DoubleText]

theorem itemsLength_eq {items : List Json} : itemsLength items = (items.map encodedLength).sum := by
  induction items with
  | nil => rfl
  | cons item rest ih => rw [itemsLength, ih, List.map_cons, List.sum_cons]

theorem entriesLength_eq {entries : List (String × Json)} : entriesLength entries =
    (entries.map fun entry => encodedTextLength entry.1 + 1 + entry.2.encodedLength).sum := by
  induction entries with
  | nil => rfl
  | cons entry rest ih =>
    obtain ⟨key, value⟩ := entry
    rw [entriesLength, ih, List.map_cons, List.sum_cons]

theorem Alike.encodedLength (alike : Reorders left right) (keyed : Keyed left) (keyed' : Keyed right) :
    left.encodedLength = right.encodedLength := by
  induction alike with
  | number numbers => rw [numbers]
  | array length _ ih =>
    rw [Json.encodedLength, Json.encodedLength, itemsLength_eq, itemsLength_eq, length]
    refine congrArg (_ + ·) (sum_items_eq length Json.encodedLength fun index item other found finds => ?_)
    exact ih index item other found finds (keyed.child (List.mem_of_getElem? found))
      (keyed'.child (List.mem_of_getElem? finds))
  | object keys _ ih =>
    have length := keys.length_eq
    rw [List.length_map, List.length_map] at length
    rw [Json.encodedLength, Json.encodedLength, entriesLength_eq, entriesLength_eq, length]
    refine congrArg (_ + ·) (sum_measure_eq keyed.distinct keyed'.distinct keys
      (fun key value => encodedTextLength key + 1 + value.encodedLength)
      fun key item other found finds => ?_)
    rw [ih key item other found finds (keyed.lookup found) (keyed'.lookup finds)]
  | _ => rfl

end Json

end AgentMod
