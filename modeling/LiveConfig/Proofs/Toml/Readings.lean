import LiveConfig.Proofs.Toml.Values

/-!
Contract: a tree that is read as settings against the same tree read as a layer of settings.

Both readings see the same, with two exceptions: a layer takes signed words only, and dates and times are
texts in it. Owns: which trees are no layer, and node by node what the two readings have to do with each
other. Does not own: what settings make of values.
-/

namespace LiveConfig.Toml

/-- What a layer cannot hold: an integer that is no signed word, at any depth. -/
inductive Item.Unfit : Item → Prop
  | integer {number : Int} (beyond : ¬ (leastWord ≤ number ∧ number ≤ greatestWord)) :
      Unfit (.scalar (.integer number))
  | item {byHeaders : Bool} {items : List Item} {item : Item} (isItem : item ∈ items)
      (unfit : item.Unfit) : Unfit (.array byHeaders items)
  | member {origin : Origin} {members : Entries Item} {member : String × Item}
      (isMember : member ∈ members) (unfit : member.2.Unfit) : Unfit (.table origin members)

/-- A node with its value among settings and its value in a layer. -/
inductive Item.ReadTwice : (item : Item) → (value other : Value) → Prop
  | text (text : String) : ReadTwice (.text text) (.text text) (.text text)
  | boolean (truth : Bool) : ReadTwice (.scalar (.boolean truth)) (.boolean truth) (.boolean truth)
  | integer (number : Int) : ReadTwice (.scalar (.integer number)) (.integer number) (.integer number)
  | float (number : Binary64) : ReadTwice (.scalar (.float number)) (.float number) (.float number)
  /-- A date or time: an object with one key here and a text there. -/
  | datetime (datetime : Datetime) :
      ReadTwice (.scalar (.datetime datetime)) (datetimeObject datetime) (.text datetime.text)
  | array {byHeaders : Bool} {items : List Item} {values others : List Value}
      (areValues : valuesOfItems .settings items = some values)
      (areOthers : valuesOfItems .layer items = some others) :
      ReadTwice (.array byHeaders items) (.list values) (.list others)
  | table {origin : Origin} {members : Entries Item} {values others : Entries Value}
      (areValues : valuesOfMembers .settings members = some values)
      (areOthers : valuesOfMembers .layer members = some others) :
      ReadTwice (.table origin members) (.object values) (.object others)

variable {item : Item} {members : Entries Item} {value other : Value}

/-- A reading that does not look for masks takes a table for what it is. -/
theorem value?_table_of_unmasks_eq_false {reading : Reading} (asIs : reading.unmasks = false)
    (origin : Origin) (members : Entries Item) :
    (Item.table origin members).value? reading = (valuesOfMembers reading members).map .object := by
  rw [Item.value?, asIs]
  rfl

/-! ### Layers -/

mutual
/-- A node is no value of a layer exactly if it holds something that a layer cannot hold. -/
theorem value?_layer_eq_none_iff : (item : Item) → (item.value? .layer = none ↔ item.Unfit)
  | .text _ => ⟨nofun, nofun⟩
  | .scalar (.boolean _) | .scalar (.float _) | .scalar (.datetime _) => ⟨nofun, nofun⟩
  | .scalar (.integer number) => by
      show integerWithin leastWord greatestWord number = none ↔ _
      rw [integerWithin]
      split
      · rename_i within
        constructor
        · nofun
        · intro unfit
          cases unfit with
          | integer beyond => exact absurd within beyond
      · rename_i beyond
        exact ⟨fun _ => .integer beyond, fun _ => rfl⟩
  | .array byHeaders items => by
      rw [Item.value?, Option.map_eq_none_iff, valuesOfItems_layer_eq_none_iff items]
      constructor
      · intro ⟨item, isItem, unfit⟩
        exact .item isItem unfit
      · intro unfit
        cases unfit with
        | item isItem unfit => exact ⟨_, isItem, unfit⟩
  | .table origin members => by
      rw [value?_table_of_unmasks_eq_false rfl, Option.map_eq_none_iff,
        valuesOfMembers_layer_eq_none_iff members]
      constructor
      · intro ⟨member, isMember, unfit⟩
        exact .member isMember unfit
      · intro unfit
        cases unfit with
        | member isMember unfit => exact ⟨_, isMember, unfit⟩
termination_by structural item => item

theorem valuesOfItems_layer_eq_none_iff :
    (items : List Item) → (valuesOfItems .layer items = none ↔ ∃ item ∈ items, item.Unfit)
  | [] => ⟨nofun, nofun⟩
  | item :: rest => by
      have first := value?_layer_eq_none_iff item
      have others := valuesOfItems_layer_eq_none_iff rest
      simp only [List.mem_cons, exists_eq_or_imp]
      rw [← first, ← others, valuesOfItems]
      cases item.value? .layer <;> cases valuesOfItems .layer rest <;> simp
termination_by structural items => items

theorem valuesOfMembers_layer_eq_none_iff :
    (members : List (String × Item)) →
      (valuesOfMembers .layer members = none ↔ ∃ member ∈ members, member.2.Unfit)
  | [] => ⟨nofun, nofun⟩
  | member :: rest => by
      have first := valueOfMember_layer_eq_none_iff member
      have others := valuesOfMembers_layer_eq_none_iff rest
      simp only [List.mem_cons, exists_eq_or_imp]
      rw [← first, ← others, valuesOfMembers]
      cases valueOfMember .layer member <;> cases valuesOfMembers .layer rest <;> simp
termination_by structural members => members

theorem valueOfMember_layer_eq_none_iff :
    (member : String × Item) → (valueOfMember .layer member = none ↔ member.2.Unfit)
  | (key, item) => by
      rw [valueOfMember, Option.map_eq_none_iff]
      exact value?_layer_eq_none_iff item
termination_by structural member => member
end

instance (item : Item) : Decidable item.Unfit :=
  decidable_of_iff (item.value? .layer = none) (value?_layer_eq_none_iff item)

/-! ### Two readings -/

theorem readTwice (isValue : item.value? .settings = some value)
    (isOther : item.value? .layer = some other) : item.ReadTwice value other := by
  cases item with
  | text text =>
      cases isValue
      cases isOther
      exact .text text
  | scalar scalar =>
      cases scalar with
      | boolean truth =>
          cases isValue
          cases isOther
          exact .boolean truth
      | integer number =>
          have kept : integerWithin (-(Int.pow 2 127)) (Int.pow 2 128 - 1) number = some value := isValue
          have otherKept : integerWithin leastWord greatestWord number = some other := isOther
          rw [integerWithin] at kept otherKept
          split at kept
          · split at otherKept
            · cases kept
              cases otherKept
              exact .integer number
            · cases otherKept
          · cases kept
      | float number =>
          cases isValue
          cases isOther
          exact .float number
      | datetime datetime =>
          cases isValue
          cases isOther
          exact .datetime datetime
  | array byHeaders items =>
      obtain ⟨values, areValues, rfl⟩ := Option.map_eq_some_iff.mp isValue
      obtain ⟨others, areOthers, rfl⟩ := Option.map_eq_some_iff.mp isOther
      exact .array areValues areOthers
  | table origin members =>
      rw [value?_table_of_unmasks_eq_false rfl] at isValue isOther
      obtain ⟨values, areValues, rfl⟩ := Option.map_eq_some_iff.mp isValue
      obtain ⟨others, areOthers, rfl⟩ := Option.map_eq_some_iff.mp isOther
      exact .table areValues areOthers

/-- What is found in one place of a tree, with its two values. -/
inductive FoundTwice : (found : Option Item) → (value other : Option Value) → Prop
  | none : FoundTwice none none none
  | some {item : Item} {value other : Value} (twice : item.ReadTwice value other) :
      FoundTwice (some item) (some value) (some other)

theorem foundTwice {found : Option Item} {value? other? : Option Value}
    (settingsRead : (found = none ∧ value? = none) ∨
      ∃ item value, found = some item ∧ value? = some value ∧ item.value? .settings = some value)
    (layerRead : (found = none ∧ other? = none) ∨
      ∃ item other, found = some item ∧ other? = some other ∧ item.value? .layer = some other) :
    FoundTwice found value? other? := by
  obtain ⟨rfl, rfl⟩ | ⟨item, value, rfl, rfl, isValue⟩ := settingsRead
  · obtain ⟨-, rfl⟩ | ⟨_, _, isSome, -⟩ := layerRead
    · exact .none
    · cases isSome
  · obtain ⟨isNone, -⟩ | ⟨_, other, isItem, rfl, isOther⟩ := layerRead
    · cases isNone
    · obtain rfl := Option.some.inj isItem
      exact .some (readTwice isValue isOther)

theorem foundTwice_find? {values others : Entries Value}
    (areValues : valuesOfMembers .settings members = some values)
    (areOthers : valuesOfMembers .layer members = some others) (key : String) :
    FoundTwice (members.find? key) (values.find? key) (others.find? key) :=
  foundTwice (find?_valuesOfMembers areValues key) (find?_valuesOfMembers areOthers key)

theorem foundTwice_getElem? {items : List Item} {values others : List Value}
    (areValues : valuesOfItems .settings items = some values)
    (areOthers : valuesOfItems .layer items = some others) (index : Nat) :
    FoundTwice items[index]? values[index]? others[index]? :=
  foundTwice (getElem?_valuesOfItems areValues index) (getElem?_valuesOfItems areOthers index)

end LiveConfig.Toml
