import LiveConfig.Decode
import LiveConfig.Proofs.Flatten
import LiveConfig.Proofs.Text.Utf8
import LiveConfig.Proofs.Toml.Documents
import LiveConfig.Proofs.Toml.Values

/-!
Contract: which keys the payload of a TOML document has.

Every leaf of the document should keep the join of the keys on its path. A date or time does not: as a
property value it is an object with one key, which is flattened like any other object. A table whose first
key is that one is taken for a date or time. Owns: the exact condition under which the keys are those of
the leaves. Does not own: the values under the keys.
-/

namespace LiveConfig.Toml

variable {items inner : Entries Item} {values : Entries Value} {item : Item} {value : Value}
  {key : String} {path : List String}

/-- Whether a node is read as an object with the one key of dates and times: a date or a time, or a table
that has this key as its first. -/
def Item.isMasked : Item → Bool
  | .scalar (.datetime _) => true
  | .table _ members => (unmasked members).isSome
  | _ => false

/-- The object of a date or time. -/
def datetimeMembers (text : String) : Entries Value := [(datetimeKey, .text text)]

/-- What a node is read as: an object with the one key, a leaf, or an object with the members of a
table. -/
inductive Item.Reads (item : Item) (value : Value) : Prop
  | masked (text : String) (isMasked : item.isMasked = true)
      (isValue : value.members? = some (datetimeMembers text))
  | leaf (notMasked : item.isMasked = false) (isLeaf : item.members? = none)
      (isValue : value.members? = none)
  | table (members : Entries Item) (values : Entries Value) (notMasked : item.isMasked = false)
      (isTable : item.members? = some members)
      (areValues : valuesOfMembers .payload members = some values)
      (isValue : value.members? = some values)

theorem value?_table (origin : Origin) (members : Entries Item) :
    (Item.table origin members).value? .payload =
      (unmasked members).elim ((valuesOfMembers .payload members).map .object)
        (·.map datetimeObject) := by
  have unmasks : (if Reading.payload.unmasks = true then unmasked members else none) = unmasked members :=
    if_pos rfl
  rw [Item.value?, unmasks]
  cases unmasked members <;> rfl

theorem reads_of_value? (isValue : item.value? .payload = some value) : item.Reads value := by
  cases item with
  | text text =>
      cases isValue
      exact .leaf rfl rfl rfl
  | scalar scalar =>
      cases scalar with
      | boolean =>
          cases isValue
          exact .leaf rfl rfl rfl
      | integer number =>
          have isWord : integerWithin leastWord greatestWord number = some value := isValue
          rw [integerWithin] at isWord
          split at isWord
          · cases isWord
            exact .leaf rfl rfl rfl
          · cases isWord
      | float number =>
          refine .leaf rfl rfl ?_
          have isNumber : (if number.isFinite then Value.float number else .null) = value :=
            Option.some.inj isValue
          rw [← isNumber]
          split <;> rfl
      | datetime datetime =>
          cases isValue
          exact .masked datetime.text rfl rfl
  | array byHeaders items =>
      obtain ⟨_, -, rfl⟩ := Option.map_eq_some_iff.mp isValue
      exact .leaf rfl rfl rfl
  | table origin members =>
      rw [value?_table] at isValue
      cases masked : unmasked members with
      | some found =>
          rw [masked] at isValue
          obtain ⟨datetime, -, rfl⟩ := Option.map_eq_some_iff.mp isValue
          exact .masked datetime.text (by simp [Item.isMasked, masked]) rfl
      | none =>
          rw [masked] at isValue
          obtain ⟨values, areValues, rfl⟩ := Option.map_eq_some_iff.mp isValue
          exact .table members values (by simp [Item.isMasked, masked]) rfl areValues rfl

/-- A table that is taken for a date or time holds the text of it. -/
theorem exists_text_of_isMasked (isMasked : item.isMasked = true) (isTable : item.members? = some inner)
    (isValue : item.value? .payload = some value) :
    ∃ text, inner.find? datetimeKey = some (.text text) := by
  cases item with
  | table origin members =>
      obtain rfl := Option.some.inj isTable
      obtain ⟨found, isFound⟩ := Option.isSome_iff_exists.mp isMasked
      rw [value?_table, isFound] at isValue
      obtain ⟨datetime, rfl, -⟩ := Option.map_eq_some_iff.mp isValue
      unfold unmasked at isFound
      split at isFound
      · split at isFound
        · rename_i isKey
          split at isFound
          · exact ⟨_, by rw [Entries.find?, if_pos isKey]⟩
          · cases isFound
        · cases isFound
      · cases isFound
  | _ => cases isTable

/-! ### Members -/

theorem sorted_datetimeMembers (text : String) : (datetimeMembers text).Sorted Value.members? := by
  refine .intro (List.pairwise_singleton ..) fun entry member inner isObject => ?_
  obtain rfl := List.mem_singleton.mp member
  cases isObject

/-- Keys that ascend in every table ascend in every object. -/
theorem sorted_valuesOfMembers (sorted : items.Sorted Item.members?)
    (areValues : valuesOfMembers .payload items = some values) : values.Sorted Value.members? := by
  induction sorted generalizing values with
  | @intro items ascending below inductionHypothesis =>
      have valuesAscend := ascending_valuesOfMembers areValues ascending
      refine .intro valuesAscend fun entry member inner isObject => ?_
      have found := Entries.find?_of_mem valuesAscend member
      obtain ⟨-, missing⟩ | ⟨item, value, isMember, isFound, isRead⟩ :=
        find?_valuesOfMembers areValues entry.1
      · rw [missing] at found
        cases found
      · obtain rfl := Option.some.inj (isFound.symm.trans found)
        cases reads_of_value? isRead with
        | masked text _ isValue =>
            obtain rfl := Option.some.inj (isObject.symm.trans isValue)
            exact sorted_datetimeMembers text
        | leaf _ _ isValue =>
            rw [isObject] at isValue
            cases isValue
        | table members values _ isTable areMembers isValue =>
            obtain rfl := Option.some.inj (isObject.symm.trans isValue)
            exact inductionHypothesis _ (Entries.mem_of_find? isMember) members isTable areMembers

/-! ### Leaves -/

/-- Nothing in a document is read as a date or time, but tables that hold no other leaf. -/
def Unmasked (items : Entries Item) : Prop :=
  ∀ path item, items.follow? Item.members? path = some item → item.isMasked = true →
    ∃ inner, item.members? = some inner ∧
      ∀ below, inner.IsLeafPath Item.members? below → below = [datetimeKey]

theorem find?_datetimeMembers (text : String) :
    (datetimeMembers text).find? datetimeKey = some (.text text) := by
  simp [datetimeMembers, Entries.find?]

theorem isLeafPath_datetimeMembers {text : String} :
    (datetimeMembers text).IsLeafPath Value.members? path ↔ path = [datetimeKey] := by
  cases path with
  | nil => simp [Entries.not_isLeafPath_nil]
  | cons key path =>
      by_cases isKey : key = datetimeKey
      · subst isKey
        rw [Entries.isLeafPath_cons_of_eq_none (find?_datetimeMembers text) rfl, List.cons.injEq,
          and_iff_right rfl]
      · have missing : (datetimeMembers text).find? key = none := by
          simp [datetimeMembers, Entries.find?, Ne.symm isKey]
        simp [Entries.not_isLeafPath_of_find?_eq_none missing, isKey]

theorem isLeafPath_datetimeKey (isMasked : item.isMasked = true) (isTable : item.members? = some inner)
    (isValue : item.value? .payload = some value) :
    inner.IsLeafPath Item.members? [datetimeKey] := by
  obtain ⟨text, found⟩ := exists_text_of_isMasked isMasked isTable isValue
  exact (Entries.isLeafPath_cons_of_eq_none found rfl).mpr rfl

theorem unmasked_below (unmasked : Unmasked items) (found : items.find? key = some item)
    (isTable : item.members? = some inner) : Unmasked inner := by
  intro path below leads isMasked
  have goesOn := Entries.ne_nil_of_follow? leads
  exact unmasked (key :: path) below ((Entries.follow?_cons found isTable goesOn).trans leads) isMasked

/-- An object has the leaves of the document, if nothing in that is read as a date or time. -/
theorem isLeafPath_iff_of_unmasked (areValues : valuesOfMembers .payload items = some values)
    (unmasked : Unmasked items) :
    values.IsLeafPath Value.members? path ↔ items.IsLeafPath Item.members? path := by
  induction path generalizing items values with
  | nil => simp [Entries.not_isLeafPath_nil]
  | cons key path inductionHypothesis =>
      obtain ⟨missing, missingValue⟩ | ⟨item, value, found, foundValue, isRead⟩ :=
        find?_valuesOfMembers areValues key
      · simp [Entries.not_isLeafPath_of_find?_eq_none missing,
          Entries.not_isLeafPath_of_find?_eq_none missingValue]
      · cases reads_of_value? isRead with
        | masked text isMasked isValue =>
            obtain ⟨inner, isTable, alone⟩ :=
              unmasked [key] item ((Entries.follow?_singleton key).trans found) isMasked
            rw [Entries.isLeafPath_cons_of_eq_some foundValue isValue,
              Entries.isLeafPath_cons_of_eq_some found isTable, isLeafPath_datetimeMembers]
            exact ⟨fun isKey => isKey ▸ isLeafPath_datetimeKey isMasked isTable isRead, alone path⟩
        | leaf notMasked isLeaf isValue =>
            rw [Entries.isLeafPath_cons_of_eq_none foundValue isValue,
              Entries.isLeafPath_cons_of_eq_none found isLeaf]
        | table members inner notMasked isTable areMembers isValue =>
            rw [Entries.isLeafPath_cons_of_eq_some foundValue isValue,
              Entries.isLeafPath_cons_of_eq_some found isTable]
            exact inductionHypothesis areMembers (unmasked_below unmasked found isTable)

/-- Below a node that is read as a date or time, nothing else is read as one but what holds no leaf, if the
only leaf there is the one under the key of dates and times. -/
theorem unmasked_below_masked (isMasked : item.isMasked = true) (isValue : item.value? .payload = some value)
    (isTable : item.members? = some inner)
    (alone : ∀ below, inner.IsLeafPath Item.members? below → below = [datetimeKey]) : Unmasked inner := by
  intro path target leads targetMasked
  cases targetTable : target.members? with
  | none =>
      obtain rfl := alone path ⟨target, leads, targetTable⟩
      obtain ⟨text, found⟩ := exists_text_of_isMasked isMasked isTable isValue
      rw [Entries.follow?_singleton, found] at leads
      obtain rfl := Option.some.inj leads
      cases targetMasked
  | some members =>
      refine ⟨members, rfl, fun below isLeafPath => ?_⟩
      have whole := alone _ (Entries.isLeafPath_append leads targetTable isLeafPath)
      have goesOn := Entries.ne_nil_of_follow? leads
      have belowGoesOn := Entries.ne_nil_of_isLeafPath isLeafPath
      rcases List.append_eq_singleton_iff.mp whole with ⟨isNil, -⟩ | ⟨-, isNil⟩
      · exact absurd isNil goesOn
      · exact absurd isNil belowGoesOn

/-- What is read as a date or time under a key of the document shows in the leaves of the object, unless
it is a table that holds no other leaf. -/
theorem alone_of_isLeafPath_iff (found : items.find? key = some item)
    (foundValue : values.find? key = some value) (isRead : item.value? .payload = some value)
    (isMasked : item.isMasked = true)
    (same : ∀ path, values.IsLeafPath Value.members? path ↔ items.IsLeafPath Item.members? path) :
    ∃ inner, item.members? = some inner ∧
      ∀ below, inner.IsLeafPath Item.members? below → below = [datetimeKey] := by
  cases reads_of_value? isRead with
  | masked text _ isValue =>
      have alone (below : List String) :
          items.IsLeafPath Item.members? (key :: below) → below = [datetimeKey] := by
        rw [← same, Entries.isLeafPath_cons_of_eq_some foundValue isValue]
        exact isLeafPath_datetimeMembers.mp
      cases isTable : item.members? with
      | none =>
          have isLeafPath := (Entries.isLeafPath_cons_of_eq_none found isTable).mpr rfl
          cases alone [] isLeafPath
      | some inner =>
          refine ⟨inner, rfl, fun below isLeafPath => alone below ?_⟩
          exact (Entries.isLeafPath_cons_of_eq_some found isTable).mpr isLeafPath
  | leaf notMasked => exact absurd isMasked (Bool.eq_false_iff.mp notMasked)
  | table _ _ notMasked => exact absurd isMasked (Bool.eq_false_iff.mp notMasked)

/-- The same at every depth. -/
theorem unmasked_of_isLeafPath_iff (areValues : valuesOfMembers .payload items = some values)
    (same : ∀ path, values.IsLeafPath Value.members? path ↔ items.IsLeafPath Item.members? path) :
    Unmasked items := by
  intro path
  induction path generalizing items values with
  | nil => exact fun _ leads => nomatch leads
  | cons key path inductionHypothesis =>
      intro target leads targetMasked
      obtain ⟨missing, -⟩ | ⟨item, value, found, foundValue, isRead⟩ :=
        find?_valuesOfMembers areValues key
      · rw [Entries.follow?, missing] at leads
        cases leads
      by_cases isLast : path = []
      · subst isLast
        rw [Entries.follow?_singleton, found] at leads
        obtain rfl := Option.some.inj leads
        exact alone_of_isLeafPath_iff found foundValue isRead targetMasked same
      · obtain ⟨first, inner, isFirst, isTable, leads⟩ := Entries.exists_of_follow?_cons isLast leads
        obtain rfl := Option.some.inj (isFirst.symm.trans found)
        have sameBelow (below : List String) := same (key :: below)
        simp only [Entries.isLeafPath_cons_of_eq_some found isTable] at sameBelow
        cases reads_of_value? isRead with
        | masked text isMasked isValue =>
            simp only [Entries.isLeafPath_cons_of_eq_some foundValue isValue,
              isLeafPath_datetimeMembers] at sameBelow
            exact unmasked_below_masked isMasked isRead isTable (fun below => (sameBelow below).mpr)
              path target leads targetMasked
        | leaf _ isLeaf =>
            rw [isTable] at isLeaf
            cases isLeaf
        | table members values _ isMembers areMembers isValue =>
            obtain rfl := Option.some.inj (isTable.symm.trans isMembers)
            simp only [Entries.isLeafPath_cons_of_eq_some foundValue isValue] at sameBelow
            exact inductionHypothesis areMembers sameBelow target leads targetMasked

/-! ### Keys -/

/-- The keys on the path to a leaf of the object are keys of the document or the key of dates and times. -/
theorem exists_follow?_of_isLeafPath (areValues : valuesOfMembers .payload items = some values)
    (isLeafPath : values.IsLeafPath Value.members? path) :
    ∃ front item, items.follow? Item.members? front = some item ∧
      (path = front ∨ path = front ++ [datetimeKey]) := by
  induction path generalizing items values with
  | nil => exact absurd isLeafPath Entries.not_isLeafPath_nil
  | cons key path inductionHypothesis =>
      obtain ⟨-, missing⟩ | ⟨item, value, found, foundValue, isRead⟩ :=
        find?_valuesOfMembers areValues key
      · exact absurd isLeafPath (Entries.not_isLeafPath_of_find?_eq_none missing)
      have leads : items.follow? Item.members? [key] = some item :=
        (Entries.follow?_singleton key).trans found
      cases reads_of_value? isRead with
      | masked text _ isValue =>
          rw [Entries.isLeafPath_cons_of_eq_some foundValue isValue,
            isLeafPath_datetimeMembers] at isLeafPath
          exact ⟨[key], item, leads, .inr (by rw [isLeafPath]; rfl)⟩
      | leaf _ _ isValue =>
          rw [Entries.isLeafPath_cons_of_eq_none foundValue isValue] at isLeafPath
          exact ⟨[key], item, leads, .inl (by rw [isLeafPath])⟩
      | table members values _ isTable areMembers isValue =>
          rw [Entries.isLeafPath_cons_of_eq_some foundValue isValue] at isLeafPath
          obtain ⟨front, target, leads, isFront⟩ := inductionHypothesis areMembers isLeafPath
          have goesOn := Entries.ne_nil_of_follow? leads
          refine ⟨key :: front, target, (Entries.follow?_cons found isTable goesOn).trans leads, ?_⟩
          exact isFront.imp (fun same => by rw [same]) (fun same => by rw [same]; rfl)

theorem dotFree_of_isLeafPath (areValues : valuesOfMembers .payload items = some values)
    (dotFree : ∀ keys item, items.follow? Item.members? keys = some item →
      ∀ key ∈ keys, '.' ∉ key.toList)
    (isLeafPath : values.IsLeafPath Value.members? path) : ∀ key ∈ path, '.' ∉ key.toList := by
  obtain ⟨front, item, leads, rfl | rfl⟩ := exists_follow?_of_isLeafPath areValues isLeafPath
  · exact dotFree _ item leads
  · refine List.forall_mem_append.mpr ⟨dotFree front item leads, fun key member => ?_⟩
    rw [List.mem_singleton.mp member]
    decide

theorem decode_encode_toml (path : String) {text : List Char}
    (isParsed : parse? (.ofList text) = some items)
    (areValues : valuesOfMembers .payload items = some values) :
    decode path (Text.Utf8.encode text) .toml = .ok (flatten values) := by
  have isDecoded : decodePayload .toml (Text.Utf8.encode text) = .ok (flatten values) := by
    simp only [decodePayload, Text.Utf8.decode_encode]
    split
    · rename_i blank
      obtain rfl := parse?_of_isBlankText blank isParsed
      cases areValues
      rfl
    · simp [decodeText, members?, isParsed, areValues]
  rw [decode, isDecoded]

/-- The keys of a payload are those of the leaves of its document, exactly if nothing in the document is
read as a date or time, but tables that hold nothing else. The keys of the document have no dots. -/
theorem decode_keys_eq_leaves_iff (path : String) (text : List Char) (document : Entries Item)
    (isParsed : parse? (.ofList text) = some document)
    (accepted : (valuesOfMembers .payload document).isSome)
    (dotFree : ∀ keys item, document.follow? Item.members? keys = some item →
      ∀ key ∈ keys, '.' ∉ key.toList) :
    ∃ map, decode path (Text.Utf8.encode text) .toml = .ok map ∧
      ((∀ key, key ∈ map.keys ↔
          ∃ keys, document.IsLeafPath Item.members? keys ∧ key = dottedPath keys) ↔
        Unmasked document) := by
  obtain ⟨values, areValues⟩ := Option.isSome_iff_exists.mp accepted
  have writtenDotFree {keys : List String} (isWritten : document.IsLeafPath Item.members? keys) :
      ∀ key ∈ keys, '.' ∉ key.toList := by
    obtain ⟨leaf, leads, -⟩ := isWritten
    exact dotFree keys leaf leads
  have sorted := sorted_valuesOfMembers (sorted_of_parse? isParsed) areValues
  refine ⟨flatten values, decode_encode_toml path isParsed areValues, ?_⟩
  simp only [mem_keys_flatten_iff sorted]
  constructor
  · intro sameKeys
    refine unmasked_of_isLeafPath_iff areValues fun keys => ⟨fun isRead => ?_, fun isWritten => ?_⟩
    · obtain ⟨written, isWritten, same⟩ := (sameKeys _).mp ⟨keys, isRead, rfl⟩
      rw [dottedPath_inj (Entries.ne_nil_of_isLeafPath isRead) (Entries.ne_nil_of_isLeafPath isWritten)
        (dotFree_of_isLeafPath areValues dotFree isRead) (writtenDotFree isWritten) same]
      exact isWritten
    · obtain ⟨read, isRead, same⟩ := (sameKeys _).mpr ⟨keys, isWritten, rfl⟩
      rw [dottedPath_inj (Entries.ne_nil_of_isLeafPath isWritten) (Entries.ne_nil_of_isLeafPath isRead)
        (writtenDotFree isWritten) (dotFree_of_isLeafPath areValues dotFree isRead) same]
      exact isRead
  · intro unmasked key
    simp only [isLeafPath_iff_of_unmasked areValues unmasked]

/-! ### Documents without dots in their keys -/

mutual
/-- Whether the keys of a node have no dots, down through its tables. -/
def Item.hasDotFreeKeys : Item → Bool
  | .table _ members => haveDotFreeKeys members
  | _ => true
termination_by structural item => item

/-- Whether the keys of some members have no dots, down through their tables. -/
def haveDotFreeKeys : List (String × Item) → Bool
  | [] => true
  | member :: rest => hasDotFreeKey member && haveDotFreeKeys rest
termination_by structural members => members

/-- Whether the key of a member has no dots, nor those in its tables. -/
def hasDotFreeKey : String × Item → Bool
  | (key, item) => !key.toList.contains '.' && item.hasDotFreeKeys
termination_by structural member => member
end

theorem hasDotFreeKey_of_mem {members : Entries Item} {member : String × Item}
    (free : haveDotFreeKeys members = true) (isMember : member ∈ members) : hasDotFreeKey member = true := by
  induction members with
  | nil => cases isMember
  | cons first rest inductionHypothesis =>
      rw [haveDotFreeKeys, Bool.and_eq_true] at free
      rcases List.mem_cons.mp isMember with rfl | later
      · exact free.1
      · exact inductionHypothesis free.2 later

/-- No key on the way to a node of such a document has a dot. -/
theorem dotFree_of_haveDotFreeKeys {path : List String} {target : Item}
    (free : haveDotFreeKeys items = true) (leads : items.follow? Item.members? path = some target) :
    ∀ key ∈ path, '.' ∉ key.toList := by
  induction path generalizing items with
  | nil => exact nofun
  | cons key path inductionHypothesis =>
      obtain ⟨item, found, -⟩ := Option.bind_eq_some_iff.mp leads
      have freeMember := hasDotFreeKey_of_mem free (Entries.mem_of_find? found)
      rw [hasDotFreeKey, Bool.and_eq_true] at freeMember
      refine List.forall_mem_cons.mpr ⟨by simpa using freeMember.1, ?_⟩
      by_cases isLast : path = []
      · subst isLast
        exact nofun
      · obtain ⟨item, inner, found, isTable, leads⟩ := Entries.exists_of_follow?_cons isLast leads
        have freeItem := hasDotFreeKey_of_mem free (Entries.mem_of_find? found)
        rw [hasDotFreeKey, Bool.and_eq_true] at freeItem
        apply inductionHypothesis _ leads
        cases item with
        | table origin members =>
            obtain rfl := Option.some.inj isTable
            exact freeItem.2
        | _ => cases isTable

/-- The payload of a server: tables in tables, an array and a date. -/
def serverText : List Char :=
  "name = \"edge\"\n[server]\nports = [80, 443]\nsince = 1979-05-27\n[server.tls]\nenabled = true\n".toList

/-- The keys of the server's payload, of which the one of the date is no leaf of the document. -/
theorem serverText_keys_eq_leaves_iff :
    ∃ document, parse? (.ofList serverText) = some document ∧
      (valuesOfMembers .payload document).isSome ∧
      (∀ keys item, document.follow? Item.members? keys = some item →
        ∀ key ∈ keys, '.' ∉ key.toList) ∧
      ∃ map, decode "/n" (Text.Utf8.encode serverText) .toml = .ok map ∧
        map.keys = ["name", "server.ports", "server.since.$__toml_private_datetime", "server.tls.enabled"] ∧
        ((∀ key, key ∈ map.keys ↔
            ∃ keys, document.IsLeafPath Item.members? keys ∧ key = dottedPath keys) ↔
          Unmasked document) := by
  have free : (parse? (.ofList serverText)).map haveDotFreeKeys = some true := by decide +kernel
  obtain ⟨document, isParsed, free⟩ := Option.map_eq_some_iff.mp free
  have accepted : (valuesOfMembers .payload document).isSome := by
    have read : (members? .payload (.ofList serverText)).isSome := by decide +kernel
    rwa [members?, isParsed] at read
  have dotFree (keys : List String) (item : Item)
      (leads : Entries.follow? Item.members? keys document = some item) : ∀ key ∈ keys, '.' ∉ key.toList :=
    dotFree_of_haveDotFreeKeys free leads
  obtain ⟨map, isDecoded, sameKeys⟩ :=
    decode_keys_eq_leaves_iff "/n" serverText document isParsed accepted dotFree
  refine ⟨document, isParsed, accepted, dotFree, map, isDecoded, ?_, sameKeys⟩
  have keysRead : (decode "/n" (Text.Utf8.encode serverText) .toml).toOption.map PropertyMap.keys =
      some ["name", "server.ports", "server.since.$__toml_private_datetime", "server.tls.enabled"] := by
    decide +kernel
  rw [isDecoded] at keysRead
  exact Option.some.inj keysRead

/-! ### A date -/

/-- A document with one member, which is no table. -/
theorem exists_of_shape (text : List Char) (key : String)
    (shape : (parse? (.ofList text)).map (·.map fun member => (member.1, member.2.members?.isNone)) =
      some [(key, true)]) :
    ∃ item, parse? (.ofList text) = some [(key, item)] ∧ item.members? = none := by
  obtain ⟨document, isParsed, members⟩ := Option.map_eq_some_iff.mp shape
  obtain ⟨⟨name, item⟩, rest, rfl, isMember, isRest⟩ := List.map_eq_cons_iff.mp members
  obtain rfl := List.map_eq_nil_iff.mp isRest
  obtain ⟨rfl, noTable⟩ := Prod.mk.inj isMember
  exact ⟨item, isParsed, Option.isNone_iff_eq_none.mp noTable⟩

theorem haveDotFreeKeys_singleton (dotFree : '.' ∉ key.toList) (noTable : item.members? = none) :
    haveDotFreeKeys [(key, item)] = true := by
  have freeItem : item.hasDotFreeKeys = true := by
    cases item with
    | table => cases noTable
    | _ => rfl
  simpa [haveDotFreeKeys, hasDotFreeKey, freeItem] using dotFree

/-- A date does not keep its key. -/
theorem date_not_under_its_key :
    let text := "d = 1979-05-27".toList
    ∃ document map, parse? (.ofList text) = some document ∧
      (∀ keys item, document.follow? Item.members? keys = some item →
        ∀ key ∈ keys, '.' ∉ key.toList) ∧
      decode "/n" (Text.Utf8.encode text) .toml = .ok map ∧
      document.IsLeafPath Item.members? ["d"] ∧ dottedPath ["d"] ∉ map.keys := by
  intro text
  obtain ⟨item, isParsed, noTable⟩ := exists_of_shape text "d" (by decide +kernel)
  have areValues : valuesOfMembers .payload [("d", item)] =
      some [("d", datetimeObject (.localDate ⟨1979, 5, 27⟩))] := by
    have read : members? .payload (.ofList text) =
        some [("d", datetimeObject (.localDate ⟨1979, 5, 27⟩))] := by decide +kernel
    rwa [members?, isParsed] at read
  have found : Entries.find? "d" [("d", item)] = some item := if_pos rfl
  have free : haveDotFreeKeys [("d", item)] = true := haveDotFreeKeys_singleton (by decide) noTable
  exact ⟨_, _, isParsed, fun _ _ => dotFree_of_haveDotFreeKeys free,
    decode_encode_toml _ isParsed areValues,
    (Entries.isLeafPath_cons_of_eq_none found noTable).mpr rfl, by decide +kernel⟩

end LiveConfig.Toml
