import LiveConfig.Proofs.Nested
import LiveConfig.Text.Blank
import LiveConfig.Toml.Document

/-!
Contract: the trees that whole TOML texts stand for.

In every table that is reached through tables, keys ascend, so that each stands once; and a text of blanks
stands for no members. Owns: that every edit keeps the order, and that the reader of values and of
statements builds trees by edits alone. Does not own: tables within arrays.
-/

namespace LiveConfig.Toml

open LiveConfig.Text

/-- The members of a table. -/
def Item.members? : Item → Option (Entries Item)
  | .table _ members => some members
  | _ => none

/-- An item whose keys ascend in every table, if it is a table. -/
def Item.Sorted (item : Item) : Prop :=
  ∀ members, item.members? = some members → members.Sorted Item.members?

/-- An edit that leaves sorted tables sorted. -/
def Edit.KeepsSorted (edit : Edit) : Prop :=
  ∀ origin members edited, members.Sorted Item.members? → edit origin members = some edited →
    edited.Sorted

variable {origin made : Origin} {members : Entries Item} {item edited : Item}
  {edit : Edit} {path : List String}

theorem sorted_table_iff : (Item.table origin members).Sorted ↔ members.Sorted Item.members? :=
  ⟨fun sorted => sorted members rfl, fun sorted _ isMembers => Option.some.inj isMembers ▸ sorted⟩

theorem sorted_array {byHeaders : Bool} {items : List Item} : (Item.array byHeaders items).Sorted :=
  nofun

theorem sorted_of_find? {key : String} (sorted : members.Sorted Item.members?)
    (found : members.find? key = some item) : item.Sorted := by
  obtain ⟨-, below⟩ := sorted
  exact below _ (Entries.mem_of_find? found)

theorem sorted_insert {key : String} (sorted : members.Sorted Item.members?)
    (isSorted : item.Sorted) : (Item.table origin (members.insert key item)).Sorted :=
  sorted_table_iff.mpr (Entries.sorted_insert sorted isSorted)

/-! ### Edits -/

theorem editAt_keepsSorted (keeps : edit.KeepsSorted) : (editAt made edit path).KeepsSorted := by
  induction path with
  | nil => exact keeps
  | cons key path inductionHypothesis =>
      intro origin members edited sorted isEdited
      obtain ⟨item, continued, rfl⟩ := Option.map_eq_some_iff.mp isEdited
      refine sorted_insert sorted ?_
      split at continued
      · exact inductionHypothesis _ _ _ Entries.sorted_nil continued
      · rename_i found
        split at continued
        · cases continued
        · exact inductionHypothesis _ _ _ (sorted_table_iff.mp (sorted_of_find? sorted found)) continued
      · obtain ⟨items, -, rfl⟩ := Option.map_eq_some_iff.mp continued
        exact sorted_array
      · cases continued

theorem bind_keepsSorted (path : List String) (isSorted : item.Sorted) : (bind path item).KeepsSorted := by
  intro origin members edited sorted isEdited
  unfold bind at isEdited
  split at isEdited
  · cases isEdited
  · refine editAt_keepsSorted ?_ _ _ _ sorted isEdited
    intro origin members edited sorted isEdited
    simp only at isEdited
    split at isEdited
    · cases isEdited
    · split at isEdited
      · cases isEdited
      · exact Option.some.inj isEdited ▸ sorted_insert sorted isSorted

theorem openTable_keepsSorted : (openTable path).KeepsSorted := by
  intro origin members edited sorted isEdited
  unfold openTable at isEdited
  split at isEdited
  · cases isEdited
  · refine editAt_keepsSorted ?_ _ _ _ sorted isEdited
    intro origin members edited sorted isEdited
    simp only at isEdited
    split at isEdited
    · exact Option.some.inj isEdited ▸ sorted_insert sorted (sorted_table_iff.mpr Entries.sorted_nil)
    · rename_i found
      have inner := sorted_table_iff.mp (sorted_of_find? sorted found)
      exact Option.some.inj isEdited ▸ sorted_insert sorted (sorted_table_iff.mpr inner)
    · cases isEdited

theorem appendTable_keepsSorted : (appendTable path).KeepsSorted := by
  intro origin members edited sorted isEdited
  unfold appendTable at isEdited
  split at isEdited
  · cases isEdited
  · refine editAt_keepsSorted ?_ _ _ _ sorted isEdited
    intro origin members edited sorted isEdited
    simp only at isEdited
    split at isEdited
    · exact Option.some.inj isEdited ▸ sorted_insert sorted sorted_array
    · exact Option.some.inj isEdited ▸ sorted_insert sorted sorted_array
    · cases isEdited

theorem sorted_apply (keeps : edit.KeepsSorted) (sorted : item.Sorted)
    (isEdited : edit.apply item = some edited) : edited.Sorted := by
  cases item with
  | table origin members => exact keeps _ _ _ (sorted_table_iff.mp sorted) isEdited
  | _ => cases isEdited

/-! ### Values -/

/-- A reader of which every item is sorted. -/
def ReadsSorted (read : List Char → Option (Item × List Char)) : Prop :=
  ∀ text item after, read text = some (item, after) → item.Sorted

variable {read : List Char → Option (Item × List Char)} {text after : List Char}

theorem sorted_of_keyValue (sorted : ReadsSorted read)
    (isRead : keyValue read text = some ((path, item), after)) : item.Sorted := by
  unfold keyValue at isRead
  split at isRead
  · obtain ⟨⟨value, rest⟩, isValue, same⟩ := Option.map_eq_some_iff.mp isRead
    obtain ⟨⟨-, rfl⟩, -⟩ := by simpa using same
    exact sorted _ _ _ isValue
  · cases isRead

theorem sorted_bracedTable (sorted : ReadsSorted read) {fuel : Nat} {table : Item}
    (tableSorted : table.Sorted) (isRead : bracedTable read fuel table text = some (item, after)) :
    item.Sorted := by
  induction fuel generalizing table text with
  | zero => cases isRead
  | succ fuel inductionHypothesis =>
      rw [bracedTable] at isRead
      split at isRead
      · cases isRead
      · cases isRead
        exact tableSorted
      · split at isRead
        · cases isRead
        · rename_i isKeyValue
          split at isRead
          · cases isRead
          · rename_i isExtended
            have extendedSorted := sorted_apply
              (bind_keepsSorted _ (sorted_of_keyValue sorted isKeyValue)) tableSorted isExtended
            split at isRead
            · cases isRead
              exact extendedSorted
            · exact inductionHypothesis extendedSorted isRead
            · cases isRead

theorem sorted_of_map {α : Type} {found : Option α} {make : α → Item × List Char}
    (noTable : ∀ body, (make body).1.members? = none)
    (isRead : found.map make = some (item, after)) : item.Sorted := by
  obtain ⟨body, -, made⟩ := Option.map_eq_some_iff.mp isRead
  intro members isMembers
  have none := noTable body
  rw [made, isMembers] at none
  cases none

theorem value_readsSorted (depth : Nat) : ReadsSorted (value depth) := by
  induction depth using Nat.strongRecOn with
  | ind depth inductionHypothesis =>
      intro text item after isRead
      unfold value at isRead
      split at isRead
      · exact sorted_of_map (fun _ => rfl) isRead
      · exact sorted_of_map (fun _ => rfl) isRead
      · split at isRead
        · cases isRead
        · exact sorted_of_map (fun _ => rfl) isRead
      · split at isRead
        · cases isRead
        · rename_i inner
          exact sorted_bracedTable (inductionHypothesis inner inner.lt_succ_self)
            (sorted_table_iff.mpr Entries.sorted_nil) isRead
      · exact sorted_of_map (fun _ => rfl) isRead

/-! ### Documents -/

/-- A statement that binds, if it binds something, a sorted item. -/
def Statement.IsSorted (statement : Statement) : Prop :=
  ∀ path item, statement = .binding path item → item.Sorted

theorem sorted_of_statement {found : Option Statement}
    (isRead : statement text = some (found, after)) : ∀ line ∈ found, line.IsSorted := by
  unfold statement at isRead
  split at isRead
  · split at isRead
    · cases isRead
      rintro _ ⟨⟩
      exact nofun
    · cases isRead
  · split at isRead
    · cases isRead
      rintro _ ⟨⟩
      exact nofun
    · cases isRead
  · cases isRead
    exact nofun
  · cases isRead
    exact nofun
  · split at isRead
    · cases isRead
      exact nofun
    · obtain ⟨⟨⟨path, item⟩, rest⟩, isKeyValue, same⟩ := Option.map_eq_some_iff.mp isRead
      cases same
      rintro _ ⟨⟩ _ _ ⟨⟩
      exact sorted_of_keyValue (value_readsSorted depthLimit) isKeyValue

theorem sorted_of_statements {fuel : Nat} {lines : List Statement}
    (isRead : statements fuel text = some lines) : ∀ line ∈ lines, line.IsSorted := by
  induction fuel generalizing text lines with
  | zero => cases isRead
  | succ fuel inductionHypothesis =>
      cases text with
      | nil =>
          cases isRead
          exact nofun
      | cons first text =>
          simp only [statements] at isRead
          split at isRead
          · cases isRead
          · rename_i isStatement
            split at isRead
            · cases isRead
            · obtain ⟨others, isOthers, rfl⟩ := Option.map_eq_some_iff.mp isRead
              refine List.forall_mem_append.mpr
                ⟨fun line member => ?_, inductionHypothesis isOthers⟩
              exact sorted_of_statement isStatement line (Option.mem_toList.mp member)

theorem sorted_build {location : List String} {document built : Item} {lines : List Statement}
    (linesSorted : ∀ line ∈ lines, line.IsSorted) (sorted : document.Sorted)
    (isBuilt : build location document lines = some built) : built.Sorted := by
  induction lines generalizing location document with
  | nil =>
      cases isBuilt
      exact sorted
  | cons line lines inductionHypothesis =>
      obtain ⟨lineSorted, restSorted⟩ := List.forall_mem_cons.mp linesSorted
      cases line with
      | binding path item =>
          rw [build] at isBuilt
          split at isBuilt
          · cases isBuilt
          · rename_i isExtended
            have keeps := bind_keepsSorted path (lineSorted path item rfl)
            exact inductionHypothesis restSorted
              (sorted_apply (editAt_keepsSorted keeps) sorted isExtended) isBuilt
      | table path =>
          rw [build] at isBuilt
          split at isBuilt
          · cases isBuilt
          · rename_i isExtended
            exact inductionHypothesis restSorted
              (sorted_apply openTable_keepsSorted sorted isExtended) isBuilt
      | arrayTable path =>
          rw [build] at isBuilt
          split at isBuilt
          · cases isBuilt
          · rename_i isExtended
            exact inductionHypothesis restSorted
              (sorted_apply appendTable_keepsSorted sorted isExtended) isBuilt

/-- In the tree of a whole text, the keys of every table ascend. -/
theorem sorted_of_parse? {text : String} {document : Entries Item}
    (isParsed : parse? text = some document) : document.Sorted Item.members? := by
  unfold parse? at isParsed
  extract_lets characters at isParsed
  split at isParsed
  · cases isParsed
  · rename_i isRead
    split at isParsed
    · rename_i isBuilt
      cases isParsed
      exact sorted_table_iff.mp
        (sorted_build (sorted_of_statements isRead) (sorted_table_iff.mpr Entries.sorted_nil) isBuilt)
    · cases isParsed

/-! ### Blank texts -/

theorem not_isBlank_of_isBareKey {character : Char} (bare : isBareKey character = true) :
    isBlank character = false := by
  have code (first last : Char) (within : first ≤ character ∧ character ≤ last) :
      first.toNat ≤ character.toNat ∧ character.toNat ≤ last.toNat := within
  simp only [isBareKey, Bool.or_eq_true, Bool.and_eq_true, decide_eq_true_eq, beq_iff_eq] at bare
  have range : 0x2D ≤ character.toNat ∧ character.toNat ≤ 0x7A := by
    rcases bare with (((lower | upper) | digit) | rfl) | rfl
    · have bounds := code _ _ lower
      exact ⟨Nat.le_trans (by decide) bounds.1, bounds.2⟩
    · have bounds := code _ _ upper
      exact ⟨Nat.le_trans (by decide) bounds.1, Nat.le_trans bounds.2 (by decide)⟩
    · have bounds := code _ _ digit
      exact ⟨Nat.le_trans (by decide) bounds.1, Nat.le_trans bounds.2 (by decide)⟩
    · decide
    · decide
  simp only [isBlank, Bool.or_eq_false_iff, Bool.and_eq_false_iff, decide_eq_false_iff_not,
    beq_eq_false_iff_ne]
  omega

theorem key_of_isBlank (blank : ∀ character ∈ text, isBlank character = true) : key text = none := by
  have noPart : keyPart (text.dropWhile isSpace) = none := by
    have stillBlank : ∀ character ∈ text.dropWhile isSpace, isBlank character = true :=
      fun character member => blank character (List.dropWhile_subset isSpace member)
    unfold keyPart
    split
    · rename_i starts
      exact absurd (stillBlank '"' (starts ▸ List.mem_cons_self)) (by decide)
    · rename_i starts
      exact absurd (stillBlank '\x27' (starts ▸ List.mem_cons_self)) (by decide)
    · cases front : text.dropWhile isSpace with
      | nil => rfl
      | cons first rest =>
          have noKey : isBareKey first = false := by
            refine Bool.eq_false_iff.mpr fun bare => ?_
            have isFirst := stillBlank first (front ▸ List.mem_cons_self)
            rw [not_isBlank_of_isBareKey bare] at isFirst
            cases isFirst
          simp [noKey]
  simp [key, keyParts, noPart]

/-- A blank text starts with no statement. -/
theorem statement_of_isBlank (blank : ∀ character ∈ text, isBlank character = true)
    {found : Option Statement} (isRead : statement text = some (found, after)) :
    found = none ∧ after = text := by
  unfold statement at isRead
  split at isRead
  · exact absurd (blank '[' List.mem_cons_self) (by decide)
  · exact absurd (blank '[' List.mem_cons_self) (by decide)
  · cases isRead
    exact ⟨rfl, rfl⟩
  · exact absurd (blank '#' List.mem_cons_self) (by decide)
  · split at isRead
    · cases isRead
      exact ⟨rfl, rfl⟩
    · simp [keyValue, key_of_isBlank blank] at isRead

theorem lineEnd?_subset {rest : List Char} (ends : lineEnd? text = some rest) : rest ⊆ text := by
  unfold lineEnd? at ends
  split at ends
  · cases ends
    exact List.subset_cons_self _ _
  · cases ends
    exact fun _ member => List.mem_cons_of_mem _ (List.mem_cons_of_mem _ member)
  · cases ends

theorem endOfLine_subset (blank : ∀ character ∈ text, isBlank character = true) {rest : List Char}
    (ends : endOfLine text = some rest) : rest ⊆ text := by
  have front : text.dropWhile isSpace ⊆ text := List.dropWhile_subset isSpace
  unfold endOfLine at ends
  extract_lets finish at ends
  split at ends
  · rename_i starts
    exact absurd (blank '#' (front (starts ▸ List.mem_cons_self))) (by decide)
  · simp only [finish] at ends
    split at ends
    · cases ends
      exact List.nil_subset _
    · exact List.Subset.trans (lineEnd?_subset ends) front

theorem statements_of_isBlank (blank : ∀ character ∈ text, isBlank character = true) {fuel : Nat}
    {lines : List Statement} (isRead : statements fuel text = some lines) : lines = [] := by
  induction fuel generalizing text lines with
  | zero => cases isRead
  | succ fuel inductionHypothesis =>
      cases text with
      | nil =>
          cases isRead
          rfl
      | cons first text =>
          simp only [statements] at isRead
          split at isRead
          · cases isRead
          · rename_i isStatement
            split at isRead
            · cases isRead
            · rename_i ends
              obtain ⟨others, isOthers, rfl⟩ := Option.map_eq_some_iff.mp isRead
              have frontBlank : ∀ character ∈ (first :: text).dropWhile isSpace, isBlank character = true :=
                fun character member => blank character (List.dropWhile_subset isSpace member)
              obtain ⟨rfl, rfl⟩ := statement_of_isBlank frontBlank isStatement
              have restBlank := fun character member =>
                frontBlank character (endOfLine_subset frontBlank ends member)
              rw [inductionHypothesis restBlank isOthers]
              rfl

/-- A blank text stands for the empty document, if it is well formed. -/
theorem parse?_of_isBlankText (blank : isBlankText text = true) {document : Entries Item}
    (isParsed : parse? (.ofList text) = some document) : document = [] := by
  have allBlank := List.all_eq_true.mp blank
  have noMark : ∀ rest, text ≠ '\ufeff' :: rest := by
    rintro rest rfl
    exact absurd (allBlank '\ufeff' List.mem_cons_self) (by decide)
  unfold parse? at isParsed
  extract_lets characters at isParsed
  have isText : characters = text := by
    simp only [characters, String.toList_ofList]
  rw [isText] at isParsed
  split at isParsed
  · cases isParsed
  · rename_i isRead
    rw [statements_of_isBlank allBlank isRead] at isParsed
    exact (Option.some.inj isParsed).symm

end LiveConfig.Toml
