import LiveConfig.Proofs.Entries
import LiveConfig.Proofs.Toml.Documents
import LiveConfig.Settings.Layers

/-!
Contract: settings in one layer.

Keys of a layer are paths, and a layer is merged into what lies below it. A single layer whose keys are
names, and in which each stands once, gives the settings that its members say. Owns: this, and that a file
in TOML makes the layer of its document. Does not own: how fields are read.
-/

namespace LiveConfig.Layers

/-- A key that is a name as a whole: no step of a path begins in it. -/
def IsPlainKey (key : String) : Prop :=
  '.' ∉ key.toList ∧ '[' ∉ key.toList

instance (key : String) : Decidable (IsPlainKey key) := by
  unfold IsPlainKey
  infer_instance

variable {key : String} {members layer : Entries Value}

/-! ### Keys -/

theorem steps?_of_noStep {fuel : Nat} {first : Char} {rest : List Char} (noDot : first ≠ '.')
    (noBracket : first ≠ '[') : steps? fuel (first :: rest) = none := by
  cases fuel with
  | zero => rfl
  | succ fuel =>
      unfold steps?
      split
      · rfl
      · rename_i isEmpty
        cases isEmpty
      · rename_i starts
        exact absurd (List.head_eq_of_cons_eq starts) noDot
      · rename_i starts
        exact absurd (List.head_eq_of_cons_eq starts) noBracket
      · rfl

theorem keyPath_of_isPlainKey (plain : IsPlainKey key) : keyPath key = (key, []) := by
  obtain ⟨noDot, noBracket⟩ := plain
  unfold keyPath
  split
  · rfl
  · rename_i name rest isName
    rw [nameAt] at isName
    split at isName
    · cases isName
    · obtain ⟨isTaken, isDropped⟩ := Prod.mk.inj (Option.some.inj isName)
      have inKey : ∀ character ∈ rest, character ∈ key.toList := by
        rw [← isDropped]
        exact fun character member => List.mem_of_mem_drop member
      cases rest with
      | nil =>
          -- The name is the whole key.
          have whole : key.toList.takeWhile isNameCharacter = key.toList :=
            (List.takeWhile_prefix _).eq_of_length_le (List.drop_eq_nil_iff.mp isDropped)
          rw [← isTaken, whole, String.ofList_toList]
          rfl
      | cons first rest =>
          have notDot : first ≠ '.' := fun same => noDot (same ▸ inKey first List.mem_cons_self)
          have notBracket : first ≠ '[' := fun same => noBracket (same ▸ inKey first List.mem_cons_self)
          rw [steps?_of_noStep notDot notBracket]

theorem bind_of_isPlainKey (plain : IsPlainKey key) (members : Entries Value) (value : Value) :
    bind members key value =
      members.insert key (merged ((members.find? key).getD .null) value) := by
  rw [bind, keyPath_of_isPlainKey plain]
  rfl

/-! ### One layer -/

theorem find?_apply (plain : ∀ key ∈ layer.keys, IsPlainKey key) (ascending : layer.Ascending)
    (apart : ∀ binding ∈ layer, members.find? binding.1 = none) (key : String) :
    (apply members layer).find? key = ((layer.find? key).map (merged .null)).or (members.find? key) := by
  induction layer generalizing members with
  | nil => rfl
  | cons binding rest inductionHypothesis =>
      obtain ⟨first, value⟩ := binding
      obtain ⟨firstBefore, restAscending⟩ := List.pairwise_cons.mp ascending
      have missing : members.find? first = none := apart (first, value) List.mem_cons_self
      have bound : bind members first value = members.insert first (merged .null value) := by
        rw [bind_of_isPlainKey (plain first List.mem_cons_self), missing]
        rfl
      have differs : ∀ binding ∈ rest, binding.1 ≠ first := by
        intro binding member same
        have less := firstBefore binding member
        rw [same] at less
        exact String.lt_irrefl _ less
      have restApart : ∀ binding ∈ rest,
          (members.insert first (merged .null value)).find? binding.1 = none := by
        intro binding member
        rw [Entries.find?_insert, if_neg (differs binding member)]
        exact apart binding (List.mem_cons_of_mem _ member)
      have later := inductionHypothesis (fun key member => plain key (List.mem_cons_of_mem _ member))
        restAscending restApart
      have applied : apply members ((first, value) :: rest) =
          apply (members.insert first (merged .null value)) rest := by
        rw [← bound]
        rfl
      rw [applied, later, Entries.find?_insert]
      by_cases same : first = key
      · subst same
        have noLater : Entries.find? first rest = none := by
          cases found : Entries.find? first rest with
          | none => rfl
          | some other => exact absurd rfl (differs _ (Entries.mem_of_find? found))
        simp [Entries.find?, noLater]
      · simp [Entries.find?, same, Ne.symm same]

/-! ### Fields -/

/-- Merging into nothing changes objects only, so a conversion that does not look into objects does not see
it. -/
theorem apply_merged_null {α : Type} (convert : Value → α)
    (blind : ∀ members others, convert (.object members) = convert (.object others)) (value : Value) :
    convert (merged .null value) = convert value := by
  cases value with
  | object members => exact blind _ members
  | _ => rfl

theorem given_map_merged {α : Type} {convert : Value → Except ShapeFault α}
    (blind : ∀ members others, convert (.object members) = convert (.object others))
    (found : Option Value) :
    Conversions.given convert (found.map (merged .null)) = Conversions.given convert found := by
  cases found with
  | none => rfl
  | some value => exact congrArg (Except.map some) (apply_merged_null convert blind value)

theorem optional_map_merged {α : Type} {convert : Value → Except ShapeFault α}
    (blind : ∀ members others, convert (.object members) = convert (.object others))
    (found : Option Value) :
    lenient.optional convert (found.map (merged .null)) = lenient.optional convert found := by
  cases found with
  | none => rfl
  | some value =>
      exact apply_merged_null (fun value => lenient.optional convert (some value))
        (fun members others => congrArg (Except.map some) (blind members others)) value

/-- The settings of a layer by itself are those that its members say. -/
theorem ofMembers_apply (plain : ∀ key ∈ layer.keys, IsPlainKey key) (ascending : layer.Ascending) :
    Settings.ofMembers lenient (apply [] layer) = Settings.ofMembers lenient layer := by
  have found (key : String) : (apply [] layer).find? key = (layer.find? key).map (merged .null) := by
    rw [find?_apply plain ascending (fun _ _ => rfl)]
    exact Option.or_none ..
  rw [Settings.ofMembers, Settings.ofMembers, found, found, found, found,
    given_map_merged fun _ _ => rfl, optional_map_merged fun _ _ => rfl,
    given_map_merged fun _ _ => rfl, given_map_merged fun _ _ => rfl]

/-! ### Files -/

section Files

open Toml

/-- No statement begins with a byte order mark. -/
theorem parse?_of_two_marks (rest : List Char) :
    Toml.parse? (.ofList ('\ufeff' :: '\ufeff' :: rest)) = none := by
  have noStatement : statement ('\ufeff' :: rest) = none := by
    simp [statement, keyValue, Toml.key, keyParts, keyPart, lineEnd?, isBareKey, isSpace]
  have noSpace : ('\ufeff' :: rest).dropWhile isSpace = '\ufeff' :: rest := by
    simp [isSpace]
  have noStatements : statements (('\ufeff' :: rest).length + 1) ('\ufeff' :: rest) = none := by
    rw [statements, noSpace, noStatement]
    exact List.cons_ne_nil _ _
  rw [Toml.parse?]
  simp only [String.toList_ofList, noStatements]

theorem parse?_of_mark {rest : List Char} {document : Entries Item}
    (isParsed : Toml.parse? (.ofList ('\ufeff' :: rest)) = some document) :
    Toml.parse? (.ofList rest) = some document := by
  cases rest with
  | nil => exact isParsed
  | cons first others =>
      by_cases isMark : first = '\ufeff'
      · rw [isMark, parse?_of_two_marks] at isParsed
        cases isParsed
      · have same : Toml.parse? (.ofList (first :: others)) =
            Toml.parse? (.ofList ('\ufeff' :: first :: others)) := by
          rw [Toml.parse?, Toml.parse?]
          simp [isMark]
        rw [same, isParsed]

/-- A file in TOML makes the layer of its document. -/
theorem ofFile?_toml {text : String} {document : Entries Item}
    (isParsed : Toml.parse? text = some document) :
    ofFile? .toml text = valuesOfMembers .layer document := by
  have read {text : String} (isParsed : Toml.parse? text = some document) :
      Toml.members? .layer text = valuesOfMembers .layer document := by
    rw [Toml.members?, isParsed]
  unfold ofFile?
  extract_lets unmarked
  apply read
  simp only [unmarked]
  split
  · rename_i rest starts
    apply parse?_of_mark
    rw [← starts, String.ofList_toList, isParsed]
  · exact isParsed

theorem ofVariables_eq_nil {environment : List (String × String)}
    (noVariable : ∀ binding ∈ environment, keyOfVariable? binding.1 = none) :
    ofVariables environment = [] := by
  apply List.filterMap_eq_nil_iff.mpr
  intro binding member
  show (keyOfVariable? binding.1).map _ = none
  rw [noVariable binding member, Option.map_none]

/-- A file in TOML, and no variable that counts, make one layer. -/
theorem members?_toml {fileName text : String} {environment : List (String × String)}
    {document : Entries Item} (isToml : extension fileName = "toml")
    (noVariable : ∀ binding ∈ environment, keyOfVariable? binding.1 = none)
    (isParsed : Toml.parse? text = some document) :
    members? (some (fileName, some text)) environment =
      (valuesOfMembers .layer document).map (apply []) := by
  have isFormat : FileFormat.ofFileName? fileName = some .toml := by
    rw [FileFormat.ofFileName?, isToml]
    rfl
  unfold members?
  simp only [isFormat, Option.bind_some, ofFile?_toml isParsed, ofVariables_eq_nil noVariable]
  rfl

end Files

end LiveConfig.Layers
