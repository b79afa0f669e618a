import LiveConfig.Proofs.Toml.Readings
import LiveConfig.Settings.Layers

/-!
Contract: records that are read strictly against the same records read leniently.

What a strict conversion takes, the lenient one takes for the same; so what is read strictly among settings
is read leniently in a layer, field by field and record by record. Owns: this for the fields of load
requests and of settings. Does not own: how layers are put together.
-/

namespace LiveConfig

/-! ### Results -/

/-- What one result gives, the other one gives too. -/
def KeptBy {α : Type} (result other : Except ShapeFault α) : Prop :=
  ∀ value, result = .ok value → other = .ok value

section Results

variable {α β : Type} {result other : Except ShapeFault α} {next onward : α → Except ShapeFault β}

theorem keptBy_refl (result : Except ShapeFault α) : KeptBy result result :=
  fun _ => id

theorem keptBy_error (fault : ShapeFault) (other : Except ShapeFault α) : KeptBy (.error fault) other :=
  nofun

theorem keptBy_bind (kept : KeptBy result other) (thenKept : ∀ value, KeptBy (next value) (onward value)) :
    KeptBy (result >>= next) (other >>= onward) := by
  intro final isFinal
  cases result with
  | error => cases isFinal
  | ok value =>
      rw [kept value rfl]
      exact thenKept value final isFinal

theorem keptBy_map (kept : KeptBy result other) (change : α → β) :
    KeptBy (result.map change) (other.map change) := by
  intro final isFinal
  cases result with
  | error => cases isFinal
  | ok value =>
      rw [kept value rfl]
      exact isFinal

end Results

open Toml Conversions

/-! ### Fields -/

/-- A strict conversion and a lenient one, of which the lenient one takes what the strict one takes, when
both see one node. -/
def Relaxes {α : Type} (strict lenient : Value → Except ShapeFault α) : Prop :=
  ∀ {item : Item} {value other : Value}, item.ReadTwice value other → KeptBy (strict value) (lenient other)

theorem relaxes_text : Relaxes Conversions.toml.text Layers.lenient.text := by
  intro item value other twice
  cases twice with
  | text text => exact keptBy_refl (.ok text)
  | _ => exact keptBy_error _ _

theorem relaxes_truth : Relaxes Conversions.toml.truth Layers.lenient.truth := by
  intro item value other twice
  cases twice with
  | boolean truth => exact keptBy_refl (.ok truth)
  | _ => exact keptBy_error _ _

theorem relaxes_word (bound : Nat) :
    Relaxes (Conversions.toml.word bound) (Layers.lenient.word bound) := by
  intro item value other twice
  cases twice with
  | integer number =>
      intro word isWord
      have strict : (if 0 ≤ number ∧ number ≤ bound then Except.ok number.toNat else .error .outOfRange) =
          Except.ok (ε := ShapeFault) word := isWord
      split at strict
      · rename_i within
        cases strict
        show Layers.lenientWord bound (.integer number) = .ok number.toNat
        have small : number.toNat ≤ bound := by omega
        simp only [Layers.lenientWord, Layers.wordOf, if_pos within.1, if_pos small]
      · cases strict
  | _ => exact keptBy_error _ _

/-- A choice among names that are not the key of dates and times. -/
theorem relaxes_choice {α : Type} {choices : List (String × α)}
    (noDate : ∀ choice ∈ choices, choice.1 ≠ datetimeKey) :
    Relaxes (Conversions.toml.choice choices) (Layers.lenient.choice choices) := by
  intro item value other twice
  cases twice with
  | text text => exact keptBy_refl (named choices text)
  | datetime datetime =>
      have unnamed : choices.find? (fun choice => choice.1 = datetimeKey) = none := by
        apply List.find?_eq_none.mpr
        intro choice member
        simpa using noDate choice member
      intro chosen isChosen
      simp only [choice, datetimeObject, named, unnamed] at isChosen
      cases isChosen
  | table areValues areOthers =>
      rename_i members values others
      -- What is chosen is the one key, and that is the same in both readings.
      have sameKeys := (keys_valuesOfMembers areValues).trans (keys_valuesOfMembers areOthers).symm
      match values, others, sameKeys with
      | [(name, content)], [(_, _)], sameKeys =>
          obtain rfl := List.head_eq_of_cons_eq sameKeys
          intro chosen isChosen
          simp only [choice] at isChosen ⊢
          cases isNamed : named choices name with
          | error => rw [isNamed] at isChosen; cases isChosen
          | ok found =>
              rw [isNamed] at isChosen
              cases isContent : Conversions.toml.content content with
              | error => rw [isContent] at isChosen; cases isChosen
              | ok =>
                  rw [isContent] at isChosen
                  exact isChosen
      | [], _, _ => exact keptBy_error _ _
      | _ :: _ :: _, _, _ => exact keptBy_error _ _
  | _ => exact keptBy_error _ _

variable {α : Type} {strict lenient : Value → Except ShapeFault α} {found : Option Item}
  {value? other? : Option Value}

theorem keptBy_given (relaxes : Relaxes strict lenient) (twice : FoundTwice found value? other?) :
    KeptBy (given strict value?) (given lenient other?) := by
  cases twice with
  | none => exact keptBy_refl _
  | some twice => exact keptBy_map (relaxes twice) some

theorem keptBy_optional (relaxes : Relaxes strict lenient) (twice : FoundTwice found value? other?) :
    KeptBy (Conversions.toml.optional strict value?) (Layers.lenient.optional lenient other?) := by
  cases twice with
  | none => exact keptBy_refl _
  | @some item value other twice =>
      have noNull : isNull value = false ∧ isNull other = false := by
        cases twice <;> exact ⟨rfl, rfl⟩
      have strictOptional : Conversions.toml.optional strict (some value) = (strict value).map some :=
        if_neg (by simp [Conversions.toml, noNull.1])
      have lenientOptional : Layers.lenient.optional lenient (some other) = (lenient other).map some :=
        if_neg (by simp [Layers.lenient, noNull.2])
      rw [strictOptional, lenientOptional]
      exact keptBy_map (relaxes twice) some

theorem keptBy_itemAt {values others : List Value} {index : Nat} (record : String)
    (relaxes : Relaxes strict lenient) (twice : FoundTwice found values[index]? others[index]?) :
    KeptBy (itemAt record strict values index) (itemAt record lenient others index) := by
  rw [itemAt, itemAt]
  generalize values[index]? = value?, others[index]? = other? at twice
  cases twice with
  | none => exact keptBy_error _ _
  | some twice => exact relaxes twice

/-! ### Load requests -/

namespace LoadAttributes

theorem relaxes_format :
    Relaxes (Conversions.toml.choice formatChoices) (Layers.lenient.choice formatChoices) :=
  relaxes_choice (by decide)

theorem keptBy_ofMembers {members : Entries Item} {values others : Entries Value}
    (twice : ∀ key, FoundTwice (members.find? key) (values.find? key) (others.find? key)) :
    KeptBy (ofMembers Conversions.toml values) (ofMembers Layers.lenient others) := by
  apply keptBy_bind (keptBy_given relaxes_truth (twice "auto_refreshed"))
  intro autoRefreshed
  apply keptBy_bind (keptBy_given relaxes_text (twice "connect_string"))
  intro connectString
  apply keptBy_bind (keptBy_given relaxes_format (twice "format"))
  intro format
  apply keptBy_bind (keptBy_optional relaxes_text (twice "name"))
  intro name
  apply keptBy_bind (keptBy_given relaxes_text (twice "root_path"))
  intro rootPath
  exact keptBy_refl _

theorem keptBy_ofItems {items : List Item} {values others : List Value}
    (twice : ∀ index : Nat, FoundTwice items[index]? values[index]? others[index]?) :
    KeptBy (ofItems Conversions.toml values) (ofItems Layers.lenient others) := by
  apply keptBy_bind (keptBy_itemAt _ relaxes_text (twice 0))
  intro connectString
  apply keptBy_bind (keptBy_itemAt _ relaxes_text (twice 1))
  intro rootPath
  apply keptBy_bind (keptBy_given relaxes_truth (twice 2))
  intro autoRefreshed
  apply keptBy_bind (keptBy_optional relaxes_text (twice 3))
  intro name
  apply keptBy_bind (keptBy_given relaxes_format (twice 4))
  intro format
  exact keptBy_refl _

variable {item : Item} {value other : Value}

/-- A request is read leniently as it is read strictly. A date or time is no request: the object that
stands for it among settings has no endpoint. -/
theorem keptBy_ofValue (twice : item.ReadTwice value other) :
    KeptBy (ofValue Conversions.toml value) (ofValue Layers.lenient other) := by
  cases twice with
  | datetime datetime => exact keptBy_error (.missingField "connect_string") _
  | array areValues areOthers => exact keptBy_ofItems (foundTwice_getElem? areValues areOthers)
  | table areValues areOthers => exact keptBy_ofMembers (foundTwice_find? areValues areOthers)
  | _ => exact keptBy_error _ _

theorem keptBy_mapM {items : List Item} {values others : List Value}
    (areValues : valuesOfItems .settings items = some values)
    (areOthers : valuesOfItems .layer items = some others) :
    KeptBy (values.mapM (ofValue Conversions.toml)) (others.mapM (ofValue Layers.lenient)) := by
  induction items generalizing values others with
  | nil =>
      cases areValues
      cases areOthers
      exact keptBy_refl _
  | cons item rest inductionHypothesis =>
      obtain ⟨value, laterValues, isValue, areLater, rfl⟩ := valuesOfItems_cons areValues
      obtain ⟨other, laterOthers, isOther, areLaterOthers, rfl⟩ := valuesOfItems_cons areOthers
      rw [List.mapM_cons, List.mapM_cons]
      apply keptBy_bind (keptBy_ofValue (readTwice isValue isOther))
      intro attributes
      apply keptBy_bind (inductionHypothesis areLater areLaterOthers)
      intro others
      exact keptBy_refl _

end LoadAttributes

/-! ### Settings -/

namespace Settings

theorem keptBy_sources {found : Option Item} {value? other? : Option Value}
    (twice : FoundTwice found value? other?) :
    KeptBy (given (sourcesOf Conversions.toml) value?) (given (sourcesOf Layers.lenient) other?) := by
  cases twice with
  | none => exact keptBy_refl _
  | some twice =>
      apply keptBy_map
      cases twice with
      | array areValues areOthers => exact LoadAttributes.keptBy_mapM areValues areOthers
      | _ => exact keptBy_error _ _

/-- Settings that are read strictly are read leniently for the same. -/
theorem keptBy_ofMembers {document : Entries Item} {values others : Entries Value}
    (areValues : valuesOfMembers .settings document = some values)
    (areOthers : valuesOfMembers .layer document = some others) :
    KeptBy (ofMembers Conversions.toml values) (ofMembers Layers.lenient others) := by
  have twice := foundTwice_find? areValues areOthers
  apply keptBy_bind (keptBy_given relaxes_text (twice "log_level"))
  intro logLevel
  apply keptBy_bind (keptBy_optional (relaxes_word halfWordBound) (twice "max_retries"))
  intro maxRetries
  apply keptBy_bind (keptBy_given (relaxes_word wordBound) (twice "retry_interval_ms"))
  intro retryInterval
  apply keptBy_bind (keptBy_sources (twice "sources"))
  intro sources
  exact keptBy_refl _

end Settings

end LiveConfig
