import LiveConfig.Proofs.Settings.Conversions
import LiveConfig.Proofs.Settings.Layers

/-!
Contract: a settings file in TOML, read strictly and as the only layer.

Both readings give the same settings, or find the same fault in them, up to the integers that a layer
cannot hold. Owns: the two outcomes. Does not own: files of other formats, and files with environment
variables over them.
-/

namespace LiveConfig.Settings

open Toml

variable {text : String} {document : Entries Item} {settings : Settings}

/-- What is read strictly is read from the values of the document. -/
theorem exists_values_of_parse? (isParsed : Toml.parse? text = some document)
    (accepted : parse? text = some settings) :
    ∃ values, valuesOfMembers .settings document = some values ∧
      ofMembers Conversions.toml values = .ok settings := by
  obtain ⟨values, areValues, isRead⟩ := Option.bind_eq_some_iff.mp accepted
  rw [Toml.members?, isParsed] at areValues
  refine ⟨values, areValues, ?_⟩
  cases isSettings : ofMembers Conversions.toml values with
  | error =>
      rw [isSettings] at isRead
      cases isRead
  | ok found =>
      rw [isSettings] at isRead
      cases isRead
      rfl

section Layer

variable {fileName : String} {environment : List (String × String)}
  (isToml : Layers.extension fileName = "toml")
  (noVariable : ∀ binding ∈ environment, Layers.keyOfVariable? binding.1 = none)
  (isParsed : Toml.parse? text = some document)

include isToml noVariable isParsed

theorem ofLayers_of_unfit (unfit : ∃ member ∈ document, member.2.Unfit) :
    ofLayers (some (fileName, some text)) environment = .error (.settings .unreadableLayer) := by
  have noLayer : valuesOfMembers .layer document = none :=
    (valuesOfMembers_layer_eq_none_iff document).mpr unfit
  rw [ofLayers, Layers.members?_toml isToml noVariable isParsed, noLayer]
  rfl

variable (plain : ∀ key ∈ document.keys, Layers.IsPlainKey key)
  (fit : ∀ member ∈ document, ¬ member.2.Unfit)

include plain fit

/-- A document that a layer can hold gives what its members say when they are read leniently. -/
theorem ofLayers_of_fit :
    ∃ layer, valuesOfMembers .layer document = some layer ∧
      ∀ settings, ofMembers Layers.lenient layer = .ok settings →
        ofLayers (some (fileName, some text)) environment = settings.validate := by
  cases isLayer : valuesOfMembers .layer document with
  | none =>
      obtain ⟨member, isMember, unfit⟩ := (valuesOfMembers_layer_eq_none_iff document).mp isLayer
      exact absurd unfit (fit member isMember)
  | some layer =>
      obtain ⟨documentAscends, -⟩ := sorted_of_parse? isParsed
      have ascending : Entries.Ascending layer := ascending_valuesOfMembers isLayer documentAscends
      have plainLayer : ∀ key ∈ Entries.keys layer, Layers.IsPlainKey key := by
        rw [keys_valuesOfMembers isLayer]
        exact plain
      have read := Layers.ofMembers_apply plainLayer ascending
      have isMembers : Layers.members? (some (fileName, some text)) environment =
          some (Layers.apply [] layer) := by
        rw [Layers.members?_toml isToml noVariable isParsed, isLayer, Option.map_some]
      refine ⟨layer, rfl, ?_⟩
      intro settings isRead
      simp only [ofLayers, isMembers, read, isRead]

end Layer

/-- A settings file in TOML whose fields are of their kinds has one of two outcomes as the only layer. An
integer that is no signed word, wherever it stands, makes it unreadable; in any other file both readings
agree, in the settings as in the fault of them. -/
theorem ofLayers_toml_outcomes {fileName : String} {environment : List (String × String)}
    (isToml : Layers.extension fileName = "toml")
    (noVariable : ∀ binding ∈ environment, Layers.keyOfVariable? binding.1 = none)
    (isParsed : Toml.parse? text = some document)
    (plain : ∀ key ∈ document.keys, Layers.IsPlainKey key)
    (accepted : parse? text = some settings) :
    ((∃ member ∈ document, member.2.Unfit) →
      ofLayers (some (fileName, some text)) environment = .error (.settings .unreadableLayer)) ∧
    ((∀ member ∈ document, ¬ member.2.Unfit) →
      ofLayers (some (fileName, some text)) environment = ofToml text) := by
  obtain ⟨values, areValues, isRead⟩ := exists_values_of_parse? isParsed accepted
  refine ⟨ofLayers_of_unfit isToml noVariable isParsed, ?_⟩
  intro fit
  obtain ⟨layer, isLayer, checked⟩ := ofLayers_of_fit isToml noVariable isParsed plain fit
  have kept : ofMembers Layers.lenient layer = .ok settings :=
    keptBy_ofMembers areValues isLayer settings isRead
  have strict : ofToml text = settings.validate := by rw [ofToml, accepted]
  rw [checked settings kept, strict]

/-- A file with a request whose first key is the key of dates and times, and with a date that no field
reads, beside a variable that does not count. -/
theorem listed_toml_outcome :
    let text := "retry_interval_ms = 5\nsince = 1979-05-27\n[[sources]]\n" ++
      "\"$__toml_private_datetime\" = \"1979-05-27\"\nconnect_string = \"h:1\"\nroot_path = \"/\"\n"
    ∃ document, Toml.parse? text = some document ∧ (∀ key ∈ document.keys, Layers.IsPlainKey key) ∧
      parse? text = some ⟨5, none, "info", [.ofRoot "h:1" "/"]⟩ ∧
      (∀ member ∈ document, ¬ member.2.Unfit) ∧
      ofLayers (some ("coordconf.toml", some text)) [("HOME", "/")] = ofToml text := by
  intro text
  have accepted : parse? text = some ⟨5, none, "info", [.ofRoot "h:1" "/"]⟩ := by decide +kernel
  have shape : (Toml.parse? text).map (fun document => (document.keys,
      decide (∀ member ∈ document, ¬ member.2.Unfit))) =
      some (["retry_interval_ms", "since", "sources"], true) := by decide +kernel
  obtain ⟨document, isParsed, isShape⟩ := Option.map_eq_some_iff.mp shape
  obtain ⟨areKeys, isHeld⟩ := Prod.mk.inj isShape
  have fit := of_decide_eq_true isHeld
  have plain : ∀ key ∈ document.keys, Layers.IsPlainKey key := by
    rw [areKeys]
    decide
  exact ⟨document, isParsed, plain, accepted, fit,
    (ofLayers_toml_outcomes (by decide) (by decide) isParsed plain accepted).2 fit⟩

/-- An interval beyond a signed word is read strictly only. -/
theorem strict_reading_accepts_more :
    let wide := "retry_interval_ms = 9223372036854775808"
    (Toml.parse? wide).map Entries.keys = some ["retry_interval_ms"] ∧
      ofToml wide = .ok ⟨9223372036854775808, none, "info", []⟩ ∧
      ofLayers (some ("coordconf.toml", some wide)) [] = .error (.settings .unreadableLayer) := by
  intro wide
  have wideSettings : parse? wide = some ⟨9223372036854775808, none, "info", []⟩ := by decide +kernel
  have wideLayer : Layers.members? (some ("coordconf.toml", some wide)) [] = none := by decide +kernel
  refine ⟨by decide +kernel, ?_, ?_⟩
  · rw [ofToml, wideSettings]
    rfl
  · rw [ofLayers, wideLayer]

end LiveConfig.Settings
