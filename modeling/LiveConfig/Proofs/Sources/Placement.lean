import LiveConfig.Proofs.Sources.Contents
import LiveConfig.Proofs.Sources.Installation

/-!
Contract: where a source stands after it was placed, whatever was there before.

A source that is placed goes among the sources of other names, and an old one of its name goes away, on
whichever side of its new neighbour it stood. Owns: when a placement is refused and with which error, and
the list after a placement as that of the other sources with one more. Does not own: exchanges in place.
-/

namespace LiveConfig.SourceList

variable {sources : SourceList} {source : Source} {placement : Placement} {name : String}
  {list : List Source}

/-- The sources of other names than one. -/
def others (sources : SourceList) (name : String) : SourceList :=
  ⟨sources.list.filter (·.name ≠ name)⟩

/-- The cases in which a placement is refused for a source of a name, each with its error. -/
inductive Misplaces (sources : SourceList) (name : String) : Placement → ConfigError → Prop
  | besideItself {placement : Placement} (relative : placement.relative? = some name) :
      Misplaces sources name placement (.settings (.selfRelative name))
  | besideNothing {placement : Placement} {relative : String} (isOther : relative ≠ name)
      (beside : placement.relative? = some relative) (unknown : relative ∉ sources.names) :
      Misplaces sources name placement (.unknownSource relative)

/-! ### Refusals -/

theorem putBeside_eq_error_iff (relative : String) (isBehind : Bool) (error : ConfigError) :
    sources.putBeside relative isBehind source = .error error ↔
      relative = source.name ∧ error = .settings (.selfRelative relative) ∨
        relative ≠ source.name ∧ relative ∉ sources.names ∧ error = .unknownSource relative := by
  unfold putBeside
  by_cases isSelf : source.name = relative
  · simp [isSelf, eq_comm]
  · by_cases there : relative ∈ sources.names
    · simp [isSelf, Ne.symm isSelf, hasSource_iff_mem_names.mpr there, there]
    · have unknown : sources.hasSource relative = false := by
        simpa using mt hasSource_iff_mem_names.mp there
      simp [isSelf, Ne.symm isSelf, unknown, there, eq_comm]

theorem place_eq_error_iff (placement : Placement) (source : Source) (error : ConfigError) :
    sources.place placement source = .error error ↔
      sources.Misplaces source.name placement error := by
  have beside {placement : Placement} {relative : String} {isBehind : Bool}
      (isRelative : placement.relative? = some relative) :
      sources.putBeside relative isBehind source = .error error ↔
        sources.Misplaces source.name placement error := by
    rw [putBeside_eq_error_iff]
    constructor
    · rintro (⟨rfl, rfl⟩ | ⟨isOther, unknown, rfl⟩)
      · exact .besideItself isRelative
      · exact .besideNothing isOther isRelative unknown
    · intro misplaced
      cases misplaced with
      | besideItself itself =>
          cases isRelative.symm.trans itself
          exact .inl ⟨rfl, rfl⟩
      | besideNothing isOther nothing unknown =>
          cases isRelative.symm.trans nothing
          exact .inr ⟨isOther, unknown, rfl⟩
  cases placement with
  | first | last =>
      refine ⟨nofun, fun misplaced => ?_⟩
      cases misplaced with
      | besideItself itself => cases itself
      | besideNothing _ nothing _ => cases nothing
  | before relative | after relative => exact beside rfl

/-! ### Placements among the other sources -/

/-- Where names are unique, what remains without the first source of a name are the sources of other
names. -/
theorem without_eq_filter (unique : (list.map Source.name).Nodup) (name : String) :
    without name list = list.filter (·.name ≠ name) := by
  induction list with
  | nil => rfl
  | cons head rest inductionHypothesis =>
      obtain ⟨notInRest, restUnique⟩ := List.nodup_cons.mp unique
      by_cases same : head.name = name
      · have kept : rest.filter (·.name ≠ name) = rest := by
          refine List.filter_eq_self.mpr fun other member => decide_eq_true fun isName => ?_
          exact notInRest (same.trans isName.symm ▸ List.mem_map_of_mem member)
        rw [List.filter_cons_of_neg (by simpa using same), kept]
        simp [without, same]
      · simpa [without, same] using inductionHypothesis restUnique

theorem names_others (sources : SourceList) (name : String) :
    (sources.others name).names = sources.names.filter (· ≠ name) := by
  simp [names, others, List.filter_map, Function.comp_def]

theorem not_mem_names_others (sources : SourceList) (name : String) :
    name ∉ (sources.others name).names := by
  simp [names_others]

/-- Beside whatever a source is placed, its old self does not matter but for being taken out. -/
theorem place_eq_place_others (unique : sources.names.Nodup) (placement : Placement) (source : Source) :
    sources.place placement source =
      ((sources.others source.name).place placement source).map
        fun change => (sources.source? source.name, change.2) := by
  have rest : without source.name sources.list = (sources.others source.name).list :=
    without_eq_filter unique source.name
  have again : without source.name (sources.others source.name).list =
      (sources.others source.name).list :=
    without_of_not_mem (sources.not_mem_names_others source.name)
  have beside (relative : String) (isBehind : Bool) :
      sources.putBeside relative isBehind source =
        ((sources.others source.name).putBeside relative isBehind source).map
          fun change => (sources.source? source.name, change.2) := by
    unfold putBeside
    by_cases isSelf : source.name = relative
    · simp [isSelf, Except.map]
    · have same : (sources.others source.name).hasSource relative = sources.hasSource relative := by
        rw [Bool.eq_iff_iff, hasSource_iff_mem_names, hasSource_iff_mem_names, names_others]
        simp [Ne.symm isSelf]
      rw [if_neg isSelf, if_neg isSelf, same]
      split
      · rfl
      · simp only [remove, rest, again, Except.map]
  cases placement with
  | first | last => simp only [place, putFirst, putLast, remove, rest, again, Except.map]
  | before relative => exact beside relative false
  | after relative => exact beside relative true

theorem Installed.perm {placed : List Source} (installed : Installed source placement list placed)
    (isNew : source.name ∉ list.map Source.name) : placed.Perm (source :: list) := by
  cases installed with
  | swapped ahead old behind sameName => simp [sameName] at isNew
  | first => exact .refl _
  | last => exact List.perm_append_singleton source list
  | before ahead other behind => exact List.perm_middle
  | after ahead other behind =>
      exact ((List.Perm.swap source other behind).append_left ahead).trans List.perm_middle

/-- A source that is new among others is the only one of its name after its installation. -/
theorem Installed.named_eq {placed : List Source} (installed : Installed source placement list placed)
    (isNew : source.name ∉ list.map Source.name) : (SourceList.mk placed).named source.name = [source] := by
  have nothing : list.filter (·.name = source.name) = [] := by
    refine List.filter_eq_nil_iff.mpr fun other member => ?_
    simpa using fun same : other.name = source.name => isNew (same ▸ List.mem_map_of_mem member)
  have named := (installed.perm isNew).filter (·.name = source.name)
  rw [List.filter_cons_of_pos (by simp), nothing] at named
  exact List.perm_singleton.mp named

/-- A source is placed right where the placement says among the sources of other names, all of which keep
their order, and is the only one of its name afterwards, wherever an old one stood. It is refused, and
nothing changes, exactly if it would stand beside itself or beside a source that is not there. -/
theorem place_exact (unique : sources.names.Nodup) (placement : Placement) (source : Source) :
    (∀ error, sources.place placement source = .error error ↔
        sources.Misplaces source.name placement error) ∧
      (∀ error, sources.place placement source = .error error →
        sources.after (.place placement source) = sources) ∧
      ∀ taken placed, sources.place placement source = .ok (taken, placed) →
        sources.after (.place placement source) = placed ∧
          taken = sources.source? source.name ∧
          placed.named source.name = [source] ∧
          Installed source placement (sources.others source.name).list placed.list := by
  refine ⟨sources.place_eq_error_iff placement source, fun error refused => ?_,
    fun taken placed accepted => ?_⟩
  · simp only [after, apply, refused]
  have isNew := sources.not_mem_names_others source.name
  have among := place_eq_place_others unique placement source
  rcases place_of_isNew isNew placement with ⟨-, error, refused⟩ | ⟨-, others, put, installed⟩
  · rw [refused, accepted] at among
    cases among
  · rw [put, accepted] at among
    obtain ⟨rfl, rfl⟩ := Prod.mk.inj (Except.ok.inj among)
    refine ⟨?_, rfl, installed.named_eq isNew, installed⟩
    simp only [after, apply, accepted]

/-- Three sources, the middle one of which has a value. -/
def layered : SourceList :=
  ⟨[.fixed "command line" .empty, .fixed "store" (.ofList [("port", .text "80")]),
    .fixed "defaults" .empty]⟩

/-- A source goes behind one that stood behind it before, and cannot go behind one that is not there. -/
theorem layered_place_exact :
    layered.names.Nodup ∧
      (∃ placed, layered.place (.after "defaults") (.fixed "store" .empty) =
          .ok (layered.source? "store", placed) ∧
        placed.names = ["command line", "defaults", "store"] ∧
        placed.named "store" = [.fixed "store" .empty] ∧
        Installed (.fixed "store" .empty) (.after "defaults") (layered.others "store").list
          placed.list) ∧
      layered.place (.before "file") (.fixed "store" .empty) = .error (.unknownSource "file") ∧
      layered.after (.place (.before "file") (.fixed "store" .empty)) = layered := by
  have unique : layered.names.Nodup := by decide
  obtain ⟨-, -, stands⟩ := place_exact unique (.after "defaults") (.fixed "store" .empty)
  obtain ⟨refused, unchanged, -⟩ := place_exact unique (.before "file") (.fixed "store" .empty)
  have placed : layered.place (.after "defaults") (.fixed "store" .empty) =
      .ok (layered.source? "store", ⟨[.fixed "command line" .empty, .fixed "defaults" .empty,
        .fixed "store" .empty]⟩) := rfl
  have unknown : layered.place (.before "file") (.fixed "store" .empty) =
      .error (.unknownSource "file") :=
    (refused _).mpr (.besideNothing (by decide) rfl (by decide))
  obtain ⟨-, -, only, installed⟩ := stands _ _ placed
  exact ⟨unique, ⟨_, placed, rfl, only, installed⟩, unknown, unchanged _ unknown⟩

end LiveConfig.SourceList
