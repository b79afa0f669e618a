import LiveConfig.Proofs.Sources.Names

/-!
Contract: what an edit of property sources puts in, takes out and leaves.

Owns: that no edit loses or doubles a source, and that one which puts a source in leaves the sources of
other names in their order. What was in the list and what the edit brings along is in the list afterwards
or is what the edit leaves without a place.
-/

namespace LiveConfig

/-- The source that an edit brings along. -/
def SourceEdit.source? : SourceEdit → Option Source
  | .place _ source | .replace _ source => some source
  | .remove _ => none

namespace SourceList

variable {sources : SourceList} {name : String} {source : Source}

theorem perm_without (name : String) (sources : SourceList) :
    sources.list.Perm ((sources.source? name).toList ++ without name sources.list) := by
  obtain ⟨list⟩ := sources
  simp only [source?]
  induction list with
  | nil => exact .nil
  | cons head rest inductionHypothesis =>
      by_cases same : head.name = name
      · simp [without, same]
      · have next := (inductionHypothesis.cons head).trans List.perm_middle.symm
        simpa [without, same] using next

theorem perm_place {placement : Placement} {change : Change}
    (placed : sources.place placement source = .ok change) :
    (source :: sources.list).Perm (change.1.toList ++ change.2.list) := by
  have outAndIn {list : List Source} (onceMore : list.Perm (source :: without source.name sources.list)) :
      (source :: sources.list).Perm ((sources.source? source.name).toList ++ list) := by
    refine .trans ?_ (onceMore.symm.append_left _)
    exact ((perm_without source.name sources).cons source).trans List.perm_middle.symm
  have beside (relative : String) (isBehind : Bool)
      (put : sources.putBeside relative isBehind source = .ok change) :
      (source :: sources.list).Perm (change.1.toList ++ change.2.list) := by
    unfold putBeside at put
    split at put
    · cases put
    · rename_i differs
      split at put
      · cases put
      · rename_i known
        obtain rfl := Except.ok.inj put
        have there : relative ∈ sources.names := hasSource_iff_mem_names.mp (by simpa using known)
        have stillThere : relative ∈ (without source.name sources.list).map Source.name := by
          rw [map_name_without]
          exact (List.mem_erase_of_ne (Ne.symm differs)).mpr there
        exact outAndIn (perm_insertBeside isBehind source stillThere)
  cases placement with
  | first =>
      obtain rfl := Except.ok.inj placed
      exact outAndIn (.refl _)
  | last =>
      obtain rfl := Except.ok.inj placed
      exact outAndIn (List.perm_append_singleton source _)
  | before relative => exact beside relative false placed
  | after relative => exact beside relative true placed

/-- A source that is placed takes the one of its name out. -/
theorem place_taken {placement : Placement} {change : Change}
    (placed : sources.place placement source = .ok change) :
    change.1 = sources.source? source.name := by
  have beside (relative : String) (isBehind : Bool)
      (put : sources.putBeside relative isBehind source = .ok change) :
      change.1 = sources.source? source.name := by
    unfold putBeside at put
    split at put
    · cases put
    · split at put
      · cases put
      · obtain rfl := Except.ok.inj put
        rfl
  cases placement with
  | first | last =>
      obtain rfl := Except.ok.inj placed
      rfl
  | before relative => exact beside relative false placed
  | after relative => exact beside relative true placed

theorem perm_replace (there : sources.hasSource name = true) (source : Source) :
    (source :: sources.list).Perm
      ((sources.replace name source).1.toList ++ (sources.replace name source).2.list) := by
  obtain ⟨list⟩ := sources
  have named := hasSource_iff_mem_names.mp there
  simp only [names, replace, source?] at named ⊢
  clear there
  induction list with
  | nil => cases named
  | cons head rest inductionHypothesis =>
      by_cases same : head.name = name
      · simpa [exchange, same] using List.Perm.swap head source rest
      · have inRest := (List.mem_cons.mp named).resolve_left (Ne.symm same)
        have next := ((inductionHypothesis inRest).cons head).trans List.perm_middle.symm
        simpa [exchange, same] using (List.Perm.swap head source rest).trans next

/-- No edit loses or doubles a source. -/
theorem perm_after (sources : SourceList) (edit : SourceEdit) :
    (edit.source?.toList ++ sources.list).Perm
      ((sources.displaced edit).toList ++ (sources.after edit).list) := by
  cases edit with
  | place placement source =>
      cases placed : sources.place placement source with
      | error error =>
          simp only [SourceEdit.source?, displaced, after, apply, placed]
          exact .refl _
      | ok change =>
          have perm := perm_place placed
          obtain ⟨_ | old, list⟩ := change
          · simp only [SourceEdit.source?, displaced, after, apply, placed]
            exact perm
          · simp only [SourceEdit.source?, displaced, after, apply, placed]
            exact perm
  | replace name source =>
      by_cases there : sources.hasSource name = true
      · have perm := perm_replace there source
        obtain ⟨old, found⟩ := Option.isSome_iff_exists.mp there
        simp only [SourceEdit.source?, displaced, after, apply, replace, found] at perm ⊢
        exact perm
      · have absent := mt hasSource_iff_mem_names.mpr there
        have missing : sources.source? name = none := by simpa [hasSource] using there
        simp only [SourceEdit.source?, displaced, after, apply, replace, missing,
          exchange_of_not_mem source absent]
        exact .refl _
  | remove name =>
      have perm := perm_without name sources
      cases found : sources.source? name with
      | none | some =>
          rw [found] at perm
          simp only [SourceEdit.source?, displaced, after, apply, remove, found]
          exact perm

/-! ### Sources of other names -/

/-- The sources of a name, in their order. -/
def named (sources : SourceList) (name : String) : List Source :=
  sources.list.filter (·.name = name)

theorem filter_without {other : String} (differs : name ≠ other) (list : List Source) :
    (without name list).filter (·.name = other) = list.filter (·.name = other) := by
  induction list with
  | nil => rfl
  | cons head rest inductionHypothesis =>
      by_cases same : head.name = name
      · simp [without, same, differs]
      · rw [without, List.eraseP_cons_of_neg (by simpa using same), ← without, List.filter_cons,
          List.filter_cons, inductionHypothesis]

theorem filter_insertBeside {other : String} (differs : source.name ≠ other) (relative : String)
    (isBehind : Bool) (list : List Source) :
    (insertBeside relative isBehind source list).filter (·.name = other) =
      list.filter (·.name = other) := by
  induction list with
  | nil => rfl
  | cons head rest inductionHypothesis =>
      by_cases same : head.name = relative
      · cases isBehind <;> simp [insertBeside, same, differs, List.filter_cons]
      · simp [insertBeside, same, List.filter_cons, inductionHypothesis]

theorem replace_named {other : String} (differs : source.name ≠ other) (sources : SourceList) :
    (sources.replace source.name source).2.named other = sources.named other := by
  obtain ⟨list⟩ := sources
  simp only [named, replace]
  induction list with
  | nil => rfl
  | cons head rest inductionHypothesis =>
      by_cases same : head.name = source.name
      · simp [exchange, same, differs]
      · simp [exchange, same, List.filter_cons, inductionHypothesis]

/-- Wherever a source is placed, the sources of another name stay in their order. -/
theorem place_named {other : String} (differs : source.name ≠ other) {placement : Placement}
    {change : Change} (placed : sources.place placement source = .ok change) :
    change.2.named other = sources.named other := by
  have rest := filter_without differs sources.list
  have beside (relative : String) (isBehind : Bool)
      (put : sources.putBeside relative isBehind source = .ok change) :
      change.2.named other = sources.named other := by
    unfold putBeside at put
    split at put
    · cases put
    · split at put
      · cases put
      · obtain rfl := Except.ok.inj put
        exact (filter_insertBeside differs relative isBehind _).trans rest
  cases placement with
  | first =>
      obtain rfl := Except.ok.inj placed
      exact (List.filter_cons_of_neg (by simpa using differs)).trans rest
  | last =>
      obtain rfl := Except.ok.inj placed
      have behind : (without source.name sources.list ++ [source]).filter (·.name = other) =
          (without source.name sources.list).filter (·.name = other) := by
        simp [differs]
      exact behind.trans rest
  | before relative => exact beside relative false placed
  | after relative => exact beside relative true placed

end SourceList

end LiveConfig
