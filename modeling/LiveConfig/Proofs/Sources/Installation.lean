import LiveConfig.Proofs.Sources.Names

/-!
Contract: where a source stands after it was installed.

A source takes the place of one of its name; without such a one it goes where a placement says. Owns: the
list after either, as the old list with one source exchanged or one more, and when a placement is refused.
Does not own: what becomes of the source that is taken out.
-/

namespace LiveConfig

/-- The name of the source that a placement is relative to. -/
def Placement.relative? : Placement → Option String
  | .first | .last => none
  | .before relative | .after relative => some relative

namespace SourceList

variable {sources : SourceList} {source : Source} {placement : Placement} {name relative : String}
  {list : List Source}

/-- The lists before and after a source was installed at a placement: the source of its name is swapped
for it, or it is one more at the placement. All other sources keep their order. -/
inductive Installed (source : Source) : Placement → List Source → List Source → Prop
  | swapped {placement : Placement} (ahead : List Source) (old : Source) (behind : List Source)
      (sameName : old.name = source.name) :
      Installed source placement (ahead ++ old :: behind) (ahead ++ source :: behind)
  | first {others : List Source} (isNew : source.name ∉ others.map Source.name) :
      Installed source .first others (source :: others)
  | last {others : List Source} (isNew : source.name ∉ others.map Source.name) :
      Installed source .last others (others ++ [source])
  | before (ahead : List Source) (other : Source) (behind : List Source)
      (isNew : source.name ∉ (ahead ++ other :: behind).map Source.name) :
      Installed source (.before other.name) (ahead ++ other :: behind)
        (ahead ++ source :: other :: behind)
  | after (ahead : List Source) (other : Source) (behind : List Source)
      (isNew : source.name ∉ (ahead ++ other :: behind).map Source.name) :
      Installed source (.after other.name) (ahead ++ other :: behind)
        (ahead ++ other :: source :: behind)

theorem Installed.mem_after {placed : List Source}
    (installed : Installed source placement list placed) : source ∈ placed := by
  cases installed <;> simp

/-- A placement is refused for a source of a name: the name is new, and the placement is relative to it or
to no source that is there. -/
def Refuses (sources : SourceList) (placement : Placement) (name : String) : Prop :=
  name ∉ sources.names ∧
    ∃ relative, placement.relative? = some relative ∧ (relative = name ∨ relative ∉ sources.names)

theorem source?_of_not_mem (absent : name ∉ sources.names) : sources.source? name = none := by
  simpa [hasSource] using mt hasSource_iff_mem_names.mp absent

theorem without_of_not_mem (absent : name ∉ list.map Source.name) : without name list = list :=
  List.eraseP_of_forall_not fun source member => by
    simpa using fun same : source.name = name => absent (same ▸ List.mem_map_of_mem member)

/-- A source that is put beside one is put beside the first of its name. -/
theorem insertBeside_eq (isBehind : Bool) (source : Source) (there : relative ∈ list.map Source.name) :
    ∃ ahead other behind, list = ahead ++ other :: behind ∧ other.name = relative ∧
      insertBeside relative isBehind source list =
        ahead ++ if isBehind then other :: source :: behind else source :: other :: behind := by
  induction list with
  | nil => cases there
  | cons head rest inductionHypothesis =>
      by_cases same : head.name = relative
      · exact ⟨[], head, rest, rfl, same, by simp [insertBeside, same]⟩
      · have inRest := (List.mem_cons.mp there).resolve_left (Ne.symm same)
        obtain ⟨ahead, other, behind, split, isOther, put⟩ := inductionHypothesis inRest
        exact ⟨head :: ahead, other, behind, by simp [split], isOther, by simp [insertBeside, same, put]⟩

theorem installed_of_replace (there : source.name ∈ sources.names) (placement : Placement) :
    Installed source placement sources.list (sources.replace source.name source).2.list := by
  obtain ⟨ahead, old, behind, split, sameName, exchanged⟩ := exchange_eq source there
  simp only [replace]
  rw [exchanged, split]
  exact .swapped ahead old behind sameName

/-- What is put beside a source is put there, or refused. -/
theorem putBeside_of_isNew (isNew : source.name ∉ sources.names) (relative : String)
    (isBehind : Bool) :
    (relative = source.name ∨ relative ∉ sources.names) ∧
        (∃ error, sources.putBeside relative isBehind source = .error error) ∨
      ¬ (relative = source.name ∨ relative ∉ sources.names) ∧
        ∃ ahead other behind, sources.list = ahead ++ other :: behind ∧ other.name = relative ∧
          sources.putBeside relative isBehind source = .ok (none,
            ⟨ahead ++ if isBehind then other :: source :: behind else source :: other :: behind⟩) := by
  by_cases isSelf : source.name = relative
  · exact .inl ⟨.inl isSelf.symm, _, by rw [putBeside, if_pos isSelf]⟩
  by_cases there : relative ∈ sources.names
  · obtain ⟨ahead, other, behind, split, isOther, put⟩ := insertBeside_eq isBehind source there
    refine .inr ⟨by simp [there, Ne.symm isSelf], ahead, other, behind, split, isOther, ?_⟩
    rw [putBeside, if_neg isSelf, if_neg (by simp [hasSource_iff_mem_names.mpr there])]
    simp only [remove, source?_of_not_mem isNew, without_of_not_mem isNew, put]
  · have unknown : (!sources.hasSource relative) = true := by
      simpa using mt hasSource_iff_mem_names.mp there
    exact .inl ⟨.inr there, _, by rw [putBeside, if_neg isSelf, if_pos unknown]⟩

/-- A source of a new name is put where the placement says, or the placement is refused. -/
theorem place_of_isNew (isNew : source.name ∉ sources.names) (placement : Placement) :
    sources.Refuses placement source.name ∧
        (∃ error, sources.place placement source = .error error) ∨
      ¬ sources.Refuses placement source.name ∧
        ∃ placed, sources.place placement source = .ok (none, placed) ∧
          Installed source placement sources.list placed.list := by
  have missing := source?_of_not_mem isNew
  cases placement with
  | first =>
      refine .inr ⟨by simp [Refuses, Placement.relative?], ⟨source :: sources.list⟩, ?_, .first isNew⟩
      simp only [place, putFirst, remove, missing, without_of_not_mem isNew]
  | last =>
      refine .inr ⟨by simp [Refuses, Placement.relative?], ⟨sources.list ++ [source]⟩, ?_, .last isNew⟩
      simp only [place, putLast, remove, missing, without_of_not_mem isNew]
  | before relative =>
      rcases putBeside_of_isNew isNew relative false with ⟨misplaced, error, refused⟩ |
        ⟨isPlace, ahead, other, behind, split, rfl, put⟩
      · exact .inl ⟨⟨isNew, relative, rfl, misplaced⟩, error, refused⟩
      · refine .inr ⟨?_, _, put, ?_⟩
        · rintro ⟨-, _, ⟨⟩, misplaced⟩
          exact isPlace misplaced
        · simp only [names, split] at isNew ⊢
          exact .before ahead other behind isNew
  | after relative =>
      rcases putBeside_of_isNew isNew relative true with ⟨misplaced, error, refused⟩ |
        ⟨isPlace, ahead, other, behind, split, rfl, put⟩
      · exact .inl ⟨⟨isNew, relative, rfl, misplaced⟩, error, refused⟩
      · refine .inr ⟨?_, _, put, ?_⟩
        · rintro ⟨-, _, ⟨⟩, misplaced⟩
          exact isPlace misplaced
        · simp only [names, split] at isNew ⊢
          exact .after ahead other behind isNew

end SourceList

end LiveConfig
