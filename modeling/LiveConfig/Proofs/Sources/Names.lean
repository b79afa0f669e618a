import LiveConfig.Sources.Edit
import Mathlib.Data.List.Induction
import Mathlib.Data.List.Nodup
import Mathlib.Data.List.Perm.Basic

/-!
Contract: the names in a list of property sources.

Placing a source takes an old one of its name out first, so it keeps names unique. An exchange does not
look for other sources of the new name. Owns: what each edit does to the names, and the exact condition
under which names stay unique throughout a run of edits.
-/

namespace LiveConfig.SourceList

variable {sources : SourceList} {name : String} {source : Source} {list : List Source}

/-! ### Names after each operation on lists -/

theorem map_name_without (name : String) (list : List Source) :
    (without name list).map Source.name = (list.map Source.name).erase name := by
  induction list with
  | nil => rfl
  | cons head rest inductionHypothesis =>
      by_cases same : head.name = name
      · simp [without, same]
      · simpa [without, same] using inductionHypothesis

/-- A source that is put beside one that is there is one more in the list. -/
theorem perm_insertBeside {relative : String} (isBehind : Bool) (source : Source)
    (there : relative ∈ list.map Source.name) :
    (insertBeside relative isBehind source list).Perm (source :: list) := by
  induction list with
  | nil => cases there
  | cons head rest inductionHypothesis =>
      simp only [insertBeside]
      split
      · split
        · exact .swap source head rest
        · exact .refl _
      · rename_i differs
        have inRest : relative ∈ rest.map Source.name :=
          (List.mem_cons.mp there).resolve_left (Ne.symm differs)
        exact ((inductionHypothesis inRest).cons head).trans (.swap source head rest)

/-- An exchange touches the first source of the name and no other. -/
theorem exchange_eq (source : Source) (there : name ∈ list.map Source.name) :
    ∃ ahead old behind, list = ahead ++ old :: behind ∧ old.name = name ∧
      exchange name source list = ahead ++ source :: behind := by
  induction list with
  | nil => cases there
  | cons head rest inductionHypothesis =>
      by_cases same : head.name = name
      · exact ⟨[], head, rest, rfl, same, by simp [exchange, same]⟩
      · have inRest : name ∈ rest.map Source.name :=
          (List.mem_cons.mp there).resolve_left (Ne.symm same)
        obtain ⟨ahead, old, behind, split, isOld, exchanged⟩ := inductionHypothesis inRest
        exact ⟨head :: ahead, old, behind, by simp [split], isOld, by simp [exchange, same, exchanged]⟩

theorem exchange_of_not_mem (source : Source) (absent : name ∉ list.map Source.name) :
    exchange name source list = list := by
  induction list with
  | nil => rfl
  | cons head rest inductionHypothesis =>
      obtain ⟨differs, notInRest⟩ := not_or.mp (List.mem_cons.not.mp absent)
      simp [exchange, Ne.symm differs, inductionHypothesis notInRest]

theorem hasSource_iff_mem_names : sources.hasSource name = true ↔ name ∈ sources.names := by
  simp [hasSource, source?, names]

/-! ### Names after each edit -/

/-- An exchange of the source of a name for another keeps names unique: there is nothing to exchange, or
the new source has the old name, or one that no source has. -/
def Admits (sources : SourceList) (name : String) (source : Source) : Prop :=
  name ∈ sources.names → source.name = name ∨ source.name ∉ sources.names

theorem nodup_of_put (unique : sources.names.Nodup) {placed : List Source}
    (onceMore : placed.Perm (source :: without source.name sources.list)) :
    (SourceList.mk placed).names.Nodup := by
  have names := onceMore.map Source.name
  rw [List.map_cons, map_name_without] at names
  refine names.nodup_iff.mpr (List.nodup_cons.mpr ⟨?_, unique.erase source.name⟩)
  exact unique.not_mem_erase

theorem place_nodup (unique : sources.names.Nodup) {placement : Placement} {change : Change}
    (placed : sources.place placement source = .ok change) : change.2.names.Nodup := by
  have beside (relative : String) (isBehind : Bool)
      (put : sources.putBeside relative isBehind source = .ok change) :
      change.2.names.Nodup := by
    unfold putBeside at put
    split at put
    · cases put
    · rename_i differs
      split at put
      · cases put
      · rename_i known
        obtain rfl := Except.ok.inj put
        have there : relative ∈ sources.names := hasSource_iff_mem_names.mp (by simpa using known)
        have stillThere : relative ∈ (without source.name sources.list).map Source.name := by
          rw [map_name_without]
          exact (List.mem_erase_of_ne (Ne.symm differs)).mpr there
        exact nodup_of_put unique (perm_insertBeside isBehind source stillThere)
  cases placement with
  | first =>
      obtain rfl := Except.ok.inj placed
      exact nodup_of_put unique (.refl _)
  | last =>
      obtain rfl := Except.ok.inj placed
      exact nodup_of_put unique (List.perm_append_singleton source _)
  | before relative => exact beside relative false placed
  | after relative => exact beside relative true placed

theorem replace_nodup_iff (unique : sources.names.Nodup) (name : String) (source : Source) :
    (sources.replace name source).2.names.Nodup ↔ sources.Admits name source := by
  by_cases there : name ∈ sources.names
  · obtain ⟨ahead, old, behind, split, rfl, exchanged⟩ := exchange_eq source there
    have before : sources.names = ahead.map Source.name ++ old.name :: behind.map Source.name := by
      simp [names, split]
    have after : (sources.replace old.name source).2.names =
        ahead.map Source.name ++ source.name :: behind.map Source.name := by
      simp [names, replace, exchanged]
    rw [before, List.nodup_middle, List.nodup_cons] at unique
    rw [after, List.nodup_middle, List.nodup_cons, Admits, before]
    refine ⟨fun unique' _ => ?_, fun admitted => ⟨fun elsewhere => ?_, unique.2⟩⟩
    · by_cases same : source.name = old.name
      · exact .inl same
      · refine .inr fun member => unique'.1 ?_
        simpa [same] using member
    · rcases admitted (by simp) with same | absent
      · exact unique.1 (same ▸ elsewhere)
      · refine absent ?_
        rcases List.mem_append.mp elsewhere with inAhead | inBehind
        · exact List.mem_append_left _ inAhead
        · exact List.mem_append_right _ (List.mem_cons_of_mem _ inBehind)
  · have unchanged : (sources.replace name source).2 = sources :=
      congrArg SourceList.mk (exchange_of_not_mem source there)
    rw [unchanged]
    exact ⟨fun _ isThere => absurd isThere there, fun _ => unique⟩

/-- Of all edits, only an exchange that is not admitted makes a name occur twice. -/
theorem after_nodup_iff (unique : sources.names.Nodup) (edit : SourceEdit) :
    (sources.after edit).names.Nodup ↔
      ∀ name source, edit = .replace name source → sources.Admits name source := by
  cases edit with
  | place placement source =>
      refine ⟨fun _ _ _ isReplace => (nomatch isReplace), fun _ => ?_⟩
      simp only [after, apply]
      split
      · rename_i placed
        exact place_nodup unique placed
      · exact unique
  | replace name source =>
      refine (replace_nodup_iff unique name source).trans ⟨fun admitted _ _ same => ?_, fun all => ?_⟩
      · obtain ⟨rfl, rfl⟩ := SourceEdit.replace.inj same
        exact admitted
      · exact all name source rfl
  | remove name =>
      refine ⟨fun _ _ _ isReplace => (nomatch isReplace), fun _ => ?_⟩
      have rest : (sources.after (.remove name)).names = sources.names.erase name :=
        map_name_without name sources.list
      rw [rest]
      exact unique.erase name

/-! ### Runs -/

theorem run_append (sources : SourceList) (earlier later : List SourceEdit) :
    sources.run (earlier ++ later) = (sources.run earlier).run later := by
  simp [run, List.foldl_append]

/-- Names are unique after a run in which every exchange is admitted by the list that it meets. -/
theorem run_nodup {edits : List SourceEdit}
    (admitted : ∀ earlier name source later, edits = earlier ++ .replace name source :: later →
      (empty.run earlier).Admits name source) : (empty.run edits).names.Nodup := by
  induction edits using List.reverseRecOn with
  | nil => exact List.nodup_nil
  | append_singleton earlier edit inductionHypothesis =>
      have before : (empty.run earlier).names.Nodup :=
        inductionHypothesis fun first name source later split =>
          admitted first name source (later ++ [edit]) (by simp [split])
      rw [run_append]
      refine (after_nodup_iff before edit).mpr fun name source isReplace => ?_
      exact admitted earlier name source [] (by rw [isReplace])

/-- Whatever sources are placed, exchanged and removed, with whatever names: no name ever occurs twice
exactly if each exchange puts in a source of the name that it takes out, or of a name that no source has
at that moment. -/
theorem names_nodup_throughout_iff (edits : List SourceEdit) :
    (∀ earlier later, edits = earlier ++ later → (empty.run earlier).names.Nodup) ↔
      ∀ earlier name source later, edits = earlier ++ .replace name source :: later →
        (empty.run earlier).Admits name source := by
  constructor
  · intro unique earlier name source later split
    have before := unique earlier (.replace name source :: later) split
    have after := unique (earlier ++ [.replace name source]) later (by simp [split])
    rw [run_append] at after
    exact (after_nodup_iff before (.replace name source)).mp after name source rfl
  · intro admitted earlier later split
    refine run_nodup fun first name source rest splitEarlier => ?_
    exact admitted first name source (rest ++ later) (by simp [split, splitEarlier])

/-- The exchange of one of two sources for another of the other's name. -/
theorem names_of_exchange_for_other :
    (empty.run [.place .last (.fixed "defaults" .empty), .place .last (.fixed "store" .empty),
      .replace "defaults" (.fixed "store" .empty)]).names = ["store", "store"] := by decide

end LiveConfig.SourceList
