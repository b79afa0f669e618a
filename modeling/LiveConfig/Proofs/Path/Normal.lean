import LiveConfig.Proofs.Path.Segments

/-!
Contract: texts in normal form.

Normalising keeps the segments of a text that are not empty, and nothing else. Owns: which texts it leaves
alone, that the accepted paths are among these, and which texts it makes acceptable. Does not own: what a
join does to paths.
-/

namespace LiveConfig.Path

variable {text part : List Char} {path : String}

/-! ### Segments -/

theorem whole_of_mem_parts (member : part ∈ parts text) : part ≠ [] ∧ '/' ∉ part := by
  obtain ⟨isSegment, notEmpty⟩ := List.mem_filter.mp member
  constructor
  · simpa using notEmpty
  · intro separator
    exact (of_mem_segments isSegment _ separator).2 rfl

/-- Every character but a separator stands in a segment. -/
theorem exists_segment_of_mem {character : Char} (member : character ∈ text) (differs : character ≠ '/') :
    ∃ segment ∈ segments text, character ∈ segment := by
  have someSegment : segments text ≠ [] := List.splitOn_ne_nil '/' text
  have joined : '/' :: text = (segments text).flatMap ('/' :: ·) := by
    rw [← intercalate_cons _ someSegment, segments, List.intercalate_splitOn]
  have inJoined : character ∈ (segments text).flatMap ('/' :: ·) := by
    rw [← joined]
    exact List.mem_cons_of_mem _ member
  obtain ⟨segment, isSegment, inSegment⟩ := List.mem_flatMap.mp inJoined
  exact ⟨segment, isSegment, (List.mem_cons.mp inSegment).resolve_left differs⟩

/-- A segment by which a text leads somewhere else than down. -/
def IsRelative (segment : List Char) : Prop :=
  segment = ['.'] ∨ segment = ['.', '.']

/-- What keeps the segments of a text out of paths, once the empty ones are gone. -/
theorem clean_parts_iff :
    (∀ part ∈ parts text, Clean part) ↔
      '\x00' ∉ text ∧ ∀ segment ∈ segments text, ¬ IsRelative segment := by
  constructor
  · intro clean
    constructor
    · intro nul
      obtain ⟨segment, isSegment, inSegment⟩ := exists_segment_of_mem nul (by decide)
      have notEmpty : segment ≠ [] := List.ne_nil_of_mem inSegment
      have isPart : segment ∈ parts text := List.mem_filter.mpr ⟨isSegment, by simpa using notEmpty⟩
      exact (clean segment isPart).noNul inSegment
    · intro segment isSegment relative
      have notEmpty : segment ≠ [] := by
        rcases relative with rfl | rfl
        · exact List.cons_ne_nil _ _
        · exact List.cons_ne_nil _ _
      have isPart : segment ∈ parts text := List.mem_filter.mpr ⟨isSegment, by simpa using notEmpty⟩
      exact (clean segment isPart).notRelative relative
  · intro ⟨noNul, noneRelative⟩ part member
    obtain ⟨notEmpty, noSeparator⟩ := whole_of_mem_parts member
    have isSegment : part ∈ segments text := List.mem_of_mem_filter member
    exact ⟨notEmpty, noneRelative part isSegment, noSeparator,
      fun nul => noNul (of_mem_segments isSegment _ nul).1⟩

/-! ### Normal form -/

theorem parts_normalize (path : String) : parts (normalize path).toList = parts path.toList :=
  parts_spell_of_whole fun _ => whole_of_mem_parts

theorem normalize_normalize (path : String) : normalize (normalize path) = normalize path := by
  rw [normalize_eq (normalize path), parts_normalize, normalize_eq]

/-- Accepted paths are in normal form. -/
theorem normalize_of_validate (valid : validate path = .ok ()) : normalize path = path := by
  obtain ⟨list, clean, rfl⟩ := validate_eq_ok_iff.mp valid
  rw [normalize_eq, parts_spell clean]

/-- Normalising leaves a text with the faults of its segments, and removes all others. -/
theorem validate_normalize_iff :
    validate (normalize path) = .ok () ↔
      '\x00' ∉ path.toList ∧ ∀ segment ∈ segments path.toList, ¬ IsRelative segment := by
  rw [← clean_parts_iff, validate_eq_ok_iff]
  constructor
  · intro ⟨list, clean, spelled⟩
    have same : parts path.toList = list := by
      rw [← parts_normalize, spelled, parts_spell clean]
    rwa [same]
  · intro clean
    exact ⟨parts path.toList, clean, normalize_eq path⟩

theorem validate_iff_grammar :
    validate path = .ok () ↔
      path = root ∨ ∃ list, list ≠ [] ∧ (∀ part ∈ list, Clean part) ∧
        path.toList = list.flatMap ('/' :: ·) := by
  rw [validate_eq_ok_iff]
  constructor
  · intro ⟨list, clean, spelled⟩
    by_cases noSegment : list = []
    · rw [noSegment] at spelled
      exact .inl spelled
    · rw [spelled]
      exact .inr ⟨list, noSegment, clean, toList_spell noSegment⟩
  · intro grammar
    obtain rfl | ⟨list, someSegment, clean, text⟩ := grammar
    · exact ⟨[], by simp, rfl⟩
    · refine ⟨list, clean, ?_⟩
      rw [← String.toList_inj, text, toList_spell someSegment]

/-- A path is accepted exactly if it is the root or a sequence of segments that may stand in a path, each
behind a separator. These are the texts in normal form in which no segment is relative and NUL does not
stand; a text in any form becomes one of them exactly if that holds of it. -/
theorem accepts_exactly_normal (path : String) :
    (validate path = .ok () ↔
      path = root ∨ ∃ list, list ≠ [] ∧ (∀ part ∈ list, Clean part) ∧
        path.toList = list.flatMap ('/' :: ·)) ∧
      normalize (normalize path) = normalize path ∧
      (validate path = .ok () ↔ normalize path = path ∧ validate (normalize path) = .ok ()) ∧
      (validate (normalize path) = .ok () ↔
        '\x00' ∉ path.toList ∧ ∀ segment ∈ segments path.toList, ¬ IsRelative segment) := by
  refine ⟨validate_iff_grammar, normalize_normalize path, ?_, validate_normalize_iff⟩
  constructor
  · intro valid
    have normal := normalize_of_validate valid
    rw [normal]
    exact ⟨rfl, valid⟩
  · intro ⟨normal, valid⟩
    rwa [normal] at valid

end LiveConfig.Path
