import LiveConfig.Path
import Mathlib.Data.List.Basic
import Mathlib.Data.List.Induction

/-!
Contract: paths as sequences of segments.

A path is accepted exactly if it is the spelling of clean segments. On spellings, a join appends a
segment and the parent drops the last one. Owns: the grammar of accepted paths and the laws of join,
parent and name on it. Does not own: the ancestors of a path.
-/

namespace LiveConfig.Path

/-- A segment that may stand in a path. -/
structure Clean (segment : List Char) : Prop where
  notEmpty : segment ≠ []
  notRelative : ¬ (segment = ['.'] ∨ segment = ['.', '.'])
  noSeparator : '/' ∉ segment
  noNul : '\x00' ∉ segment

/-- The path of segments. -/
def spell (parts : List (List Char)) : String := .ofList (ofSegments parts)

/-! ### Segments of a text -/

theorem segments_append (front back : List Char) :
    segments (front ++ '/' :: back) = segments front ++ segments back :=
  List.splitOn_append_cons_self front back

/-- A text without separators is one segment. -/
theorem segments_of_noSeparator {text : List Char} (noSeparator : '/' ∉ text) :
    segments text = [text] :=
  List.splitOn_eq_singleton noSeparator

theorem of_mem_segments {text part : List Char} (member : part ∈ segments text) :
    ∀ character ∈ part, character ∈ text ∧ character ≠ '/' := by
  induction text generalizing part with
  | nil =>
      simp only [segments, List.splitOn_nil, List.mem_singleton] at member
      simp [member]
  | cons head rest inductionHypothesis =>
      simp only [segments, List.splitOn_cons_eq_if_modifyHead] at member inductionHypothesis
      intro character inPart
      split at member
      · rcases List.mem_cons.mp member with rfl | inRest
        · cases inPart
        · obtain ⟨inText, differs⟩ := inductionHypothesis inRest character inPart
          exact ⟨List.mem_cons_of_mem _ inText, differs⟩
      · rename_i notSeparator
        cases split : List.splitOn '/' rest with
        | nil =>
            rw [split] at member
            cases member
        | cons first others =>
            rw [split] at member inductionHypothesis
            rcases List.mem_cons.mp member with rfl | inOthers
            · rcases List.mem_cons.mp inPart with rfl | inFirst
              · exact ⟨List.mem_cons_self, by simpa using notSeparator⟩
              · obtain ⟨inText, differs⟩ :=
                  inductionHypothesis List.mem_cons_self character inFirst
                exact ⟨List.mem_cons_of_mem _ inText, differs⟩
            · obtain ⟨inText, differs⟩ :=
                inductionHypothesis (List.mem_cons_of_mem _ inOthers) character inPart
              exact ⟨List.mem_cons_of_mem _ inText, differs⟩

/-- The segments of a text that are not empty. -/
def parts (text : List Char) : List (List Char) := (segments text).filter (!·.isEmpty)

theorem parts_append (front back : List Char) :
    parts (front ++ '/' :: back) = parts front ++ parts back := by
  simp [parts, segments_append]

theorem parts_of_noSeparator {text : List Char} (noSeparator : '/' ∉ text) (notEmpty : text ≠ []) :
    parts text = [text] := by
  simp [parts, segments_of_noSeparator noSeparator, notEmpty]

theorem normalize_eq (path : String) : normalize path = spell (parts path.toList) := rfl

theorem join_eq (base child : String) :
    join base child = spell (parts base.toList ++ parts child.toList) := by
  have text : (base ++ "/" ++ child).toList = base.toList ++ '/' :: child.toList := by simp
  rw [join, normalize_eq, text, parts_append]

/-! ### Spellings -/

theorem ofSegments_eq_flatMap {list : List (List Char)} (someSegment : list ≠ []) :
    ofSegments list = list.flatMap ('/' :: ·) := by
  induction list with
  | nil => exact absurd rfl someSegment
  | cons head rest inductionHypothesis =>
      cases rest with
      | nil => simp [ofSegments]
      | cons next others => simp [ofSegments, inductionHypothesis]

theorem toList_spell {list : List (List Char)} (someSegment : list ≠ []) :
    (spell list).toList = list.flatMap ('/' :: ·) := by
  rw [spell, String.toList_ofList, ofSegments_eq_flatMap someSegment]

theorem toList_spell_concat (front : List (List Char)) (last : List Char) :
    (spell (front ++ [last])).toList = front.flatMap ('/' :: ·) ++ '/' :: last := by
  rw [toList_spell (by simp)]
  simp

theorem parts_flatMap {list : List (List Char)} (whole : ∀ part ∈ list, part ≠ [] ∧ '/' ∉ part) :
    parts (list.flatMap ('/' :: ·)) = list := by
  induction list using List.reverseRecOn with
  | nil => rfl
  | append_singleton front last inductionHypothesis =>
      obtain ⟨notEmpty, noSeparator⟩ := whole last (by simp)
      rw [List.flatMap_append, List.flatMap_singleton, parts_append,
        parts_of_noSeparator noSeparator notEmpty,
        inductionHypothesis fun part member => whole part (by simp [member])]

/-- The spelling of segments can be read back, also where a path may not hold them. -/
theorem parts_spell_of_whole {list : List (List Char)} (whole : ∀ part ∈ list, part ≠ [] ∧ '/' ∉ part) :
    parts (spell list).toList = list := by
  by_cases noSegment : list = []
  · subst noSegment
    rfl
  · rw [toList_spell noSegment, parts_flatMap whole]

theorem parts_spell {list : List (List Char)} (clean : ∀ part ∈ list, Clean part) :
    parts (spell list).toList = list :=
  parts_spell_of_whole fun part member => ⟨(clean part member).notEmpty, (clean part member).noSeparator⟩

theorem spell_concat_ne_root (front : List (List Char)) {last : List Char} (clean : Clean last) :
    spell (front ++ [last]) ≠ root := by
  intro isRoot
  have lengths := congrArg (fun path : String => path.toList.length) isRoot
  have notEmpty := List.length_pos_of_ne_nil clean.notEmpty
  have rootLength : root.toList.length = 1 := by decide
  simp only [toList_spell_concat, List.length_append, List.length_cons, rootLength] at lengths
  omega

/-- Only the root ends in a separator. -/
theorem eq_nil_of_spell_ends {list : List (List Char)} (clean : ∀ part ∈ list, Clean part)
    {front : List Char} (ends : (spell list).toList = front ++ ['/']) : list = [] := by
  rcases List.eq_nil_or_concat' list with noSegment | ⟨others, last, rfl⟩
  · exact noSegment
  · have lastClean := clean last (by simp)
    obtain ⟨start, final, rfl⟩ := (List.eq_nil_or_concat' last).resolve_left lastClean.notEmpty
    rw [toList_spell_concat, ← List.cons_append, ← List.append_assoc] at ends
    obtain rfl : final = '/' := List.head_eq_of_cons_eq (List.append_inj' ends rfl).2
    exact absurd (List.mem_append_right start List.mem_cons_self) lastClean.noSeparator

theorem join_spell {list : List (List Char)} (clean : ∀ part ∈ list, Clean part) {last : List Char}
    (lastClean : Clean last) : join (spell list) (.ofList last) = spell (list ++ [last]) := by
  rw [join_eq, parts_spell clean, String.toList_ofList,
    parts_of_noSeparator lastClean.noSeparator lastClean.notEmpty]

/-! ### The last separator -/

theorem splitLast_of_noSeparator {text : List Char} (noSeparator : '/' ∉ text) :
    splitLast text = none := by
  induction text with
  | nil => rfl
  | cons head rest inductionHypothesis =>
      obtain ⟨differs, notInRest⟩ := not_or.mp (List.mem_cons.not.mp noSeparator)
      simp [splitLast, inductionHypothesis notInRest, Ne.symm differs]

theorem splitLast_append (front : List Char) {back : List Char} (noSeparator : '/' ∉ back) :
    splitLast (front ++ '/' :: back) = some (front, back) := by
  induction front with
  | nil => simp [splitLast, splitLast_of_noSeparator noSeparator]
  | cons head rest inductionHypothesis => simp [splitLast, inductionHypothesis]

theorem parent?_spell_concat (front : List (List Char)) {last : List Char} (clean : Clean last) :
    parent? (spell (front ++ [last])) = some (spell front) := by
  rw [parent?, if_neg (spell_concat_ne_root front clean), toList_spell_concat,
    splitLast_append _ clean.noSeparator]
  cases front with
  | nil => rfl
  | cons head rest => simp [spell, ofSegments_eq_flatMap]

theorem name_spell_concat (front : List (List Char)) {last : List Char} (clean : Clean last) :
    name (spell (front ++ [last])) = .ofList last := by
  rw [name, toList_spell_concat, splitLast_append _ clean.noSeparator]

/-! ### What is accepted -/

theorem segmentFault?_eq_none_iff {segment : List Char} :
    segmentFault? segment = none ↔
      segment ≠ [] ∧ ¬ (segment = ['.'] ∨ segment = ['.', '.']) := by
  unfold segmentFault?
  split
  · rename_i isEmpty
    simp [List.isEmpty_iff.mp isEmpty]
  · rename_i notEmpty
    split
    · rename_i relative
      simp [relative]
    · rename_i notRelative
      exact ⟨fun _ => ⟨by simpa using notEmpty, notRelative⟩, fun _ => rfl⟩

theorem intercalate_cons (list : List (List Char)) (someSegment : list ≠ []) :
    '/' :: ['/'].intercalate list = list.flatMap ('/' :: ·) := by
  induction list with
  | nil => exact absurd rfl someSegment
  | cons head rest inductionHypothesis =>
      cases rest with
      | nil => simp
      | cons next others => simpa [List.intercalate] using inductionHypothesis

/-- A path without fault is the spelling of its segments. -/
theorem exists_spell_of_fault? {path : String} (noFault : fault? path = none) :
    ∃ list, (∀ part ∈ list, Clean part) ∧ path = spell list := by
  unfold fault? at noFault
  split at noFault
  · rename_i rest text
    have path_eq : path = .ofList ('/' :: rest) := by rw [← text, String.ofList_toList]
    split at noFault
    · rename_i isEmpty
      exact ⟨[], by simp, by rw [path_eq, isEmpty]; rfl⟩
    · split at noFault
      · cases noFault
      · split at noFault
        · cases noFault
        · rename_i noNul
          have faultless := List.findSome?_eq_none_iff.mp noFault
          have someSegment : segments rest ≠ [] := List.splitOn_ne_nil '/' rest
          refine ⟨segments rest, fun part member => ?_, ?_⟩
          · obtain ⟨notEmpty, notRelative⟩ := segmentFault?_eq_none_iff.mp (faultless part member)
            refine ⟨notEmpty, notRelative, fun separator => ?_, fun nul => noNul ?_⟩
            · exact (of_mem_segments member _ separator).2 rfl
            · simpa using (of_mem_segments member _ nul).1
          · rw [path_eq, spell, ofSegments_eq_flatMap someSegment, ← intercalate_cons _ someSegment,
              segments, List.intercalate_splitOn]
  · cases noFault

theorem fault?_spell {list : List (List Char)} (clean : ∀ part ∈ list, Clean part) :
    fault? (spell list) = none := by
  by_cases noSegment : list = []
  · subst noSegment
    rfl
  · have text : (spell list).toList = '/' :: ['/'].intercalate list := by
      rw [toList_spell noSegment, intercalate_cons _ noSegment]
    have segmentsOf : segments (['/'].intercalate list) = list :=
      List.splitOn_intercalate '/' (fun part member => (clean part member).noSeparator) noSegment
    have faultless : list.findSome? segmentFault? = none :=
      List.findSome?_eq_none_iff.mpr fun part member =>
        segmentFault?_eq_none_iff.mpr ⟨(clean part member).notEmpty, (clean part member).notRelative⟩
    -- A separator at the end would leave an empty segment behind it.
    have noTrailing : (['/'].intercalate list).getLast? ≠ some '/' := by
      intro trailing
      obtain ⟨front, split⟩ := List.getLast?_eq_some_iff.mp trailing
      rw [split, segments_append] at segmentsOf
      have isEmpty : [] ∈ list := by simp [← segmentsOf, segments]
      exact (clean [] isEmpty).notEmpty rfl
    have noNul : '\x00' ∉ ['/'].intercalate list := by
      intro nul
      have inText : '\x00' ∈ list.flatMap ('/' :: ·) := by
        rw [← intercalate_cons _ noSegment]
        exact List.mem_cons_of_mem _ nul
      obtain ⟨part, member, inPart⟩ := List.mem_flatMap.mp inText
      exact (clean part member).noNul (by simpa using inPart)
    unfold fault?
    rw [text]
    simp [noTrailing, noNul, segmentsOf, faultless]

/-- A path is accepted exactly if it is spelled from clean segments. -/
theorem validate_eq_ok_iff {path : String} :
    validate path = .ok () ↔ ∃ list, (∀ part ∈ list, Clean part) ∧ path = spell list := by
  unfold validate
  constructor
  · intro valid
    split at valid
    · rename_i noFault
      exact exists_spell_of_fault? noFault
    · cases valid
  · rintro ⟨list, clean, rfl⟩
    rw [fault?_spell clean]

/-! ### Paths in two pieces -/

section Ahead

variable {front : List Char} {whole behind : List (List Char)}
  (wholeClean : ∀ part ∈ whole, Clean part) (behindClean : ∀ part ∈ behind, Clean part)
  (text : (spell whole).toList = front ++ (spell behind).toList)

include wholeClean behindClean text

theorem eq_parts_append : whole = parts front ++ behind := by
  obtain ⟨rest, begins⟩ : ∃ rest, (spell behind).toList = '/' :: rest := by
    cases behind with
    | nil => exact ⟨[], rfl⟩
    | cons first others => exact ⟨_, toList_spell (List.cons_ne_nil first others)⟩
  have restParts : parts rest = behind := by
    have read := parts_spell behindClean
    rwa [begins] at read
  rw [← parts_spell wholeClean, text, begins, parts_append, restParts]

/-- What stands ahead of a spelling in another one is spelled itself. -/
theorem eq_flatMap_parts (someFront : front ≠ []) : front = (parts front).flatMap ('/' :: ·) := by
  have segmentsOf := eq_parts_append wholeClean behindClean text
  cases behind with
  | nil =>
      rw [eq_nil_of_spell_ends wholeClean text] at text
      have nothing : [] = front := List.append_cancel_right text
      exact absurd nothing.symm someFront
  | cons first others =>
      have someWhole : whole ≠ [] := by simp [segmentsOf]
      rw [toList_spell someWhole, toList_spell (List.cons_ne_nil first others), segmentsOf,
        List.flatMap_append] at text
      exact (List.append_cancel_right text).symm

end Ahead

/-- What stands ahead of a path that ends another one is a path, too, and not the root. -/
theorem validate_of_append {front back : String} (valid : validate (front ++ back) = .ok ())
    (backValid : validate back = .ok ()) (someFront : front ≠ "") :
    validate front = .ok () ∧ front ≠ root := by
  obtain ⟨whole, wholeClean, spelled⟩ := validate_eq_ok_iff.mp valid
  obtain ⟨behind, behindClean, rfl⟩ := validate_eq_ok_iff.mp backValid
  have text : (spell whole).toList = front.toList ++ (spell behind).toList := by
    rw [← spelled, String.toList_append]
  have someCharacter : front.toList ≠ [] := by simpa using someFront
  have isSpelling := eq_flatMap_parts wholeClean behindClean text someCharacter
  have clean : ∀ part ∈ parts front.toList, Clean part := by
    intro part member
    apply wholeClean part
    rw [eq_parts_append wholeClean behindClean text]
    exact List.mem_append_left _ member
  obtain noSegment | ⟨others, last, split⟩ := List.eq_nil_or_concat' (parts front.toList)
  · rw [noSegment] at isSpelling
    exact absurd isSpelling someCharacter
  · rw [split] at clean isSpelling
    have front_eq : front = spell (others ++ [last]) := by
      rw [← String.toList_inj, toList_spell (by simp)]
      exact isSpelling
    rw [front_eq]
    exact ⟨validate_eq_ok_iff.mpr ⟨_, clean, rfl⟩, spell_concat_ne_root others (clean last (by simp))⟩

end LiveConfig.Path
