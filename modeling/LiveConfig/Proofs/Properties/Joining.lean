import LiveConfig.Decode
import LiveConfig.Proofs.Entries
import LiveConfig.Proofs.Text.Utf8
import Mathlib.Algebra.Ring.Parity
import Mathlib.Data.List.DropRight

/-!
Contract: which physical lines of a properties document make up one logical line.

A line that ends in an odd number of backslashes is open: the next line belongs to it, whatever that one
holds. What an open line leaves may be nothing, where the line is a backslash by itself; then the reader
takes the next line for the first of a logical line, and drops it if it is a comment. Owns: the rule, what
a document binds by it, and the exact condition under which the reader agrees. Does not own: how values
are read.
-/

namespace LiveConfig.Properties

open LiveConfig.Text

/-! ### The rule -/

/-- Whether a line without leading blanks is a comment. -/
def IsComment (line : List Char) : Prop :=
  line.head? = some '#' ∨ line.head? = some '!'

instance (line : List Char) : Decidable (IsComment line) := by
  unfold IsComment
  infer_instance

/-- Whether a line ends in an odd number of backslashes. -/
def IsOpen (line : List Char) : Prop :=
  Odd (line.rtakeWhile (· == '\\')).length

instance (line : List Char) : Decidable (IsOpen line) := by
  unfold IsOpen
  infer_instance

/-- The logical lines of a sequence of physical lines, behind what the lines ahead of them leave open, if
they do. -/
def joinLines : (front : Option (List Char)) → List (List Char) → List (List Char)
  | front, [] => front.toList
  | none, physical :: rest =>
      let line := trimStart physical
      if line = [] ∨ IsComment line then joinLines none rest
      else if IsOpen line then joinLines (some line.dropLast) rest
      else line :: joinLines none rest
  | some front, physical :: rest =>
      let line := trimStart physical
      if IsOpen line then joinLines (some (front ++ line.dropLast)) rest
      else (front ++ line) :: joinLines none rest

/-- A line cut at its first separator, which belongs to neither part. -/
def cut : List Char → List Char × List Char
  | [] => ([], [])
  | character :: rest =>
      if character = '=' ∨ character = ':' then ([], rest)
      else (character :: (cut rest).1, (cut rest).2)

/-- The trimmed key and value of a logical line; none if there is no key. -/
def property? (line : List Char) : Option (String × String) :=
  let key := trim (cut line).1
  if key = [] then none else some (.ofList key, .ofList (trim (cut line).2))

/-- What a document binds a key to by the rule: what its last entry of the key says. -/
def value? (text : List Char) (key : String) : Option String :=
  (((joinLines none (lines text)).filterMap property?).findRev? (·.1 = key)).map Prod.snd

variable {line front pending : List Char} {first : Char} {physical : List (List Char)}

/-! ### Lines -/

theorem isSilent_iff : isSilent line = true ↔ line = [] ∨ IsComment line := by
  cases line <;> simp [isSilent, IsComment]

theorem isContinued_iff : isContinued line = true ↔ IsOpen line := by
  simp [isContinued, IsOpen, List.rtakeWhile, Nat.odd_iff]

/-- Whether a line is open is decided behind its last character that is no backslash. -/
theorem isOpen_append_cons (noBackslash : first ≠ '\\') :
    IsOpen (front ++ first :: line) ↔ IsOpen line := by
  have stops : ∀ behind : List Char, (behind ++ first :: front.reverse).takeWhile (· == '\\') =
      behind.takeWhile (· == '\\') := by
    intro behind
    induction behind with
    | nil => simp [noBackslash]
    | cons next behind inductionHypothesis =>
        rw [List.cons_append, List.takeWhile_cons, List.takeWhile_cons, inductionHypothesis]
  rw [IsOpen, IsOpen, List.rtakeWhile, List.rtakeWhile, List.reverse_append, List.reverse_cons,
    List.append_assoc, List.singleton_append, stops]

theorem not_isBlank_of_trimStart (found : (trimStart line).head? = some first) :
    isBlank first = false := by
  have notBlank := List.head?_dropWhile_not isBlank line
  rwa [show (line.dropWhile isBlank).head? = some first from found] at notBlank

theorem trimStart_of_not_isBlank {rest : List Char} (notBlank : isBlank first = false) :
    trimStart (first :: rest) = first :: rest := by
  simp [trimStart, notBlank]

theorem trimEnd_of_not_isBlank {rest : List Char} (notBlank : isBlank first = false) :
    trimEnd (first :: rest) = first :: trimEnd rest := by
  simp only [trimEnd, List.reverse_cons, List.dropWhile_append]
  split
  · rename_i allBlank
    simp [List.isEmpty_iff.mp allBlank, notBlank]
  · simp

/-- A comment that is open is more than a backslash. -/
theorem isComment_dropLast (isComment : IsComment line) (isOpen : IsOpen line) :
    IsComment line.dropLast := by
  match line, isComment, isOpen with
  | [first], isComment, isOpen =>
      have noBackslash : (first == '\\') = false := by
        rcases isComment with hash | bang
        · cases hash
          rfl
        · cases bang
          rfl
      simp [IsOpen, List.rtakeWhile, noBackslash] at isOpen
  | first :: second :: rest, isComment, _ => exact isComment

theorem isComment_append (isComment : IsComment front) (line : List Char) :
    IsComment (front ++ line) := by
  unfold IsComment at isComment ⊢
  rcases isComment with hash | bang
  · exact .inl (by simp [hash])
  · exact .inr (by simp [bang])

/-- A comment that is left open starts a logical line. -/
theorem exists_comment_of_front (isComment : IsComment front) (physical : List (List Char)) :
    ∃ line ∈ joinLines (some front) physical, IsComment line := by
  induction physical generalizing front with
  | nil => exact ⟨front, List.mem_singleton_self _, isComment⟩
  | cons physical rest inductionHypothesis =>
      simp only [joinLines]
      split
      · exact inductionHypothesis (isComment_append isComment _)
      · exact ⟨_, List.mem_cons_self, isComment_append isComment _⟩

theorem exists_comment_of_nothing (isComment : IsComment (trimStart line))
    (physical : List (List Char)) :
    ∃ joined ∈ joinLines (some []) (line :: physical), IsComment joined := by
  simp only [joinLines, List.nil_append]
  split
  · rename_i isOpen
    exact exists_comment_of_front (isComment_dropLast isComment isOpen) physical
  · exact ⟨_, List.mem_cons_self, isComment⟩

/-! ### Entries -/

theorem cut_eq (line : List Char) :
    cut line = (line.takeWhile (!isSeparator ·), (line.dropWhile (!isSeparator ·)).drop 1) := by
  induction line with
  | nil => rfl
  | cons character rest inductionHypothesis =>
      by_cases separates : character = '=' ∨ character = ':'
      · have isSeparator : isSeparator character = true := by simpa [isSeparator] using separates
        simp [cut, separates, isSeparator]
      · have noSeparator : isSeparator character = false := by simpa [isSeparator] using separates
        simp [cut, separates, noSeparator, inductionHypothesis]

theorem binding?_eq (line : List Char) :
    binding? line = (property? line).map fun entry => (entry.1, .text entry.2) := by
  simp only [binding?, property?, cut_eq, List.isEmpty_iff]
  split <;> rfl

theorem property?_nil : property? [] = none := rfl

/-- A key that starts with no blank keeps its first character. -/
theorem trim_cut_cons {rest : List Char} (notBlank : isBlank first = false)
    (noSeparator : ¬ (first = '=' ∨ first = ':')) :
    trim (cut (first :: rest)).1 = first :: trimEnd (cut rest).1 := by
  rw [cut, if_neg noSeparator, trim, trimStart_of_not_isBlank notBlank,
    trimEnd_of_not_isBlank notBlank]

/-- The key of a line that starts with no blank starts with the same character. -/
theorem head_of_property? {rest : List Char} {entry : String × String} (notBlank : isBlank first = false)
    (found : property? (first :: rest) = some entry) : entry.1.toList.head? = some first := by
  by_cases separates : first = '=' ∨ first = ':'
  · rw [property?, cut, if_pos separates] at found
    cases found
  · rw [property?, trim_cut_cons notBlank separates, if_neg (List.cons_ne_nil _ _)] at found
    obtain rfl := Option.some.inj found
    rw [String.toList_ofList]
    rfl

theorem exists_entry_of_isComment (isComment : IsComment line) :
    ∃ entry, property? line = some entry ∧ IsComment entry.1.toList := by
  obtain ⟨first, rest, rfl⟩ : ∃ first rest, line = first :: rest := by
    cases line with
    | nil => simp [IsComment] at isComment
    | cons first rest => exact ⟨first, rest, rfl⟩
  obtain ⟨notBlank, noSeparator⟩ : isBlank first = false ∧ ¬ (first = '=' ∨ first = ':') := by
    rcases isComment with hash | bang
    · cases hash
      decide
    · cases bang
      decide
  refine ⟨_, by rw [property?, trim_cut_cons notBlank noSeparator, if_neg (List.cons_ne_nil _ _)], ?_⟩
  rw [String.toList_ofList]
  exact isComment

/-! ### The reader -/

/-- A text that starts, if it is not empty, with neither a blank nor the mark of a comment. -/
def IsPlain (line : List Char) : Prop :=
  ∀ first, line.head? = some first → isBlank first = false ∧ first ≠ '#' ∧ first ≠ '!'

theorem isPlain_nil : IsPlain [] := nofun

theorem isPlain_append (plain : IsPlain front) (behind : front = [] → IsPlain line) :
    IsPlain (front ++ line) := by
  cases front with
  | nil => exact behind rfl
  | cons head tail => exact plain

theorem isPlain_dropLast (plain : IsPlain line) : IsPlain line.dropLast := by
  intro first isFirst
  rw [List.head?_dropLast] at isFirst
  split at isFirst
  · exact plain first isFirst
  · cases isFirst

theorem isPlain_trimStart (notSilent : ¬ isSilent (trimStart line) = true) :
    IsPlain (trimStart line) := by
  intro first isFirst
  refine ⟨not_isBlank_of_trimStart isFirst, ?_⟩
  simpa [isSilent_iff, IsComment, isFirst] using fun comment => notSilent (isSilent_iff.mpr (.inr comment))

/-- No logical line that the reader makes starts with the mark of a comment. -/
theorem isPlain_of_mem_logicalLinesAfter (plain : IsPlain pending)
    (member : line ∈ logicalLinesAfter pending physical) : IsPlain line := by
  induction physical generalizing pending with
  | nil =>
      simp only [logicalLinesAfter] at member
      split at member
      · cases member
      · exact List.mem_singleton.mp member ▸ plain
  | cons physical rest inductionHypothesis =>
      simp only [logicalLinesAfter] at member
      split at member
      · exact inductionHypothesis isPlain_nil member
      · rename_i notDropped
        have behind (nothing : pending = []) : IsPlain (trimStart physical) :=
          isPlain_trimStart fun silent => notDropped (by simp [nothing, silent])
        split at member
        · exact inductionHypothesis
            (isPlain_append plain fun nothing => isPlain_dropLast (behind nothing)) member
        · rcases List.mem_cons.mp member with isThis | later
          · exact isThis ▸ isPlain_append plain behind
          · exact inductionHypothesis isPlain_nil later

/-- The reader finds the entries of the rule, behind what the lines ahead leave open. -/
def FindsEntries (front : Option (List Char)) (physical : List (List Char)) : Prop :=
  (logicalLinesAfter (front.getD []) physical).filterMap property? =
    (joinLines front physical).filterMap property?

/-- A line that belongs to a logical line and is not dropped, ahead of lines of which the reader finds the
entries. What the logical line has so far is pending in the reader, also where that is nothing. -/
theorem findsEntries_cons
    (later : ∀ front, (∀ line ∈ joinLines front physical, ¬ IsComment line) →
      FindsEntries front physical)
    (noComment : ∀ joined ∈ joinLines (some front) (line :: physical), ¬ IsComment joined)
    (kept : ¬ (front.isEmpty && isSilent (trimStart line)) = true) :
    FindsEntries (some front) (line :: physical) := by
  simp only [FindsEntries, Option.getD_some, logicalLinesAfter, joinLines, if_neg kept,
    isContinued_iff] at noComment ⊢
  split
  · rename_i isOpen
    rw [if_pos isOpen] at noComment
    exact later (some (front ++ (trimStart line).dropLast)) noComment
  · rename_i notOpen
    rw [if_neg notOpen] at noComment
    have behind : FindsEntries none physical :=
      later none fun joined member => noComment joined (List.mem_cons_of_mem _ member)
    rw [List.filterMap_cons, List.filterMap_cons, ← behind]
    rfl

/-- The reader finds the entries of the rule, if no logical line of the rule starts with the mark of a
comment. An open line that leaves nothing makes no difference but for the comment behind it. -/
theorem findsEntries (front : Option (List Char)) (physical : List (List Char))
    (noComment : ∀ line ∈ joinLines front physical, ¬ IsComment line) :
    FindsEntries front physical := by
  induction physical generalizing front with
  | nil =>
      cases front with
      | none => rfl
      | some front => cases front <;> rfl
  | cons line rest inductionHypothesis =>
      cases front with
      | none =>
          by_cases silent : isSilent (trimStart line) = true
          · have dropped := isSilent_iff.mp silent
            simp only [FindsEntries, logicalLinesAfter, joinLines, if_pos dropped] at noComment ⊢
            simp only [silent]
            exact inductionHypothesis none noComment
          · have begun : joinLines none (line :: rest) = joinLines (some []) (line :: rest) := by
              simp only [joinLines, if_neg (mt isSilent_iff.mpr silent), List.nil_append]
            rw [FindsEntries, begun]
            exact findsEntries_cons inductionHypothesis (begun ▸ noComment) (by simp [silent])
      | some front =>
          by_cases dropped : (front.isEmpty && isSilent (trimStart line)) = true
          · obtain ⟨nothing, silent⟩ := (Bool.and_eq_true _ _).mp dropped
            obtain rfl := List.isEmpty_iff.mp nothing
            rcases isSilent_iff.mp silent with blank | isComment
            · have notOpen : ¬ IsOpen [] := by decide
              simp only [joinLines, blank, if_neg notOpen, List.append_nil] at noComment
              simp only [FindsEntries, joinLines, logicalLinesAfter, blank, if_neg notOpen,
                List.append_nil, List.filterMap_cons, property?_nil]
              exact inductionHypothesis none fun joined member =>
                noComment joined (List.mem_cons_of_mem _ member)
            · obtain ⟨joined, member, starts⟩ := exists_comment_of_nothing isComment rest
              exact absurd starts (noComment joined member)
          · exact findsEntries_cons inductionHypothesis noComment dropped

/-! ### Documents -/

theorem mem_of_mem_linesAfter {character : Char} {before text : List Char}
    (isLine : line ∈ linesAfter before text) (member : character ∈ line) :
    character ∈ before ∨ character ∈ text := by
  induction text generalizing before with
  | nil =>
      simp only [linesAfter] at isLine
      split at isLine
      · cases isLine
      · rw [List.mem_singleton.mp isLine] at member
        exact .inl (List.mem_reverse.mp member)
  | cons next text inductionHypothesis =>
      simp only [linesAfter] at isLine
      split at isLine
      · rcases List.mem_cons.mp isLine with rfl | later
        · left
          rw [List.mem_reverse] at member
          unfold dropCarriageReturn at member
          split at member
          · exact List.mem_cons_of_mem _ member
          · exact member
        · exact .inr (List.mem_cons_of_mem _
            ((inductionHypothesis later).resolve_left List.not_mem_nil))
      · rcases inductionHypothesis isLine with read | later
        · rcases List.mem_cons.mp read with rfl | earlier
          · exact .inr List.mem_cons_self
          · exact .inl earlier
        · exact .inr (List.mem_cons_of_mem _ later)

/-- A text of blanks has no logical lines. -/
theorem logicalLines_of_isBlankText {text : List Char} (blank : isBlankText text = true) :
    logicalLines text = [] := by
  have blankLine : ∀ line ∈ lines text, trimStart line = [] := by
    intro line isLine
    refine List.dropWhile_eq_nil_iff.mpr fun character member => ?_
    have inText := (mem_of_mem_linesAfter isLine member).resolve_left List.not_mem_nil
    exact List.all_eq_true.mp blank character inText
  rw [logicalLines]
  generalize lines text = physical at blankLine
  induction physical with
  | nil => rfl
  | cons physical rest inductionHypothesis =>
      simp only [logicalLinesAfter, blankLine physical List.mem_cons_self]
      exact inductionHypothesis fun line member => blankLine line (List.mem_cons_of_mem _ member)

theorem decode_encode_eq_parse (path : String) (text : List Char) :
    decode path (Utf8.encode text) .properties = .ok (parse text) := by
  simp only [decode, decodePayload, Utf8.decode_encode]
  split
  · rename_i outcome
    split at outcome <;> cases outcome
  · rename_i outcome
    split at outcome
    · rename_i blank
      cases outcome
      rw [parse, logicalLines_of_isBlankText blank]
      rfl
    · cases outcome
      rfl

/-- What the reader binds a key to: what the last of its entries of the key says. -/
theorem find?_parse (text : List Char) (key : String) :
    (parse text).find? key =
      ((((logicalLines text).filterMap property?).findRev? (·.1 = key)).map Prod.snd).map .text := by
  have bindings : (logicalLines text).filterMap binding? =
      ((logicalLines text).filterMap property?).map fun entry => (entry.1, .text entry.2) := by
    rw [List.map_filterMap]
    exact List.filterMap_congr fun line _ => binding?_eq line
  rw [parse, PropertyMap.find?_ofList, bindings, List.findRev?_eq_find?_reverse, ← List.map_reverse,
    List.find?_map, List.findRev?_eq_find?_reverse, Option.map_map, Option.map_map]
  rfl

/-- No key that the reader binds starts with the mark of a comment. -/
theorem not_isComment_of_find?_parse {text : List Char} {key : String} {value : Value}
    (found : (parse text).find? key = some value) : ¬ IsComment key.toList := by
  rw [find?_parse, List.findRev?_eq_find?_reverse] at found
  obtain ⟨_, found, -⟩ := Option.map_eq_some_iff.mp found
  obtain ⟨entry, found, -⟩ := Option.map_eq_some_iff.mp found
  obtain rfl : entry.1 = key := by simpa using List.find?_some found
  obtain ⟨line, isLine, isEntry⟩ :=
    List.mem_filterMap.mp (List.mem_reverse.mp (List.mem_of_find?_eq_some found))
  cases line with
  | nil => cases isEntry
  | cons first rest =>
      obtain ⟨notBlank, noHash, noBang⟩ :=
        isPlain_of_mem_logicalLinesAfter isPlain_nil isLine first rfl
      simp [IsComment, head_of_property? notBlank isEntry, noHash, noBang]

/-- The reader makes of every text what the rule says, exactly if no logical line of the rule starts with
the mark of a comment. Ahead of such a line there is an open line of which nothing is left; the reader
does not notice that it is open, and drops the comment. -/
theorem decode_follows_rule_iff (path : String) (text : List Char) :
    ∃ map, decode path (Utf8.encode text) .properties = .ok map ∧
      ((∀ key, map.find? key = (value? text key).map .text) ↔
        ∀ line ∈ joinLines none (lines text), ¬ IsComment line) := by
  refine ⟨parse text, decode_encode_eq_parse path text, ?_, ?_⟩
  · intro same line member isComment
    obtain ⟨entry, isEntry, keyIsComment⟩ := exists_entry_of_isComment isComment
    have bound : (value? text entry.1).isSome := by
      rw [value?, Option.isSome_map, List.findRev?_eq_find?_reverse, List.find?_isSome]
      refine ⟨entry, List.mem_reverse.mpr (List.mem_filterMap.mpr ⟨line, member, isEntry⟩), ?_⟩
      exact decide_eq_true rfl
    obtain ⟨value, isValue⟩ := Option.isSome_iff_exists.mp bound
    have found := same entry.1
    rw [isValue] at found
    exact not_isComment_of_find?_parse found keyIsComment
  · intro noComment key
    have entries : (logicalLines text).filterMap property? =
        (joinLines none (lines text)).filterMap property? := findsEntries none (lines text) noComment
    rw [find?_parse, entries]
    rfl

/-- A backslash by itself is an open line, and the comment behind it is dropped all the same. -/
theorem comment_dropped_behind_backslash :
    let text := "\\\n#a=1".toList
    (∃ map, decode "/n" (Utf8.encode text) .properties = .ok map ∧ map.find? "#a" = none) ∧
      value? text "#a" = some "1" := by
  refine ⟨⟨_, decode_encode_eq_parse "/n" _, ?_⟩, ?_⟩
  · decide +kernel
  · decide +kernel

end LiveConfig.Properties
