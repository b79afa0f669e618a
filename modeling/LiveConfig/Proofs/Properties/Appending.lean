import LiveConfig.Proofs.Properties.Joining
import LiveConfig.Proofs.Text.Lines

/-!
Contract: properties documents one behind the other.

What the reader carries from line to line is the text that is pending, and a line that is not open leaves
nothing pending, whatever came before it. Owns: that a document which ends with such a line can be read
apart from what follows it. Does not own: what single lines bind.
-/

namespace LiveConfig.Properties

open LiveConfig.Text

variable {line pending : List Char} {front back : List (List Char)}

/-- Blanks at the start of a line do not make it open. -/
theorem isOpen_trimStart (line : List Char) : IsOpen (trimStart line) ↔ IsOpen line := by
  induction line with
  | nil => rfl
  | cons first line inductionHypothesis =>
      by_cases blank : isBlank first = true
      · have noBackslash : first ≠ '\\' := by
          intro isBackslash
          rw [isBackslash] at blank
          exact absurd blank (by decide)
        have behind : IsOpen ([] ++ first :: line) ↔ IsOpen line := isOpen_append_cons noBackslash
        rw [List.nil_append] at behind
        rw [behind, ← inductionHypothesis, trimStart, List.dropWhile_cons_of_pos blank]
        rfl
      · rw [trimStart_of_not_isBlank (by simpa using blank)]

/-- One line says something or nothing and leaves something pending, and the lines behind it see no more of
it than that. If it is not open, it leaves nothing. -/
theorem exists_of_line (pending line : List Char) :
    ∃ said left,
      (∀ rest, logicalLinesAfter pending (line :: rest) = said ++ logicalLinesAfter left rest) ∧
        (¬ IsOpen line → left = []) := by
  by_cases silent : (pending.isEmpty && isSilent (trimStart line)) = true
  · refine ⟨[], [], fun rest => ?_, fun _ => rfl⟩
    rw [logicalLinesAfter, if_pos silent, List.nil_append]
  · by_cases continued : isContinued (trimStart line) = true
    · refine ⟨[], pending ++ (trimStart line).dropLast, fun rest => ?_, fun closed => ?_⟩
      · rw [logicalLinesAfter, if_neg silent, if_pos continued, List.nil_append]
      · have isOpen := (isOpen_trimStart line).mp (isContinued_iff.mp continued)
        exact absurd isOpen closed
    · refine ⟨[pending ++ trimStart line], [], fun rest => ?_, fun _ => rfl⟩
      rw [logicalLinesAfter, if_neg silent, if_neg continued, List.singleton_append]

/-- Behind a line that is not open, logical lines are made as if nothing stood before it. -/
theorem logicalLinesAfter_append (closed : ∀ last, front.getLast? = some last → ¬ IsOpen last)
    (nothing : front = [] → pending = []) (back : List (List Char)) :
    logicalLinesAfter pending (front ++ back) =
      logicalLinesAfter pending front ++ logicalLinesAfter [] back := by
  induction front generalizing pending with
  | nil =>
      rw [nothing rfl]
      rfl
  | cons line rest inductionHypothesis =>
      obtain ⟨said, left, apart, leavesNothing⟩ := exists_of_line pending line
      have restClosed : ∀ last, rest.getLast? = some last → ¬ IsOpen last := by
        intro last isLast
        apply closed
        rw [List.getLast?_cons, isLast]
        rfl
      have restNothing : rest = [] → left = [] := by
        intro noRest
        apply leavesNothing
        apply closed
        rw [noRest]
        rfl
      rw [List.cons_append, apart, apart, inductionHypothesis restClosed restNothing,
        List.append_assoc]

/-- A document that is empty, or ends with a line that does not go on in the next one, is read apart from
what follows it: together they bind what the second one binds, over what the first one binds. -/
theorem parse_append {front : List Char} (ends : front = [] ∨ front.getLast? = some '\n')
    (closed : ∀ last, (lines front).getLast? = some last →
      Even (last.rtakeWhile (· == '\\')).length) (back : List Char) :
    parse (front ++ back) = (parse front).overriddenBy (parse back) := by
  have notOpen : ∀ last, (lines front).getLast? = some last → ¬ IsOpen last :=
    fun last isLast => Nat.not_odd_iff_even.mpr (closed last isLast)
  have apart : logicalLines (front ++ back) = logicalLines front ++ logicalLines back := by
    rw [logicalLines, lines_append_of_ends ends, logicalLinesAfter_append notOpen fun _ => rfl]
    rfl
  rw [parse, apart, List.filterMap_append, PropertyMap.ofList_append]
  rfl

/-- A continuation, a comment and a line that ends in two backslashes, behind each of which a document
starts anew. -/
theorem continued_append :
    let front := "a=1,\\\n  2\r\n# b\\\nc=\\\\\r\n".toList
    let back := "#a=3\n2\na=4".toList
    front.getLast? = some '\n' ∧ (lines front).getLast? = some "c=\\\\".toList ∧
      parse (front ++ back) = (parse front).overriddenBy (parse back) ∧
      (parse (front ++ back)).entries =
        [("2", .text ""), ("a", .text "4"), ("c", .text "\\\\")] := by
  intro front back
  have ends : front.getLast? = some '\n' := by decide +kernel
  have last : (lines front).getLast? = some "c=\\\\".toList := by decide +kernel
  refine ⟨ends, last, ?_, by decide +kernel⟩
  apply parse_append (.inr ends)
  intro line isLast
  obtain rfl := Option.some.inj (last.symm.trans isLast)
  decide +kernel

end LiveConfig.Properties
