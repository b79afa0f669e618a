import LiveConfig.Text.Blank

/-!
Contract: lines and blanks of a text.

A text that is written line by line is read back line by line, the lines of two texts are those of the
one and then those of the other where the first ends with its line, and a text that trimming leaves alone
has no blank at either end. Owns: these facts. Does not own: what a line means.
-/

namespace LiveConfig.Text

variable {text line : List Char}

/-! ### Lines -/

theorem linesAfter_append (noLineFeed : '\n' ∉ line) (before rest : List Char) :
    linesAfter before (line ++ '\n' :: rest) =
      (dropCarriageReturn (line.reverse ++ before)).reverse :: linesAfter [] rest := by
  induction line generalizing before with
  | nil => rfl
  | cons first line inductionHypothesis =>
      rw [List.mem_cons, not_or] at noLineFeed
      obtain ⟨differs, noLineFeed⟩ := noLineFeed
      rw [List.cons_append, linesAfter, if_neg (Ne.symm differs), inductionHypothesis noLineFeed,
        List.reverse_cons, List.append_assoc, List.singleton_append]

theorem dropCarriageReturn_of_head? (differs : line.head? ≠ some '\r') :
    dropCarriageReturn line = line := by
  unfold dropCarriageReturn
  split
  · exact absurd rfl differs
  · rfl

/-- A line that is written with a line feed behind it is read back, and the rest is read behind it. -/
theorem lines_append (noLineFeed : '\n' ∉ line) (noCarriageReturn : line.getLast? ≠ some '\r')
    (rest : List Char) : lines (line ++ '\n' :: rest) = line :: lines rest := by
  have kept : dropCarriageReturn line.reverse = line.reverse := by
    apply dropCarriageReturn_of_head?
    rwa [List.head?_reverse]
  rw [lines, linesAfter_append noLineFeed, List.append_nil, kept, List.reverse_reverse]
  rfl

theorem linesAfter_append_line (before front back : List Char) :
    linesAfter before (front ++ '\n' :: back) = linesAfter before (front ++ ['\n']) ++ lines back := by
  induction front generalizing before with
  | nil => simp [linesAfter, lines]
  | cons first front inductionHypothesis =>
      simp only [List.cons_append, linesAfter]
      split
      · rw [inductionHypothesis, List.cons_append]
      · exact inductionHypothesis (first :: before)

/-- Behind a line feed, lines are read as if nothing stood before it. -/
theorem lines_append_of_ends {front : List Char} (ends : front = [] ∨ front.getLast? = some '\n')
    (back : List Char) : lines (front ++ back) = lines front ++ lines back := by
  obtain rfl | endsLine := ends
  · rfl
  · obtain ⟨line, rfl⟩ := List.getLast?_eq_some_iff.mp endsLine
    rw [List.append_assoc, List.singleton_append]
    exact linesAfter_append_line [] line back

/-! ### Blanks -/

theorem length_trimEnd_le (text : List Char) : (trimEnd text).length ≤ text.length := by
  rw [trimEnd, List.length_reverse]
  have shorter := (List.dropWhile_suffix (l := text.reverse) isBlank).length_le
  rwa [List.length_reverse] at shorter

theorem trimStart_of_trim (trimmed : trim text = text) : trimStart text = text := by
  have suffix : trimStart text <:+ text := List.dropWhile_suffix isBlank
  apply suffix.eq_of_length_le
  calc text.length = (trim text).length := by rw [trimmed]
    _ ≤ (trimStart text).length := length_trimEnd_le _

theorem trimEnd_of_trim (trimmed : trim text = text) : trimEnd text = text := by
  rwa [trim, trimStart_of_trim trimmed] at trimmed

/-- A trimmed text does not start with a blank. -/
theorem head_not_isBlank {first : Char} (trimmed : trim text = text) (isFirst : text.head? = some first) :
    isBlank first = false := by
  have notBlank := List.head?_dropWhile_not isBlank text
  rwa [show text.dropWhile isBlank = text from trimStart_of_trim trimmed, isFirst] at notBlank

/-- A trimmed text does not end with a blank. -/
theorem last_not_isBlank {last : Char} (trimmed : trim text = text) (isLast : text.getLast? = some last) :
    isBlank last = false := by
  have kept : text.reverse.dropWhile isBlank = text.reverse := by
    rw [← List.reverse_inj, List.reverse_reverse]
    exact trimEnd_of_trim trimmed
  have notBlank := List.head?_dropWhile_not isBlank text.reverse
  rwa [kept, List.head?_reverse, isLast] at notBlank

end LiveConfig.Text
