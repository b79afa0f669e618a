import LiveConfig.Proofs.Properties.Joining
import LiveConfig.Proofs.Text.Lines

/-!
Contract: properties documents that are written are read back.

A map of texts is written line by line, a key and its value with a separator between them. Keys and values
that a reader would trim, take for a comment or a continuation, or cut elsewhere cannot be written so.
Owns: the writer, the keys and values that it can write, and the round trip. Does not own: the order of
the lines, which is free.
-/

namespace LiveConfig.Properties

open LiveConfig.Text

/-- A key and a value as one line. -/
def writeLine (key value : String) : List Char :=
  key.toList ++ '=' :: value.toList

/-- A document with one line for each key and value, in the order in which they are given. -/
def write (pairs : List (String × String)) : List Char :=
  pairs.flatMap fun pair => writeLine pair.1 pair.2 ++ ['\n']

/-- A key and a value that can be written as one line. -/
structure Writable (key value : String) : Prop where
  someKey : key ≠ ""
  keyTrimmed : trim key.toList = key.toList
  keyWhole : '=' ∉ key.toList ∧ ':' ∉ key.toList ∧ '\n' ∉ key.toList
  noComment : ¬ IsComment key.toList
  valueTrimmed : trim value.toList = value.toList
  valueWhole : '\n' ∉ value.toList
  /-- The value does not end in an odd number of backslashes. -/
  closed : ¬ IsOpen value.toList

instance (key value : String) : Decidable (Writable key value) :=
  decidable_of_iff
    (key ≠ "" ∧ trim key.toList = key.toList ∧
      ('=' ∉ key.toList ∧ ':' ∉ key.toList ∧ '\n' ∉ key.toList) ∧ ¬ IsComment key.toList ∧
      trim value.toList = value.toList ∧ '\n' ∉ value.toList ∧ ¬ IsOpen value.toList)
    ⟨fun ⟨someKey, keyTrimmed, keyWhole, noComment, valueTrimmed, valueWhole, closed⟩ =>
      ⟨someKey, keyTrimmed, keyWhole, noComment, valueTrimmed, valueWhole, closed⟩,
    fun ⟨someKey, keyTrimmed, keyWhole, noComment, valueTrimmed, valueWhole, closed⟩ =>
      ⟨someKey, keyTrimmed, keyWhole, noComment, valueTrimmed, valueWhole, closed⟩⟩

variable {key value : String} {line text front : List Char} {first : Char}

/-! ### Lines -/

/-- A line is cut behind a key that holds no separator. -/
theorem cut_append (noEquals : '=' ∉ front) (noColon : ':' ∉ front) (line : List Char) :
    cut (front ++ '=' :: line) = (front, line) := by
  induction front with
  | nil => simp [cut]
  | cons first front inductionHypothesis =>
      rw [List.mem_cons, not_or] at noEquals noColon
      have noSeparator : ¬ (first = '=' ∨ first = ':') := by
        rintro (same | same)
        · exact noEquals.1 same.symm
        · exact noColon.1 same.symm
      rw [List.cons_append, cut, if_neg noSeparator, inductionHypothesis noEquals.2 noColon.2]

/-- A logical line of its own: it is neither blank nor a comment nor open. -/
theorem logicalLinesAfter_cons (notSilent : ¬ (line = [] ∨ IsComment line))
    (startsWhole : trimStart line = line) (closed : ¬ IsOpen line) (rest : List (List Char)) :
    logicalLinesAfter [] (line :: rest) = line :: logicalLinesAfter [] rest := by
  have kept : isSilent line = false := Bool.eq_false_iff.mpr fun silent => notSilent (isSilent_iff.mp silent)
  have ended : isContinued line = false :=
    Bool.eq_false_iff.mpr fun continued => closed (isContinued_iff.mp continued)
  simp [logicalLinesAfter, startsWhole, kept, ended]

namespace Writable

variable (writable : Writable key value)

include writable

/-- The line starts with the key, and so with neither a blank nor the mark of a comment. -/
theorem exists_first : ∃ first rest, key.toList = first :: rest ∧ isBlank first = false := by
  cases isKey : key.toList with
  | nil => exact absurd (String.toList_eq_nil_iff.mp isKey) writable.someKey
  | cons first rest =>
      refine ⟨first, rest, rfl, head_not_isBlank writable.keyTrimmed ?_⟩
      rw [isKey]
      rfl

theorem noLineFeed : '\n' ∉ writeLine key value := by
  rw [writeLine, List.mem_append, List.mem_cons]
  rintro (inKey | isEquals | inValue)
  · exact writable.keyWhole.2.2 inKey
  · exact absurd isEquals (by decide)
  · exact writable.valueWhole inValue

/-- The line ends with the value, or with the separator if the value is empty. -/
theorem noCarriageReturn : (writeLine key value).getLast? ≠ some '\r' := by
  rw [writeLine, List.getLast?_append, List.getLast?_cons]
  intro isLast
  cases ends : value.toList.getLast? with
  | none => simp [ends] at isLast
  | some last =>
      have notBlank := last_not_isBlank writable.valueTrimmed ends
      obtain rfl : last = '\r' := by simpa [ends] using isLast
      exact absurd notBlank (by decide)

theorem trimStart_writeLine : trimStart (writeLine key value) = writeLine key value := by
  obtain ⟨first, rest, isKey, notBlank⟩ := writable.exists_first
  rw [writeLine, isKey, List.cons_append]
  exact trimStart_of_not_isBlank notBlank

theorem not_silent : ¬ (writeLine key value = [] ∨ IsComment (writeLine key value)) := by
  obtain ⟨first, rest, isKey, -⟩ := writable.exists_first
  have noComment := writable.noComment
  rw [writeLine, isKey] at *
  rintro (isEmpty | isComment)
  · cases isEmpty
  · exact noComment isComment

theorem binding?_writeLine : binding? (writeLine key value) = some (key, .text value) := by
  rw [binding?_eq, property?, writeLine, cut_append writable.keyWhole.1 writable.keyWhole.2.1]
  have someKey : key.toList ≠ [] := fun isEmpty => writable.someKey (String.toList_eq_nil_iff.mp isEmpty)
  simp only [writable.keyTrimmed, writable.valueTrimmed, if_neg someKey, Option.map_some,
    String.ofList_toList]

end Writable

/-! ### Documents -/

/-- A document that is written has one logical line for each key and value. -/
theorem logicalLines_write {pairs : List (String × String)}
    (writable : ∀ pair ∈ pairs, Writable pair.1 pair.2) :
    logicalLines (write pairs) = pairs.map fun pair => writeLine pair.1 pair.2 := by
  induction pairs with
  | nil => rfl
  | cons pair rest inductionHypothesis =>
      have isWritable := writable pair List.mem_cons_self
      have others := inductionHypothesis fun other member => writable other (List.mem_cons_of_mem _ member)
      have closed : ¬ IsOpen (writeLine pair.1 pair.2) := by
        rw [writeLine, isOpen_append_cons (by decide)]
        exact isWritable.closed
      have split : write (pair :: rest) = writeLine pair.1 pair.2 ++ '\n' :: write rest := by
        rw [write, List.flatMap_cons, List.append_assoc, List.singleton_append]
        rfl
      rw [logicalLines] at others
      rw [logicalLines, split, lines_append isWritable.noLineFeed isWritable.noCarriageReturn,
        logicalLinesAfter_cons isWritable.not_silent isWritable.trimStart_writeLine closed, others,
        List.map_cons]

theorem parse_write {pairs : List (String × String)}
    (writable : ∀ pair ∈ pairs, Writable pair.1 pair.2) :
    parse (write pairs) = .ofList (pairs.map fun pair => (pair.1, .text pair.2)) := by
  rw [parse, logicalLines_write writable, List.filterMap_map]
  apply congrArg PropertyMap.ofList
  rw [← List.filterMap_eq_map]
  exact List.filterMap_congr fun pair member => (writable pair member).binding?_writeLine

/-- A map of texts that is written in any order of its keys is read back as it was, with nothing lost and
nothing added, if its keys and values can be written. -/
theorem decode_write (path : String) {map : PropertyMap} {pairs : List (String × String)}
    (listed : (pairs.map fun pair => (pair.1, Value.text pair.2)).Perm map.entries)
    (writable : ∀ pair ∈ pairs, Writable pair.1 pair.2) :
    decode path (Utf8.encode (write pairs)) .properties = .ok map := by
  rw [decode_encode_eq_parse, parse_write writable, PropertyMap.ofList_eq_of_perm listed]

/-- Keys and values with blanks, separators, backslashes and carriage returns within, and an empty value,
in no order. -/
def unruly : List (String × String) :=
  [("path\rto", "C:\\\\"), ("a b", ""), ("é", "# x = 1\ry")]

theorem unruly_written :
    let map : PropertyMap := .ofList (unruly.map fun pair => (pair.1, .text pair.2))
    (unruly.map fun pair => (pair.1, Value.text pair.2)).Perm map.entries ∧
      (∀ pair ∈ unruly, Writable pair.1 pair.2) ∧ map.keys = ["a b", "path\rto", "é"] ∧
      decode "/n" (Utf8.encode (write unruly)) .properties = .ok map := by
  intro map
  have listed : (unruly.map fun pair => (pair.1, Value.text pair.2)).Perm map.entries := by
    decide +kernel
  have writable : ∀ pair ∈ unruly, Writable pair.1 pair.2 := by decide +kernel
  exact ⟨listed, writable, by decide +kernel, decode_write "/n" listed writable⟩

end LiveConfig.Properties
