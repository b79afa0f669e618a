import LiveConfig.Json.Reader
import LiveConfig.Proofs.Flatten
import LiveConfig.Text.Blank

/-!
Contract: the objects that whole JSON texts stand for.

In every object that is reached through objects, keys ascend, so that each stands once; and a text of
blanks stands for nothing. Owns: that the reader makes its objects from entries it has put in order, and
that no numeral is read as an object. Does not own: objects within arrays.
-/

namespace LiveConfig

/-- A value whose keys ascend at every depth, if it is an object. -/
def Value.Sorted (value : Value) : Prop :=
  ∀ members, value.members? = some members → members.Sorted Value.members?

namespace Json

open LiveConfig.Text

/-- A reading of anything but an object, or of nothing. -/
def NoObject (reading : Option (Value × List Char)) : Prop :=
  ∀ read ∈ reading, read.1.members? = none

/-- A reader of which every value is sorted. -/
def ReadsSorted (read : List Char → Option (Value × List Char)) : Prop :=
  ∀ text value after, read text = some (value, after) → value.Sorted

variable {negative : Bool} {significand : Nat} {shift : Int} {text after : List Char} {read : Value}
  {item : List Char → Option (Value × List Char)} {entry : String × Value}
  {entries : List (String × Value)}

theorem sorted_of_noObject (noObject : read.members? = none) : read.Sorted := by
  intro members isObject
  rw [noObject] at isObject
  cases isObject

/-! ### Numerals -/

theorem noObject_none : NoObject none := nofun

theorem noObject_some (noObject : read.members? = none) : NoObject (some (read, after)) := by
  rintro _ ⟨⟩
  exact noObject

theorem noObject_signed (found : Option Binary64) :
    NoObject (found.map fun number => (signed negative number, after)) := by
  intro read isRead
  obtain ⟨number, -, rfl⟩ := Option.map_eq_some_iff.mp isRead
  rfl

theorem noObject_exponentPart : NoObject (exponentPart negative significand shift text) := by
  unfold exponentPart
  generalize exponentSign text = sign
  obtain ⟨below, digits⟩ := sign
  dsimp only
  split
  · split
    · split
      · exact noObject_signed _
      · split
        · exact noObject_none
        · exact noObject_some rfl
    · exact noObject_none
  · exact noObject_none

theorem noObject_afterDigits : NoObject (afterDigits negative significand shift text) := by
  unfold afterDigits
  split
  · exact noObject_exponentPart
  · exact noObject_exponentPart
  · exact noObject_signed _

theorem noObject_fractionDigits {any : Bool} :
    NoObject (fractionDigits negative significand shift any text) := by
  induction text generalizing significand shift any with
  | nil =>
      rw [fractionDigits]
      split
      · exact noObject_afterDigits
      · exact noObject_none
  | cons character rest inductionHypothesis =>
      rw [fractionDigits]
      split
      · split
        · exact inductionHypothesis
        · exact noObject_afterDigits
      · split
        · exact noObject_afterDigits
        · exact noObject_none

theorem noObject_afterWhole : NoObject (afterWhole negative significand shift text) := by
  unfold afterWhole
  split
  · exact noObject_fractionDigits
  · exact noObject_afterDigits

theorem members?_integral : (wholeDigits.integral negative significand after).1.members? = none := by
  unfold wholeDigits.integral
  split
  · rfl
  · split <;> rfl

theorem noObject_wholeDigits : NoObject (wholeDigits negative significand text) := by
  induction text generalizing significand with
  | nil =>
      rintro _ ⟨⟩
      exact members?_integral
  | cons character rest inductionHypothesis =>
      unfold wholeDigits
      split
      · split
        · exact inductionHypothesis
        · exact noObject_afterWhole
      · split
        · exact noObject_fractionDigits
        · exact noObject_exponentPart
        · exact noObject_exponentPart
        · rintro _ ⟨⟩
          exact members?_integral

theorem noObject_unsignedNumeral : NoObject (unsignedNumeral negative text) := by
  unfold unsignedNumeral
  split
  · exact noObject_none
  · split
    · split
      · exact noObject_none
      · exact noObject_wholeDigits
    · exact noObject_wholeDigits
  · split
    · exact noObject_wholeDigits
    · exact noObject_none

theorem noObject_numeral : NoObject (numeral text) := by
  unfold numeral
  split <;> exact noObject_unsignedNumeral

/-! ### Values -/

theorem sorted_of_member (sorted : ReadsSorted item) (isRead : member item text = some (entry, after)) :
    entry.2.Sorted := by
  unfold member at isRead
  split at isRead
  · cases isRead
  · split at isRead
    · obtain ⟨⟨value, final⟩, isValue, same⟩ := Option.map_eq_some_iff.mp isRead
      obtain ⟨rfl, -⟩ := Prod.mk.inj same
      exact sorted _ _ _ isValue
    · cases isRead

theorem sorted_of_moreMembers (sorted : ReadsSorted item) {fuel : Nat}
    (isRead : moreMembers item fuel text = some (entries, after)) :
    ∀ entry ∈ entries, entry.2.Sorted := by
  induction fuel generalizing text entries with
  | zero => cases isRead
  | succ fuel inductionHypothesis =>
      rw [moreMembers] at isRead
      split at isRead
      · cases isRead
        exact nofun
      · split at isRead
        · cases isRead
        · rename_i isMember
          obtain ⟨⟨others, final⟩, areOthers, same⟩ := Option.map_eq_some_iff.mp isRead
          obtain ⟨rfl, rfl⟩ := Prod.mk.inj same
          exact List.forall_mem_cons.mpr
            ⟨sorted_of_member sorted isMember, inductionHypothesis areOthers⟩
      · cases isRead

theorem sorted_of_members (sorted : ReadsSorted item)
    (isRead : members item text = some (entries, after)) : ∀ entry ∈ entries, entry.2.Sorted := by
  unfold members at isRead
  split at isRead
  · cases isRead
    exact nofun
  · split at isRead
    · cases isRead
    · rename_i isMember
      obtain ⟨⟨others, final⟩, areOthers, same⟩ := Option.map_eq_some_iff.mp isRead
      obtain ⟨rfl, rfl⟩ := Prod.mk.inj same
      exact List.forall_mem_cons.mpr
        ⟨sorted_of_member sorted isMember, sorted_of_moreMembers sorted areOthers⟩

theorem sorted_of_map {α : Type} {found : Option α} {make : α → Value × List Char}
    (noObject : ∀ body, (make body).1.members? = none)
    (isRead : found.map make = some (read, after)) : read.Sorted := by
  obtain ⟨body, -, made⟩ := Option.map_eq_some_iff.mp isRead
  have none := noObject body
  rw [made] at none
  exact sorted_of_noObject none

theorem sorted_object (areSorted : ∀ entry ∈ entries, entry.2.Sorted) :
    (Value.object (Entries.ofList entries)).Sorted := by
  rintro _ ⟨⟩
  exact Entries.sorted_ofList areSorted

theorem value_readsSorted (depth : Nat) : ReadsSorted (value depth) := by
  induction depth using Nat.strongRecOn with
  | ind depth inductionHypothesis =>
      intro text read after isRead
      unfold value at isRead
      split at isRead
      · cases isRead
      · exact sorted_of_map (fun _ => rfl) isRead
      · split at isRead
        · cases isRead
        · exact sorted_of_map (fun _ => rfl) isRead
      · split at isRead
        · cases isRead
        · rename_i inner
          obtain ⟨⟨entries, final⟩, areMembers, same⟩ := Option.map_eq_some_iff.mp isRead
          obtain ⟨rfl, -⟩ := Prod.mk.inj same
          exact sorted_object (sorted_of_members (inductionHypothesis inner inner.lt_succ_self) areMembers)
      · exact sorted_of_map (fun _ => rfl) isRead
      · exact sorted_of_map (fun _ => rfl) isRead
      · exact sorted_of_map (fun _ => rfl) isRead
      · exact sorted_of_noObject (noObject_numeral _ isRead)

/-- In the object of a whole text, keys ascend at every depth. -/
theorem sorted_of_parse? {text : String} {members : Entries Value}
    (isParsed : parse? text = some (.object members)) : members.Sorted Value.members? := by
  unfold parse? at isParsed
  split at isParsed
  · rename_i isRead
    split at isParsed
    · obtain rfl := Option.some.inj isParsed
      exact value_readsSorted depthLimit _ _ _ isRead members rfl
    · cases isParsed
  · cases isParsed

/-! ### Blank texts -/

theorem not_isDigit_of_isBlank {character : Char} (blank : isBlank character = true) :
    isDigit character = false := by
  refine Bool.eq_false_iff.mpr fun digit => ?_
  rw [isDigit, Bool.and_eq_true, decide_eq_true_eq, decide_eq_true_eq] at digit
  have range : '0'.toNat ≤ character.toNat ∧ character.toNat ≤ '9'.toNat := digit
  simp only [show '0'.toNat = 0x30 from rfl, show '9'.toNat = 0x39 from rfl] at range
  simp only [isBlank, Bool.or_eq_true, Bool.and_eq_true, decide_eq_true_eq, beq_iff_eq] at blank
  omega

theorem ne_cons_of_isBlank {first token : Char} {rest more : List Char} (blank : isBlank first = true)
    (notBlank : isBlank token = false) : first :: rest ≠ token :: more := by
  intro same
  rw [(List.cons.inj same).1, notBlank] at blank
  cases blank

theorem numeral_of_isBlank {first : Char} {rest : List Char} (blank : isBlank first = true) :
    numeral (first :: rest) = none := by
  unfold numeral
  split
  · rename_i starts
    exact absurd starts (ne_cons_of_isBlank blank (by decide))
  · unfold unsignedNumeral
    split
    · rfl
    · rename_i starts
      exact absurd starts (ne_cons_of_isBlank blank (by decide))
    · rename_i same
      obtain ⟨rfl, rfl⟩ := List.cons.inj same
      rw [not_isDigit_of_isBlank blank]
      rfl

/-- No token starts with a blank. -/
theorem value_of_isBlank {first : Char} {rest : List Char} (blank : isBlank first = true)
    (depth : Nat) : value depth (first :: rest) = none := by
  unfold value
  split
  case h_1 => rfl
  case h_8 => exact numeral_of_isBlank blank
  all_goals
    rename_i starts
    exact absurd starts (ne_cons_of_isBlank blank (by decide))

/-- A blank text stands for nothing, also where its blanks may not stand between tokens. -/
theorem parse?_of_isBlankText {text : List Char} (blank : isBlankText text = true) :
    parse? (.ofList text) = none := by
  have nothing : value depthLimit (skipSpace text) = none := by
    cases starts : skipSpace text with
    | nil => rfl
    | cons first rest =>
        have member : first ∈ skipSpace text := starts ▸ List.mem_cons_self
        have inText := List.dropWhile_subset isSpace member
        exact value_of_isBlank (List.all_eq_true.mp blank first inText) depthLimit
  rw [parse?, String.toList_ofList, nothing]

end Json
end LiveConfig
