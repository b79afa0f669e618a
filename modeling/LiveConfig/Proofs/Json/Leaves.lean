import LiveConfig.Decode
import LiveConfig.Proofs.Json.Objects

/-!
Contract: what the payload of a JSON object holds.

The property map of a payload is the flat map of the object that its text stands for. Owns: that nothing
stands between the two, and the flat map as seen from the text. Does not own: texts that stand for no
object.
-/

namespace LiveConfig.Json

open LiveConfig.Text

variable {text : List Char} {members : Entries Value}

theorem decode_encode_json (path : String) (isParsed : parse? (.ofList text) = some (.object members)) :
    decode path (Utf8.encode text) .json = .ok (flatten members) := by
  have notBlank : isBlankText text = false := by
    refine Bool.eq_false_iff.mpr fun blank => ?_
    rw [parse?_of_isBlankText blank] at isParsed
    cases isParsed
  have isDecoded : decodePayload .json (Utf8.encode text) = .ok (flatten members) := by
    simp [decodePayload, Utf8.decode_encode, notBlank, decodeText, isParsed]
  rw [decode, isDecoded]

/-- The property map of a JSON object holds its leaves: each under the join of the keys on its path, of
several with one key the last, and without dots in the keys each under a key of its own. -/
theorem decode_isFlatOf (path : String) (text : List Char) (members : Entries Value)
    (isParsed : parse? (.ofList text) = some (.object members)) :
    ∃ map, decode path (Utf8.encode text) .json = .ok map ∧ IsFlatOf map members :=
  ⟨flatten members, decode_encode_json path isParsed, isFlatOf_flatten (sorted_of_parse? isParsed)⟩

/-- An object with empty keys, an empty object and an array that holds one. -/
theorem unnamed_isFlatOf :
    let text := "\x7b\"b\": \x7b\"\": 1, \"c\": \x7b\x7d\x7d, \"\": [\x7b\x7d]\x7d".toList
    ∃ members map, parse? (.ofList text) = some (.object members) ∧
      decode "/n" (Utf8.encode text) .json = .ok map ∧ map.keys = ["", "b."] ∧
      IsFlatOf map members := by
  intro text
  have isParsed : parse? (.ofList text) = some (.object
      [("", .list [.object []]), ("b", .object [("", .integer 1), ("c", .object [])])]) := by
    decide +kernel
  obtain ⟨map, isDecoded, isFlat⟩ := decode_isFlatOf "/n" text _ isParsed
  obtain rfl := Except.ok.inj (isDecoded.symm.trans (decode_encode_json "/n" isParsed))
  exact ⟨_, _, isParsed, isDecoded, by decide +kernel, isFlat⟩

end LiveConfig.Json
