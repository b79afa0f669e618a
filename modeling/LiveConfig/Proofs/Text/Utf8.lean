import LiveConfig.Text.Utf8

/-!
Contract: every text is what its encoding decodes to, and texts are ordered like their encodings.

Owns: that the decoder takes the bytes of one character for this character and goes on behind them, and
from it that a whole text is read back; and that the smaller of two texts has the smaller bytes. Does not
own: what the decoder makes of other bytes.
-/

namespace LiveConfig.Text.Utf8

variable {byte bits index start : Nat} {rest : List UInt8}

/-- The bytes of a character, by their number. -/
inductive Spelled (code : Nat) : List UInt8 → Prop
  | one (high : code < 0x80) : Spelled code [.ofNat code]
  | two (low : 0x80 ≤ code) (high : code < 0x800) :
      Spelled code [.ofNat (code / 64 % 32 + 192), .ofNat (code % 64 + 128)]
  | three (low : 0x800 ≤ code) (high : code < 0x10000) :
      Spelled code [.ofNat (code / 4096 % 16 + 224), .ofNat (code / 64 % 64 + 128),
        .ofNat (code % 64 + 128)]
  | four (low : 0x10000 ≤ code) (high : code < 0x110000) :
      Spelled code [.ofNat (code / 262144 % 8 + 240), .ofNat (code / 4096 % 64 + 128),
        .ofNat (code / 64 % 64 + 128), .ofNat (code % 64 + 128)]

theorem spelled_encodeChar (character : Char) :
    Spelled character.toNat (String.utf8EncodeChar character) := by
  have valid : character.toNat < 0xD800 ∨ 0xDFFF < character.toNat ∧ character.toNat < 0x110000 :=
    character.valid
  generalize isCode : character.toNat = code at valid
  unfold String.utf8EncodeChar
  simp only [show character.val.toNat = code from isCode]
  split
  · exact .one (by omega)
  · split
    · exact .two (by omega) (by omega)
    · split
      · exact .three (by omega) (by omega)
      · exact .four (by omega) (by omega)

theorem encode_cons (character : Char) (text : List Char) :
    encode (character :: text) = String.utf8EncodeChar character ++ encode text :=
  List.flatMap_cons

/-! ### First bytes -/

theorem lead_of_two (byte : Nat) (low : 0xC2 ≤ byte) (high : byte < 0xE0) :
    Lead.ofByte? byte = some ⟨byte - 0xC0, 1, 0x80, 0xBF⟩ := by
  simp only [Lead.ofByte?]
  rw [if_neg (by omega), if_neg (by omega), if_pos high]

/-- The first of three bytes. The second one may not spell out a shorter sequence or a surrogate. -/
theorem lead_of_three (byte : Nat) (low : 0xE0 ≤ byte) (high : byte < 0xF0) :
    ∃ least greatest, Lead.ofByte? byte = some ⟨byte - 0xE0, 2, least, greatest⟩ ∧
      ∀ second, 0x80 ≤ second → second ≤ 0xBF → (byte = 0xE0 → 0xA0 ≤ second) →
        (byte = 0xED → second ≤ 0x9F) → least ≤ second ∧ second ≤ greatest := by
  simp only [Lead.ofByte?]
  rw [if_neg (by omega), if_neg (by omega), if_neg (by omega)]
  split
  · rename_i same
    subst same
    exact ⟨_, _, rfl, fun second _ above notShort _ => ⟨notShort rfl, above⟩⟩
  · split
    · rename_i same
      subst same
      exact ⟨_, _, rfl, fun second below _ _ noSurrogate => ⟨below, noSurrogate rfl⟩⟩
    · exact ⟨_, _, rfl, fun second below above _ _ => ⟨below, above⟩⟩

/-- The first of four bytes. The second one may not spell out a shorter sequence or pass the last
character. -/
theorem lead_of_four (byte : Nat) (low : 0xF0 ≤ byte) (high : byte ≤ 0xF4) :
    ∃ least greatest, Lead.ofByte? byte = some ⟨byte - 0xF0, 3, least, greatest⟩ ∧
      ∀ second, 0x80 ≤ second → second ≤ 0xBF → (byte = 0xF0 → 0x90 ≤ second) →
        (byte = 0xF4 → second ≤ 0x8F) → least ≤ second ∧ second ≤ greatest := by
  simp only [Lead.ofByte?]
  rw [if_neg (by omega), if_neg (by omega), if_neg (by omega), if_neg (by omega), if_neg (by omega),
    if_neg (by omega)]
  split
  · rename_i same
    subst same
    exact ⟨_, _, rfl, fun second _ above notShort _ => ⟨notShort rfl, above⟩⟩
  · split
    · exact ⟨_, _, rfl, fun second below above _ _ => ⟨below, above⟩⟩
    · obtain rfl : byte = 0xF4 := by omega
      exact ⟨_, _, rfl, fun second below _ _ notPast => ⟨below, notPast rfl⟩⟩

/-! ### Steps of the decoder -/

theorem toNat_ofNat (small : byte < 256) : (UInt8.ofNat byte).toNat = byte := by
  simp [Nat.mod_eq_of_lt small]

/-- A first byte that others follow. -/
theorem decodeFrom_lead {following low high : Nat} (small : byte < 256)
    (isLead : Lead.ofByte? byte = some ⟨bits, following + 1, low, high⟩) :
    decodeFrom 0 0 0x80 0xBF index index (.ofNat byte :: rest) =
      decodeFrom bits (following + 1) low high index (index + 1) rest := by
  rw [decodeFrom, toNat_ofNat small]
  simp [isLead]

/-- A byte in its range that others follow. -/
theorem decodeFrom_middle {pending low high : Nat} (small : byte < 256)
    (inRange : low ≤ byte ∧ byte ≤ high) :
    decodeFrom bits (pending + 2) low high start index (.ofNat byte :: rest) =
      decodeFrom (bits * 64 + (byte - 0x80)) (pending + 1) 0x80 0xBF start (index + 1) rest := by
  rw [decodeFrom, toNat_ofNat small]
  simp [inRange]

/-- The last byte of a character. -/
theorem decodeFrom_last {low high : Nat} (small : byte < 256) (inRange : low ≤ byte ∧ byte ≤ high) :
    decodeFrom bits 1 low high start index (.ofNat byte :: rest) =
      (decodeFrom 0 0 0x80 0xBF (index + 1) (index + 1) rest).map
        (.ofNat (bits * 64 + (byte - 0x80)) :: ·) := by
  rw [decodeFrom, toNat_ofNat small]
  simp [inRange]

/-- The bytes of one character are taken for it. -/
theorem decodeFrom_encodeChar (character : Char) (index : Nat) (rest : List UInt8) :
    ∃ next, decodeFrom 0 0 0x80 0xBF index index (String.utf8EncodeChar character ++ rest) =
      (decodeFrom 0 0 0x80 0xBF next next rest).map (character :: ·) := by
  have valid : character.toNat < 0xD800 ∨ 0xDFFF < character.toNat ∧ character.toNat < 0x110000 :=
    character.valid
  have readBack : Char.ofNat character.toNat = character := Char.ofNat_toNat character
  have spelled := spelled_encodeChar character
  generalize character.toNat = code at valid readBack spelled
  generalize String.utf8EncodeChar character = bytes at spelled
  cases spelled with
  | one =>
      refine ⟨index + 1, ?_⟩
      rw [List.singleton_append, decodeFrom, toNat_ofNat (by omega)]
      simp only [Lead.ofByte?, if_pos (show code < 0x80 by omega), if_true, readBack]
  | two =>
      refine ⟨index + 1 + 1, ?_⟩
      have lead := lead_of_two (code / 64 % 32 + 192) (by omega) (by omega)
      have bits : (code / 64 % 32 + 192 - 0xC0) * 64 + (code % 64 + 128 - 0x80) = code := by omega
      rw [List.cons_append, List.cons_append, List.nil_append,
        decodeFrom_lead (by omega) lead, decodeFrom_last (by omega) (by omega)]
      simp only [bits, readBack]
  | three =>
      refine ⟨index + 1 + 1 + 1, ?_⟩
      obtain ⟨least, greatest, lead, within⟩ :=
        lead_of_three (code / 4096 % 16 + 224) (by omega) (by omega)
      have second := within (code / 64 % 64 + 128) (by omega) (by omega) (by omega) (by omega)
      have bits : ((code / 4096 % 16 + 224 - 0xE0) * 64 + (code / 64 % 64 + 128 - 0x80)) * 64 +
          (code % 64 + 128 - 0x80) = code := by omega
      rw [List.cons_append, List.cons_append, List.cons_append, List.nil_append,
        decodeFrom_lead (by omega) lead, decodeFrom_middle (by omega) second,
        decodeFrom_last (by omega) (by omega)]
      simp only [bits, readBack]
  | four =>
      refine ⟨index + 1 + 1 + 1 + 1, ?_⟩
      obtain ⟨least, greatest, lead, within⟩ :=
        lead_of_four (code / 262144 % 8 + 240) (by omega) (by omega)
      have second := within (code / 4096 % 64 + 128) (by omega) (by omega) (by omega) (by omega)
      have bits : (((code / 262144 % 8 + 240 - 0xF0) * 64 + (code / 4096 % 64 + 128 - 0x80)) * 64 +
          (code / 64 % 64 + 128 - 0x80)) * 64 + (code % 64 + 128 - 0x80) = code := by omega
      rw [List.cons_append, List.cons_append, List.cons_append, List.cons_append, List.nil_append,
        decodeFrom_lead (by omega) lead, decodeFrom_middle (by omega) second,
        decodeFrom_middle (by omega) (by omega), decodeFrom_last (by omega) (by omega)]
      simp only [bits, readBack]

theorem decode_encode (text : List Char) : decode (encode text) = .ok text := by
  have fromAnywhere (index : Nat) : decodeFrom 0 0 0x80 0xBF index index (encode text) = .ok text := by
    induction text generalizing index with
    | nil => rfl
    | cons character text inductionHypothesis =>
        obtain ⟨next, decoded⟩ := decodeFrom_encodeChar character index (encode text)
        rw [encode_cons, decoded, inductionHypothesis]
        rfl
  exact fromAnywhere 0

/-! ### Order -/

theorem cons_lt_cons_iff {other : Nat} {others : List UInt8} (small : byte < 256)
    (otherSmall : other < 256) :
    UInt8.ofNat byte :: rest < UInt8.ofNat other :: others ↔
      byte < other ∨ byte = other ∧ rest < others := by
  rw [List.cons_lt_cons_iff, UInt8.ofNat_lt_iff_lt small otherSmall, ← UInt8.toNat_inj,
    toNat_ofNat small, toNat_ofNat otherSmall]

/-- A character is the sum of what its four bytes hold. -/
theorem eq_sum_digits {code : Nat} (high : code < 0x110000) :
    code = ((code / 262144 % 8 * 64 + code / 4096 % 64) * 64 + code / 64 % 64) * 64 + code % 64 := by
  omega

/-- Of two characters the smaller has the smaller bytes, whatever follows. More bytes start with a greater
one. -/
theorem Spelled.lt {code later : Nat} {bytes laterBytes : List UInt8} (spelled : Spelled code bytes)
    (laterSpelled : Spelled later laterBytes) (less : code < later) (rest others : List UInt8) :
    bytes ++ rest < laterBytes ++ others := by
  cases spelled with
  | one =>
      cases laterSpelled with
      | one => exact (cons_lt_cons_iff (by omega) (by omega)).mpr (.inl less)
      | two | three | four => exact (cons_lt_cons_iff (by omega) (by omega)).mpr (.inl (by omega))
  | two =>
      cases laterSpelled with
      | one => omega
      | two =>
          simp only [List.cons_append]
          rw [cons_lt_cons_iff (by omega) (by omega), cons_lt_cons_iff (by omega) (by omega)]
          omega
      | three | four => exact (cons_lt_cons_iff (by omega) (by omega)).mpr (.inl (by omega))
  | three =>
      cases laterSpelled with
      | one | two => omega
      | three =>
          simp only [List.cons_append]
          rw [cons_lt_cons_iff (by omega) (by omega), cons_lt_cons_iff (by omega) (by omega),
            cons_lt_cons_iff (by omega) (by omega)]
          omega
      | four => exact (cons_lt_cons_iff (by omega) (by omega)).mpr (.inl (by omega))
  | four _ high =>
      cases laterSpelled with
      | one | two | three => omega
      | four _ laterHigh =>
          simp only [List.cons_append]
          rw [cons_lt_cons_iff (by omega) (by omega), cons_lt_cons_iff (by omega) (by omega),
            cons_lt_cons_iff (by omega) (by omega), cons_lt_cons_iff (by omega) (by omega)]
          have codeSum := eq_sum_digits high
          have laterSum := eq_sum_digits laterHigh
          have small (number : Nat) : number % 64 < 64 := Nat.mod_lt _ (by decide)
          have smallSeconds := And.intro (small (code / 4096)) (small (later / 4096))
          have smallThirds := And.intro (small (code / 64)) (small (later / 64))
          have smallFourths := And.intro (small code) (small later)
          -- The sums say all about the digits; as quotients they would only be in the way.
          generalize code / 262144 % 8 = first, code / 4096 % 64 = second, code / 64 % 64 = third,
            code % 64 = fourth at *
          generalize later / 262144 % 8 = laterFirst, later / 4096 % 64 = laterSecond,
            later / 64 % 64 = laterThird, later % 64 = laterFourth at *
          omega

theorem encode_lt_encode {text later : List Char} (less : text < later) : encode text < encode later := by
  induction text generalizing later with
  | nil =>
      cases later with
      | nil => cases less
      | cons laterFirst later =>
          have spelled := spelled_encodeChar laterFirst
          rw [encode_cons]
          generalize String.utf8EncodeChar laterFirst = bytes at spelled
          cases spelled <;> exact List.nil_lt_cons _ _
  | cons first text inductionHypothesis =>
      cases later with
      | nil => cases less
      | cons laterFirst later =>
          rw [encode_cons, encode_cons]
          rcases List.cons_lt_cons_iff.mp less with firstLess | ⟨rfl, restLess⟩
          · exact (spelled_encodeChar first).lt (spelled_encodeChar laterFirst) firstLess _ _
          · exact List.append_left_lt (inductionHypothesis restLess)

end LiveConfig.Text.Utf8
