import LiveConfig.Text.Showable

/-!
Contract: texts between double quotes, as diagnostics show them.

Quotes, backslashes and the common control characters are escaped by a letter, other characters that
cannot be shown by their code.
-/

namespace LiveConfig.Text

/-- The lower-case hexadecimal digits of a code. -/
def hexDigits (code : Nat) : List Char :=
  Nat.toDigits 16 code

/-- A character as it stands between quotes. -/
def quotedCharacter (character : Char) : List Char :=
  match character with
  | '"' => ['\\', '"']
  | '\\' => ['\\', '\\']
  | '\n' => ['\\', 'n']
  | '\r' => ['\\', 'r']
  | '\t' => ['\\', 't']
  | '\x00' => ['\\', '0']
  | _ =>
      if isShowable character then [character]
      else ['\\', 'u', '\x7b'] ++ hexDigits character.toNat ++ ['\x7d']

/-- A text between quotes. -/
def quoted (text : String) : String :=
  .ofList ('"' :: text.toList.flatMap quotedCharacter ++ ['"'])

end LiveConfig.Text
