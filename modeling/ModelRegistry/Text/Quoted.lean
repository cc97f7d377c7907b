import ModelRegistry.Text.Hidden

/-!
# Quoted text in messages

A message that reports a text it did not expect shows it between double quotes, with the quote,
the backslash and the common control characters behind a backslash, and every hidden character by
its number in hexadecimal.
-/

namespace ModelRegistry
namespace Text

/-- Lower-case hexadecimal digits without leading zeros. -/
def hexDigits (n : Nat) : List Char := Nat.toDigits 16 n

/-- One character inside the quotes. -/
def quotedChar (c : Char) : List Char :=
  match c.toNat with
  | 0x00 => ['\\', '0']
  | 0x09 => ['\\', 't']
  | 0x0A => ['\\', 'n']
  | 0x0D => ['\\', 'r']
  | 0x22 => ['\\', '\x22']
  | 0x5C => ['\\', '\\']
  | n => if isHidden c then ['\\', 'u', '\x7b'] ++ hexDigits n ++ ['\x7d'] else [c]

/-- The text between double quotes. -/
def quoted (s : String) : String :=
  String.ofList ('\x22' :: (s.toList.flatMap quotedChar ++ ['\x22']))

end Text
end ModelRegistry
