import ModelRegistry.Text.Bytes

/-!
# Bytes shown as text

Paths and settings are bytes, and a message has to show them.  Where bytes are the UTF-8 form of a
text, the text is shown.  Elsewhere each longest run that begins a character but does not finish
it, or a byte that begins none, is shown as one replacement character.
-/

namespace ModelRegistry
namespace Text

/-- Between which bounds the bytes after the first byte of a character lie; none when the byte
begins no character. -/
def continuation (first : UInt8) : Option (List (UInt8 × UInt8)) :=
  if first < 0x80 then some []
  else if 0xC2 ≤ first ∧ first ≤ 0xDF then some [(0x80, 0xBF)]
  else if first = 0xE0 then some [(0xA0, 0xBF), (0x80, 0xBF)]
  else if first = 0xED then some [(0x80, 0x9F), (0x80, 0xBF)]
  else if 0xE1 ≤ first ∧ first ≤ 0xEF then some [(0x80, 0xBF), (0x80, 0xBF)]
  else if first = 0xF0 then some [(0x90, 0xBF), (0x80, 0xBF), (0x80, 0xBF)]
  else if first = 0xF4 then some [(0x80, 0x8F), (0x80, 0xBF), (0x80, 0xBF)]
  else if 0xF1 ≤ first ∧ first ≤ 0xF3 then some [(0x80, 0xBF), (0x80, 0xBF), (0x80, 0xBF)]
  else none

/-- How many bytes lie between the bounds, one by one, and whether all the bounds were met. -/
def fitting : List (UInt8 × UInt8) → Bytes → Nat × Bool
  | [], _ => (0, true)
  | _ :: _, [] => (0, false)
  | (low, high) :: bounds, b :: bs =>
    if low ≤ b ∧ b ≤ high then
      let (n, whole) := fitting bounds bs
      (n + 1, whole)
    else (0, false)

/-- The replacement character, in UTF-8. -/
def replacement : Bytes := [0xEF, 0xBF, 0xBD]

/-- The bytes with every broken run replaced. -/
def mend : Bytes → Bytes
  | [] => []
  | b :: bs =>
    match continuation b with
    | none => replacement ++ mend bs
    | some bounds =>
      let (n, whole) := fitting bounds bs
      if whole then b :: (bs.take n ++ mend (bs.drop n)) else replacement ++ mend (bs.drop n)
  termination_by s => s.length
  decreasing_by all_goals simp only [List.length_cons, List.length_drop]; omega

/-- The bytes as text. -/
def shown (bs : Bytes) : String :=
  match ofBytes? bs with
  | some s => s
  | none => (ofBytes? (mend bs)).getD ""

@[simp] theorem shown_bytes (s : String) : shown (bytes s) = s := by
  simp [shown, ofBytes?_bytes]

end Text
end ModelRegistry
