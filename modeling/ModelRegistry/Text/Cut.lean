import ModelRegistry.Text.Bytes

/-!
# Cutting texts

A text is cut at the first occurrence of a marker, which belongs to neither part, at every
occurrence of a character, or after a number of bytes, which must not end within a character.
-/

namespace ModelRegistry
namespace Text

/-- What is before and after the first occurrence of a marker. -/
def cutChars (marker : List Char) : List Char → Option (List Char × List Char)
  | [] => if marker = [] then some ([], []) else none
  | c :: cs =>
    if marker.isPrefixOf (c :: cs) then some ([], (c :: cs).drop marker.length)
    else (cutChars marker cs).map fun parts => (c :: parts.1, parts.2)

/-- What is before and after the first occurrence of a marker, if it occurs. -/
def cut? (marker s : String) : Option (String × String) :=
  (cutChars marker.toList s.toList).map fun parts => (String.ofList parts.1, String.ofList parts.2)

/-- The parts between the occurrences of a character or a byte. -/
def cutAt {α : Type} [DecidableEq α] (c : α) (s : List α) : List (List α) :=
  s.foldr
    (fun d parts =>
      if d = c then [] :: parts
      else
        match parts with
        | [] => [[d]]
        | part :: parts => (d :: part) :: parts)
    [[]]

theorem cutAt_ne_nil {α : Type} [DecidableEq α] (c : α) (s : List α) : cutAt c s ≠ [] := by
  cases s with
  | nil => simp [cutAt]
  | cons d s =>
    simp only [cutAt, List.foldr_cons]
    split
    · simp
    · split <;> simp

/-! ## Bytes -/

/-- The number of bytes of a text. -/
def byteCount (s : List Char) : Nat := s.foldl (fun n c => n + c.utf8Size) 0

/-- How many characters the first bytes of a text hold, besides those counted before.  There is no
answer when the bytes end within a character or go beyond the text. -/
def charsIn (count : Nat) : Nat → List Char → Option Nat
  | 0, _ => some count
  | _ + 1, [] => none
  | n + 1, c :: r => if c.utf8Size ≤ n + 1 then charsIn (count + 1) (n + 1 - c.utf8Size) r else none

/-- The first bytes of a text. -/
def takeBytes? (n : Nat) (s : List Char) : Option (List Char) :=
  (charsIn 0 n s).map s.take

/-- What follows the first bytes of a text. -/
def dropBytes? (n : Nat) (s : List Char) : Option (List Char) :=
  (charsIn 0 n s).map s.drop

end Text
end ModelRegistry
