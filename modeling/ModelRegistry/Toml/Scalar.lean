import ModelRegistry.Toml.Moment
import ModelRegistry.Toml.Quoted

/-!
# The scalars of TOML

Texts, numbers, dates and times, and truth values.  What follows a scalar is never longer than what
it was read from.
-/

namespace ModelRegistry
namespace Toml

/-- What numbers, dates and times are made of. -/
def isWord (c : Char) : Bool :=
  c.isAlphanum || c = '_' || c = '-' || c = '+' || c = '.' || c = ':'

/-- The characters of a number, a date or a time, and what follows.  A date and a time may have a
blank between them. -/
def word (s : List Char) : List Char × List Char :=
  let front := s.takeWhile isWord
  let rest := s.drop front.length
  match date? front, rest with
  | some [], ' ' :: c :: r =>
    if c.isDigit then
      let time := (c :: r).takeWhile isWord
      (front ++ ' ' :: time, (c :: r).drop time.length)
    else (front, rest)
  | _, _ => (front, rest)

/-- Read a number, a date, a time or a truth value. -/
def readWord (s : List Char) : Option (Toml × List Char) :=
  let (w, rest) := word s
  if w = "true".toList then some (flag true, rest)
  else if w = "false".toList then some (flag false, rest)
  else if isMoment w then some (moment (String.ofList w), rest)
  else if isReal w then some (real (String.ofList w), rest)
  else (readInteger w).map fun n => (integer n, rest)

theorem word_le (s : List Char) : (word s).2.length ≤ s.length := by
  simp only [word]
  split
  · next c r heq =>
    have hle : (s.drop (s.takeWhile isWord).length).length ≤ s.length := by simp
    rw [heq] at hle
    simp only [List.length_cons] at hle
    split
    · simp only [List.length_drop, List.length_cons]; omega
    · simp
  · simp

theorem readWord_le {s r : List Char} {v : Toml} (h : readWord s = some (v, r)) :
    r.length ≤ s.length := by
  have hw := word_le s
  simp only [readWord] at h
  repeat' split at h
  all_goals first
    | (cases h; exact hw)
    | (obtain ⟨_, _, he⟩ := Option.map_eq_some_iff.1 h
       cases he
       exact hw)

/-- Read a scalar. -/
def readScalar (s : List Char) : Option (Toml × List Char) :=
  if s.head? = some '\x22' ∨ s.head? = some '\x27' then
    (readText s).map fun found => (text found.1, found.2)
  else readWord s

theorem readScalar_le {s r : List Char} {v : Toml} (h : readScalar s = some (v, r)) :
    r.length ≤ s.length := by
  unfold readScalar at h
  split at h
  · obtain ⟨found, hf, he⟩ := Option.map_eq_some_iff.1 h
    cases he
    exact readText_le hf
  · exact readWord_le h

end Toml
end ModelRegistry
