import ModelRegistry.Toml.Numeral

/-!
# Dates and times in TOML

A moment is a date, a time of day, or both, then perhaps with the distance from universal time.
Only whether it is well formed matters.
-/

namespace ModelRegistry
namespace Toml

/-- A number of exactly two digits within bounds, and what follows. -/
def two? (low high : Nat) : List Char → Option (Nat × List Char)
  | a :: b :: r => do
    let n ← digits? 10 [a, b]
    if low ≤ n ∧ n ≤ high then pure (n, r) else none
  | _ => none

/-- How many days a month has. -/
def daysIn (year month : Nat) : Nat :=
  if month = 2 then
    if year % 4 = 0 ∧ (year % 100 ≠ 0 ∨ year % 400 = 0) then 29 else 28
  else if month ∈ [4, 6, 9, 11] then 30
  else 31

/-- What follows a date. -/
def date? (s : List Char) : Option (List Char) := do
  if (s.take 4).length < 4 then none
  let year ← digits? 10 (s.take 4)
  match s.drop 4 with
  | '-' :: r =>
    let (month, r) ← two? 1 12 r
    match r with
    | '-' :: r =>
      let (day, r) ← two? 1 31 r
      if day ≤ daysIn year month then pure r else none
    | _ => none
  | _ => none

/-- What follows a time of day. -/
def time? (s : List Char) : Option (List Char) := do
  let (_, r) ← two? 0 23 s
  match r with
  | ':' :: r =>
    let (_, r) ← two? 0 59 r
    match r with
    | ':' :: r =>
      let (_, r) ← two? 0 60 r
      match r with
      | '.' :: r =>
        let fraction := r.takeWhile Char.isDigit
        if fraction = [] then none else pure (r.drop fraction.length)
      | r => pure r
    | _ => none
  | _ => none

/-- Whether the characters spell the distance from universal time. -/
def isOffset (s : List Char) : Bool :=
  match s with
  | [c] => c = 'Z' || c = 'z'
  | c :: r =>
    (c = '+' || c = '-') &&
      (match two? 0 23 r with
        | some (_, ':' :: r) => (two? 0 59 r).any fun m => m.2 = []
        | _ => false)
  | [] => true

/-- Whether the characters spell a date, a time of day or both. -/
def isMoment (s : List Char) : Bool :=
  match date? s with
  | some [] => true
  | some (c :: r) =>
    (c = 'T' || c = 't' || c = ' ') &&
      (match time? r with
        | some r => isOffset r
        | none => false)
  | none => time? s = some []

end Toml
end ModelRegistry
