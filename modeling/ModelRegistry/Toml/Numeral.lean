import ModelRegistry.Toml.Basic

/-!
# Numbers in TOML

Integers in four bases, and decimal numbers with a fraction or an exponent.  Single underscores may
stand between digits.  An integer has 64 bits; of the other numbers only their spelling is kept, but
one that is too large for a double is refused.
-/

namespace ModelRegistry
namespace Toml

/-! ## Digits -/

/-- A digit of the given base. -/
def digit? (base : Nat) (c : Char) : Option Nat :=
  let n := c.toNat
  let value? : Option Nat :=
    if '0'.toNat ≤ n ∧ n ≤ '9'.toNat then some (n - '0'.toNat)
    else if 'a'.toNat ≤ n ∧ n ≤ 'f'.toNat then some (n - 'a'.toNat + 10)
    else if 'A'.toNat ≤ n ∧ n ≤ 'F'.toNat then some (n - 'A'.toNat + 10)
    else none
  value?.filter (· < base)

/-- The number that digits spell, if there are only digits. -/
def digits? (base : Nat) (cs : List Char) : Option Nat :=
  cs.foldl (fun n c => do pure ((← n) * base + (← digit? base c))) (some 0)

/-- Digits with single underscores between them; the digits alone, behind those in `seen`, which is
reversed. -/
def grouped (base : Nat) (seen : List Char) : List Char → Option (List Char)
  | [] => none
  | [c] => (digit? base c).map fun _ => (c :: seen).reverse
  | c :: '_' :: r => if (digit? base c).isSome then grouped base (c :: seen) r else none
  | c :: r => if (digit? base c).isSome then grouped base (c :: seen) r else none

/-- Digits without the zeros in front. -/
def significant (cs : List Char) : List Char := cs.dropWhile (· = '0')

/-- The number that digits spell, up to 64 binary digits. -/
def word64? (base : Nat) (cs : List Char) : Option Nat :=
  if 64 < (significant cs).length then none else digits? base (significant cs)

/-! ## Integers -/

/-- A sign, if there is one, and what follows. -/
def signed : List Char → Bool × List Char
  | '-' :: r => (true, r)
  | '+' :: r => (false, r)
  | r => (false, r)

/-- The digits of a decimal integer, which has no leading zero. -/
def decimal (s : List Char) : Option (List Char) := do
  let ds ← grouped 10 [] s
  match ds with
  | '0' :: _ :: _ => none
  | _ => pure ds

/-- Integers have 64 bits. -/
def integerOf (negative : Bool) (n : Nat) : Option Int :=
  if negative then (if n ≤ 0x8000000000000000 then some (-(n : Int)) else none)
  else if n < 0x8000000000000000 then some n
  else none

/-- An integer. -/
def readInteger (s : List Char) : Option Int :=
  match s with
  | '0' :: 'x' :: r => ((grouped 16 [] r).bind (word64? 16)).bind (integerOf false)
  | '0' :: 'o' :: r => ((grouped 8 [] r).bind (word64? 8)).bind (integerOf false)
  | '0' :: 'b' :: r => ((grouped 2 [] r).bind (word64? 2)).bind (integerOf false)
  | _ =>
    let (negative, r) := signed s
    ((decimal r).bind (word64? 10)).bind (integerOf negative)

/-! ## Other numbers -/

/-- What is too large for a double: half a unit above the largest one, a number of 309 digits. -/
def tooLarge : Nat := Nat.pow 2 1024 - Nat.pow 2 970

/-- Whether `0.digits * 10 ^ (digits.length + exponent)`, with digits that do not begin with a zero,
is too large for a double.  The number has as many digits before its point as the power says, and
only those of 309 have to be looked at. -/
def overflows (digits : List Char) (exponent : Int) : Bool :=
  let size := digits.length + exponent
  if digits = [] ∨ size < 309 then false
  else if 309 < size then true
  else
    let front := (digits? 10 (digits.take 309)).getD 0
    tooLarge ≤ front * Nat.pow 10 (309 - digits.length)

/-- The exponent of a number, after its letter.  Digits beyond the one that takes it to 65536 do not
count. -/
def exponent? (s : List Char) : Option Int :=
  let (negative, r) := signed s
  (grouped 10 [] r).map fun ds =>
    let n := ds.foldl (fun n c => if n < 0x10000 then n * 10 + (c.toNat - '0'.toNat) else n) 0
    if negative then -(n : Int) else n

/-- Cut before the first character that satisfies a test. -/
def cutWhere (p : Char → Bool) (s : List Char) : List Char × List Char :=
  (s.takeWhile fun c => !p c, s.dropWhile fun c => !p c)

/-- Whether the characters spell a number with a fraction or an exponent, or one that is none. -/
def isReal (s : List Char) : Bool :=
  let (negative, r) := signed s
  if r = ['i', 'n', 'f'] ∨ r = ['n', 'a', 'n'] then true
  else
    let (front, power) := cutWhere (fun c => c = 'e' || c = 'E') r
    let (whole, fraction) := cutWhere (· = '.') front
    if power = [] ∧ fraction = [] then false
    else
      let parts : Option (List Char × Int) := do
        let w ← decimal whole
        let f ← if fraction = [] then some [] else grouped 10 [] fraction.tail
        let e ← if power = [] then some 0 else exponent? power.tail
        pure (significant (w ++ f), e - f.length)
      match parts with
      | none => false
      | some (ds, e) => negative || !overflows ds e

end Toml
end ModelRegistry
