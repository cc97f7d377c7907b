import ModelRegistry.Decimal.Binary64

/-!
# The shortest decimal of a double

`shortest` finds the fewest decimal digits that read back as a given double, and of those the ones
nearest to it.  A grid of `n` digits has a point inside the double's rounding interval exactly when
one of the two grid points next to the double lies there, so only two candidates are tried for each
`n`, all in exact arithmetic.

`text` lays the digits out: positional from `0.00001` up to sixteen digits before the point, with
`.0` for a whole number, and otherwise with an exponent, whose sign is always written.
-/

namespace ModelRegistry
namespace Binary64

/-- The half-way points to the two neighbours, as numerators over `4 * denominator`, together with
the number itself. -/
structure Interval where
  low : Nat
  value : Nat
  high : Nat
  denominator : Nat
  /-- Whether the half-way points themselves round to the number. -/
  closed : Bool

/-- What rounds to `x`.  Below a power of two the neighbours lie half as far apart. -/
def interval (x : Binary64) : Interval :=
  let unit := Nat.pow 2 x.exponent.toNat
  let below := if x.significand = leastSignificand ∧ leastExponent < x.exponent then 1 else 2
  { low := (4 * x.significand - below) * unit
    value := 4 * x.significand * unit
    high := (4 * x.significand + 2) * unit
    denominator := 4 * x.denominator
    closed := x.significand % 2 = 0 }

/-- Whether `c * 10 ^ k` lies in the interval. -/
def Interval.holds (i : Interval) (c : Nat) (k : Int) : Bool :=
  let left := c * Nat.pow 10 k.toNat * i.denominator
  let scale := Nat.pow 10 (-k).toNat
  if i.closed then i.low * scale ≤ left && left ≤ i.high * scale
  else i.low * scale < left && left < i.high * scale

/-- The integer part of the value in units of `10 ^ k`, and whether the next integer is nearer. -/
def Interval.inUnits (i : Interval) (k : Int) : Nat × Bool :=
  let num := i.value * Nat.pow 10 (-k).toNat
  let den := i.denominator * Nat.pow 10 k.toNat
  let c := num / den
  let r := num % den
  (c, den < 2 * r || (2 * r = den && c % 2 = 1))

/-- The place of the value's first digit: the least `k` with `value < 10 ^ k`, by trial upwards. -/
def Interval.magnitude (i : Interval) : Nat → Int → Int
  | 0, k => k
  | fuel + 1, k =>
    if i.value * Nat.pow 10 (-k).toNat < i.denominator * Nat.pow 10 k.toNat then k
    else i.magnitude fuel (k + 1)

/-- A grid point of `n` digits inside the interval, the nearer of two. -/
def Interval.onGrid (i : Interval) (place : Int) (n : Nat) : Option (Nat × Int) :=
  let k := place - n
  let (c, up) := i.inUnits k
  let near := if up then c + 1 else c
  let far := if up then c else c + 1
  if i.holds near k then some (near, k)
  else if i.holds far k then some (far, k)
  else none

/-- Drop zeros at the end of the digits. -/
def trimZeros : Nat → Nat → Int → Nat × Int
  | 0, c, k => (c, k)
  | fuel + 1, c, k => if c ≠ 0 ∧ c % 10 = 0 then trimZeros fuel (c / 10) (k + 1) else (c, k)

/-- Digits and exponent of the shortest decimal of a nonzero double. -/
def shortest (x : Binary64) : Nat × Int :=
  let i := x.interval
  let place := i.magnitude 640 (-324)
  match (List.range 17).findSome? fun n => i.onGrid place (n + 1) with
  | some (c, k) => trimZeros 20 c k
  | none => (x.significand, 0)

/-- Decimal digits of a natural number. -/
def digits (n : Nat) : List Char := Nat.toDigits 10 n

/-- The text of `c * 10 ^ k` for nonzero `c`. -/
def layout (c : Nat) (k : Int) : List Char :=
  let ds := digits c
  let point := ds.length + k
  if 0 ≤ k ∧ point ≤ 16 then ds ++ List.replicate k.toNat '0' ++ ['.', '0']
  else if 0 < point ∧ point ≤ 16 then ds.take point.toNat ++ '.' :: ds.drop point.toNat
  else if -5 < point ∧ point ≤ 0 then
    ['0', '.'] ++ List.replicate (-point).toNat '0' ++ ds
  else
    let e := point - 1
    let mantissa := if ds.length = 1 then ds else ds.take 1 ++ '.' :: ds.drop 1
    let sign := if e < 0 then '-' else '+'
    mantissa ++ 'e' :: sign :: digits e.natAbs

/-- The text of a double. -/
def text (negative : Bool) (x : Binary64) : String :=
  let body :=
    if x.significand = 0 then ['0', '.', '0']
    else let (c, k) := x.shortest; layout c k
  String.ofList (if negative then '-' :: body else body)

end Binary64
end ModelRegistry
