/-!
# Double-precision numbers as exact fractions

A number written with a point or an exponent is held as the double that reading it produces.
Only its text can ever be seen, in the message about a value of the wrong type, so the module
keeps doubles as exact pairs `significand * 2 ^ exponent` and computes with them in `Nat`: every
operation is one correctly rounded step on an exact fraction, a tie going to the even significand.

`ofDecimal` is the reading rule for `digits * 10 ^ exponent`.  It scales the rounded digits by one
rounded power of ten, in chunks of 308 when the exponent is beyond the table, so it is a rule of
its own and not always the nearest double to the decimal.
-/

namespace ModelRegistry

/-- A nonnegative finite double `significand * 2 ^ exponent`. -/
structure Binary64 where
  significand : Nat
  exponent : Int
  deriving DecidableEq, Repr

namespace Binary64

/-- The smallest exponent: that of the subnormal numbers. -/
def leastExponent : Int := -1074

/-- The exponent of the largest finite numbers. -/
def greatestExponent : Int := 971

/-- The least significand above the least exponent: significands have 53 binary digits. -/
def leastSignificand : Nat := 0x10000000000000

def zero : Binary64 := ⟨0, leastExponent⟩

/-- The value as a fraction: its numerator. -/
def numerator (x : Binary64) : Nat := x.significand * Nat.pow 2 x.exponent.toNat

/-- The value as a fraction: its denominator, a power of two. -/
def denominator (x : Binary64) : Nat := Nat.pow 2 (-x.exponent).toNat

/-- The quotient rounded to the nearest integer, a tie to the even one. -/
def roundDiv (num den : Nat) : Nat :=
  let q := num / den
  let r := num % den
  if 2 * r < den then q
  else if den < 2 * r then q + 1
  else if q % 2 = 0 then q else q + 1

/-- `num / den / 2 ^ e` rounded to an integer. -/
def scaledQuotient (num den : Nat) (e : Int) : Nat :=
  roundDiv (num * Nat.pow 2 (-e).toNat) (den * Nat.pow 2 e.toNat)

/-- The greatest `e` with `2 ^ (e + 52) ≤ num / den`, and no less than the least exponent. -/
def exponentOf (num den : Nat) : Int :=
  let guess : Int := (num.log2 : Int) - den.log2 - 52
  let fits :=
    den * Nat.pow 2 (guess + 52).toNat ≤ num * Nat.pow 2 (-(guess + 52)).toNat
  max leastExponent (if fits then guess else guess - 1)

/-- The double nearest to a fraction; none when the fraction is too large for any. -/
def ofFraction? (num den : Nat) : Option Binary64 :=
  if num = 0 then some zero
  else
    let e := exponentOf num den
    let q := scaledQuotient num den e
    let x : Binary64 := if q = 2 * leastSignificand then ⟨leastSignificand, e + 1⟩ else ⟨q, e⟩
    if greatestExponent < x.exponent then none
    else if x.significand = 0 then some zero
    else some x

def ofNat? (n : Nat) : Option Binary64 := ofFraction? n 1

def mul? (x y : Binary64) : Option Binary64 :=
  ofFraction? (x.numerator * y.numerator) (x.denominator * y.denominator)

/-- The quotient; `y` is not zero. -/
def div? (x y : Binary64) : Option Binary64 :=
  ofFraction? (x.numerator * y.denominator) (x.denominator * y.numerator)

/-- The largest power of ten that is held as one double. -/
def tableEnd : Nat := 308

/-- `10 ^ k` as a double, for `k` up to `tableEnd`. -/
def powerOfTen (k : Nat) : Binary64 := (ofNat? (Nat.pow 10 k)).getD zero

/-- Scale down by `10 ^ k`, at most `tableEnd` places at a time, until nothing is left. -/
def shrink (x : Binary64) (k : Nat) : Binary64 :=
  if k ≤ tableEnd then (div? x (powerOfTen k)).getD zero
  else if x.significand = 0 then zero
  else shrink ((div? x (powerOfTen tableEnd)).getD zero) (k - tableEnd)
termination_by k
decreasing_by simp [tableEnd] at *; omega

/-- The double for `digits * 10 ^ exponent`; none when it is out of range. -/
def ofDecimal (digits : Nat) (exponent : Int) : Option Binary64 :=
  match ofNat? digits with
  | none => none
  | some x =>
    if exponent < 0 then some (shrink x exponent.natAbs)
    else if exponent.natAbs ≤ tableEnd then mul? x (powerOfTen exponent.natAbs)
    else if x.significand = 0 then some zero
    else none

end Binary64

end ModelRegistry
