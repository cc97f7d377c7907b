import ModelRegistry.Json.Fault

/-!
# Reading texts, numbers and words

The lexical part of the JSON grammar, over the bytes of a document.  Every function takes the
unread bytes and returns what it read and what is left, or the first fault.

A value that nobody asked for is skipped under looser rules: its texts are not checked for being
text, its numbers have no range, and a number that the document's end cuts off counts as a wrong
number and not as an early end.  `skipText` and the parameter `cut` of `numberParts` carry this
difference.  A control character in such a text is noticed before it is read, elsewhere after.
-/

namespace ModelRegistry
namespace Json

/-- A fault noticed with these bytes unread. -/
def stop {α : Type} (fault : Fault) (rest : Bytes) : Except Failure α :=
  .error ⟨fault, .settled rest.length⟩

/-- A fault of the next byte, which counts as read in the report. -/
def stopAt {α : Type} (fault : Fault) (s : Bytes) : Except Failure α :=
  .error ⟨fault, .settled (s.length - 1)⟩

/-- A fault of the shape noticed between two tokens. -/
def refuse {α : Type} (fault : Fault) (rest : Bytes) : Except Failure α :=
  .error ⟨fault, .pending rest.length⟩

/-! ## Blanks and words -/

/-- Space, line feed, carriage return and tab may stand between any two tokens. -/
def isBlank (b : UInt8) : Bool := b = 0x20 || b = 0x0A || b = 0x0D || b = 0x09

def skipBlank : Bytes → Bytes
  | [] => []
  | b :: r => if isBlank b then skipBlank r else b :: r

/-- The given letters, after the first letter of a word has been read. -/
def word : Bytes → Bytes → Except Failure Bytes
  | [], s => .ok s
  | _ :: _, [] => stop .endInValue []
  | e :: es, b :: r => if b = e then word es r else stop .expectedWord r

/-- How much is unread when an object has looked for its end: a brace is read. -/
def objectEnd (s : Bytes) : Nat :=
  match skipBlank s with
  | [] => 0
  | b :: r => if b = 0x7D then r.length else (b :: r).length

/-- How much is unread when an array has looked for its end: a bracket is read, and so are a comma
and the blanks after it. -/
def arrayEnd (s : Bytes) : Nat :=
  match skipBlank s with
  | [] => 0
  | b :: r =>
    if b = 0x5D then r.length else if b = 0x2C then (skipBlank r).length else (b :: r).length

/-- The failure as the array or object passes it on that looks for its end with `close`; its value
was read from `s`. -/
def Failure.settle (close : Bytes → Nat) (s : Bytes) (f : Failure) : Failure :=
  match f.place with
  | .settled _ => f
  | .pending unread => { f with place := .settled (close (s.drop (s.length - unread))) }

/-! ## Texts -/

/-- The value of a hexadecimal digit. -/
def hexValue (b : UInt8) : Option Nat :=
  if 0x30 ≤ b ∧ b ≤ 0x39 then some (b.toNat - 0x30)
  else if 0x41 ≤ b ∧ b ≤ 0x46 then some (b.toNat - 0x41 + 10)
  else if 0x61 ≤ b ∧ b ≤ 0x66 then some (b.toNat - 0x61 + 10)
  else none

/-- The code unit that four hexadecimal digits stand for. -/
def codeUnit (a b c d : UInt8) : Option Nat :=
  match hexValue a, hexValue b, hexValue c, hexValue d with
  | some a, some b, some c, some d => some (((a * 16 + b) * 16 + c) * 16 + d)
  | _, _, _, _ => none

def isHighSurrogate (n : Nat) : Bool := 0xD800 ≤ n && n ≤ 0xDBFF

def isLowSurrogate (n : Nat) : Bool := 0xDC00 ≤ n && n ≤ 0xDFFF

/-- The byte that a letter behind a backslash stands for. -/
def escaped (b : UInt8) : Option UInt8 :=
  if b = 0x22 ∨ b = 0x5C ∨ b = 0x2F then some b
  else if b = 0x62 then some 0x08
  else if b = 0x66 then some 0x0C
  else if b = 0x6E then some 0x0A
  else if b = 0x72 then some 0x0D
  else if b = 0x74 then some 0x09
  else none

/-- The UTF-8 form of a code point. -/
def encodePoint (n : Nat) : Bytes := String.utf8EncodeChar (Char.ofNat n)

/-- The bytes of a text up to its closing quote, which is read too.  `seen` holds, in reverse, the
bytes so far. -/
def textBody (seen : Bytes) : Bytes → Except Failure (Bytes × Bytes)
  | [] => stop .endInText []
  | b :: r =>
    if b = 0x22 then .ok (seen.reverse, r)
    else if b = 0x5C then
      match r with
      | [] => stop .endInText []
      | e :: r =>
        if e = 0x75 then
          match r with
          | a1 :: a2 :: a3 :: a4 :: r =>
            match codeUnit a1 a2 a3 a4 with
            | none => stop .badEscape r
            | some n =>
              if isLowSurrogate n then stop .loneSurrogate r
              else if isHighSurrogate n then
                match r with
                | [] => stop .endInText []
                | s :: r =>
                  if s = 0x5C then
                    match r with
                    | [] => stop .endInText []
                    | u :: r =>
                      if u = 0x75 then
                        match r with
                        | b1 :: b2 :: b3 :: b4 :: r =>
                          match codeUnit b1 b2 b3 b4 with
                          | none => stop .badEscape r
                          | some m =>
                            if isLowSurrogate m then
                              let point := 0x10000 + (n - 0xD800) * 0x400 + (m - 0xDC00)
                              textBody ((encodePoint point).reverse ++ seen) r
                            else stop .loneSurrogate r
                        | _ => stop .endInText []
                      else stop .unfinishedSurrogate r
                  else stop .unfinishedSurrogate r
              else textBody ((encodePoint n).reverse ++ seen) r
          | _ => stop .endInText []
        else
          match escaped e with
          | some x => textBody (x :: seen) r
          | none => stop .badEscape r
    else if b < 0x20 then stop .controlCharacter r
    else textBody (b :: seen) r

/-- A text after its opening quote.  That the bytes are text is checked at the closing quote. -/
def textValue (s : Bytes) : Except Failure (String × Bytes) :=
  match textBody [] s with
  | .error e => .error e
  | .ok (bs, r) =>
    match Text.ofBytes? bs with
    | some t => .ok (t, r)
    | none => stop .badText r

/-- Pass over a text after its opening quote. -/
def skipText : Bytes → Except Failure Bytes
  | [] => stop .endInText []
  | b :: r =>
    if b = 0x22 then .ok r
    else if b = 0x5C then
      match r with
      | [] => stop .endInText []
      | e :: r =>
        if e = 0x75 then
          match r with
          | a1 :: a2 :: a3 :: a4 :: r =>
            match codeUnit a1 a2 a3 a4 with
            | none => stop .badEscape r
            | some _ => skipText r
          | _ => stop .endInText []
        else
          match escaped e with
          | some _ => skipText r
          | none => stop .badEscape r
    else if b < 0x20 then stop .controlCharacter (b :: r)
    else skipText r

/-! ## Numbers -/

def isDigit (b : UInt8) : Bool := 0x30 ≤ b && b ≤ 0x39

def digitValue (b : UInt8) : Nat := b.toNat - 0x30

/-- A number as it is written: its sign, the digits before and after the point, and the sign and
digits of the exponent. -/
structure Numeral where
  negative : Bool
  whole : List Nat
  fraction : Option (List Nat)
  exponent : Option (Bool × List Nat)

/-- The digits at the front and what follows them. -/
def digitRun (s : Bytes) : List Nat × Bytes :=
  ((s.takeWhile isDigit).map digitValue, s.dropWhile isDigit)

/-- The digits before the point: no zero in front of another digit. -/
def wholePart (cut : Fault) (s : Bytes) : Except Failure (List Nat × Bytes) :=
  match s with
  | [] => stop cut []
  | b :: r =>
    if b = 0x30 then
      match r with
      | d :: _ => if isDigit d then stopAt .badNumber r else .ok ([0], r)
      | [] => .ok ([0], r)
    else if isDigit b then .ok (digitRun s)
    else stop .badNumber r

/-- The point and at least one digit, if a point comes next. -/
def fractionPart (cut : Fault) (s : Bytes) : Except Failure (Option (List Nat) × Bytes) :=
  match s with
  | b :: r =>
    if b = 0x2E then
      match r with
      | [] => stop cut []
      | d :: _ =>
        if isDigit d then
          .ok (some (digitRun r).1, (digitRun r).2)
        else stopAt .badNumber r
    else .ok (none, s)
  | [] => .ok (none, s)

/-- Whether an exponent is negative, and what follows its sign. -/
def exponentSign : Bytes → Bool × Bytes
  | [] => (false, [])
  | b :: r => if b = 0x2B then (false, r) else if b = 0x2D then (true, r) else (false, b :: r)

/-- The mark, sign and digits of an exponent, if the mark comes next. -/
def exponentPart (cut : Fault) (s : Bytes) : Except Failure (Option (Bool × List Nat) × Bytes) :=
  match s with
  | b :: r =>
    if b = 0x65 ∨ b = 0x45 then
      match (exponentSign r).2 with
      | [] => stop cut []
      | d :: t =>
        if isDigit d then
          .ok (some ((exponentSign r).1, (digitRun (d :: t)).1), (digitRun (d :: t)).2)
        else stop .badNumber t
    else .ok (none, s)
  | [] => .ok (none, s)

/-- A number after its sign.  `cut` is the fault of a number that the document's end cuts off. -/
def numberParts (cut : Fault) (negative : Bool) (s : Bytes) : Except Failure (Numeral × Bytes) :=
  match wholePart cut s with
  | .error e => .error e
  | .ok (whole, r) =>
    match fractionPart cut r with
    | .error e => .error e
    | .ok (fraction, r) =>
      match exponentPart cut r with
      | .error e => .error e
      | .ok (exponent, r) => .ok (⟨negative, whole, fraction, exponent⟩, r)

namespace Numeral

/-- The greatest number kept digit by digit. -/
def greatestExact : Nat := UInt64.size - 1

/-- The greatest exponent that is computed with. -/
def greatestExponent : Nat := 0x7FFFFFFF

/-- Append digits to a number while it stays exact; the second part is the digits left over. -/
def absorb (n : Nat) : List Nat → Nat × List Nat
  | [] => (n, [])
  | d :: ds => if n * 10 + d ≤ greatestExact then absorb (n * 10 + d) ds else (n, d :: ds)

/-- Append digits to a number until it is beyond what is computed with; the second part is the
digits that are then not looked at. -/
def exponentFrom (n : Nat) : List Nat → Nat × List Nat
  | [] => (n, [])
  | d :: ds =>
    if greatestExponent < n * 10 + d then (n * 10 + d, ds) else exponentFrom (n * 10 + d) ds

/-- An integer that was written without point and exponent and kept exactly. -/
def integer (negative : Bool) (n : Nat) : Number :=
  if negative then
    if n = 0 ∨ 0x8000000000000000 < n then .real true ((Binary64.ofNat? n).getD .zero)
    else .integer (-n)
  else .integer n

/-- The value; none when it is beyond the doubles.  Digits of the whole part that are left over
raise the exponent, left-over digits of the fraction are dropped. -/
def value? (x : Numeral) : Option Number :=
  let (n, surplus) := absorb 0 x.whole
  if x.fraction.isNone && x.exponent.isNone && surplus.isEmpty then some (integer x.negative n)
  else
    let places := x.fraction.getD []
    let (n, dropped) := absorb n places
    let start : Int := (surplus.length : Int) - ((places.length : Int) - dropped.length)
    let real (e : Int) := (Binary64.ofDecimal n e).map (Number.real x.negative)
    match x.exponent with
    | none => real start
    | some (negative, ds) =>
      let e := (exponentFrom 0 ds).1
      if greatestExponent < e then
        if n ≠ 0 ∧ ¬ negative then none else some (.real x.negative .zero)
      else real (if negative then start - e else start + e)

/-- The digits of the exponent that are not looked at. -/
def ignored (x : Numeral) : List Nat :=
  match x.exponent with
  | none => []
  | some (_, ds) => (exponentFrom 0 ds).2

end Numeral

/-- A number after its sign. -/
def numberValue (negative : Bool) (s : Bytes) : Except Failure (Number × Bytes) :=
  match numberParts .endInValue negative s with
  | .error e => .error e
  | .ok (x, r) =>
    match x.value? with
    | some n => .ok (n, r)
    | none => .error ⟨.numberOutOfRange, .settled (x.ignored.length + r.length)⟩

/-! ## What begins here -/

/-- Read a scalar, or notice that an array or object begins.  The document stands at the value. -/
def foundAt (s : Bytes) : Except Failure (Found × Bytes) :=
  match s with
  | [] => stop .endInValue []
  | b :: r =>
    if b = 0x6E then (word [0x75, 0x6C, 0x6C] r).map fun r => (.null, r)
    else if b = 0x74 then (word [0x72, 0x75, 0x65] r).map fun r => (.flag true, r)
    else if b = 0x66 then (word [0x61, 0x6C, 0x73, 0x65] r).map fun r => (.flag false, r)
    else if b = 0x2D then (numberValue true r).map fun (n, r) => (.number n, r)
    else if isDigit b then (numberValue false s).map fun (n, r) => (.number n, r)
    else if b = 0x22 then (textValue r).map fun (t, r) => (.text t, r)
    else if b = 0x5B then .ok (.array, s)
    else if b = 0x7B then .ok (.object, s)
    else stopAt .expectedValue s

/-- Pass over a scalar, under the rules for values nobody asked for. -/
def skipScalar (s : Bytes) : Except Failure Bytes :=
  match s with
  | [] => stop .endInValue []
  | b :: r =>
    if b = 0x6E then word [0x75, 0x6C, 0x6C] r
    else if b = 0x74 then word [0x72, 0x75, 0x65] r
    else if b = 0x66 then word [0x61, 0x6C, 0x73, 0x65] r
    else if b = 0x2D then (numberParts .badNumber true r).map (·.2)
    else if isDigit b then (numberParts .badNumber false s).map (·.2)
    else if b = 0x22 then skipText r
    else stopAt .expectedValue s

end Json
end ModelRegistry
