import ModelRegistry.Json.Printer
import ModelRegistry.Json.Scalar
import ModelRegistry.Proofs.Text.Utf8

/-!
# The grammar of JSON

`Written j s` says that the bytes `s` are one way of writing the value `j`.  A value has many:
blanks may stand around every token, a character of a text may stand for itself or be escaped in one
of three forms, and a number may have a fraction and an exponent.  No reader is mentioned here, so
that what a reader does can be said of every way of writing.

Two limits of a document are part of its tree.  A number has to have a value (`Numeral.value?`), and
a code unit that is a surrogate has to be one half of a pair, since a text consists of characters.
The third limit, on nesting, is a number of the tree (`nesting`).
-/

namespace ModelRegistry
namespace Json

/-- Nothing but blanks. -/
def Blanks (w : Bytes) : Prop := ∀ b ∈ w, isBlank b = true

/-! ## Texts -/

/-- A way of spelling characters between quotes. -/
inductive Spelled : List Char → Bytes → Prop
  | nil : Spelled [] []
  /-- A character stands for itself. -/
  | plain {c : Char} {cs : List Char} {s : Bytes} (hlow : 0x20 ≤ c.toNat) (hquote : c.toNat ≠ 0x22)
      (hslash : c.toNat ≠ 0x5C) (hs : Spelled cs s) :
      Spelled (c :: cs) (String.utf8EncodeChar c ++ s)
  /-- A letter behind a backslash. -/
  | letter {e b : UInt8} {cs : List Char} {s : Bytes} (he : escaped e = some b)
      (hs : Spelled cs s) : Spelled (Char.ofNat b.toNat :: cs) (0x5C :: e :: s)
  /-- Four digits behind a backslash and `u`. -/
  | unit {d₁ d₂ d₃ d₄ : UInt8} {n : Nat} {cs : List Char} {s : Bytes}
      (hn : codeUnit d₁ d₂ d₃ d₄ = some n) (hlow : isLowSurrogate n = false)
      (hhigh : isHighSurrogate n = false) (hs : Spelled cs s) :
      Spelled (Char.ofNat n :: cs) (0x5C :: 0x75 :: d₁ :: d₂ :: d₃ :: d₄ :: s)
  /-- Two code units, the halves of a surrogate pair. -/
  | pair {d₁ d₂ d₃ d₄ e₁ e₂ e₃ e₄ : UInt8} {high low : Nat} {cs : List Char} {s : Bytes}
      (hhigh : codeUnit d₁ d₂ d₃ d₄ = some high) (hlow : codeUnit e₁ e₂ e₃ e₄ = some low)
      (hleads : isHighSurrogate high = true) (hfollows : isLowSurrogate low = true)
      (hs : Spelled cs s) :
      Spelled (Char.ofNat (0x10000 + (high - 0xD800) * 0x400 + (low - 0xDC00)) :: cs)
        (0x5C :: 0x75 :: d₁ :: d₂ :: d₃ :: d₄ :: 0x5C :: 0x75 :: e₁ :: e₂ :: e₃ :: e₄ :: s)

/-! ## Numbers -/

/-- At least one digit and nothing else. -/
structure Digits (s : Bytes) : Prop where
  nonempty : s ≠ []
  digits : ∀ b ∈ s, isDigit b = true

/-- The digits before the point: a zero on its own, or digits of which the first is no zero. -/
inductive WrittenWhole : List Nat → Bytes → Prop
  | zero : WrittenWhole [0] [0x30]
  | digits {b : UInt8} {s : Bytes} (hs : Digits (b :: s)) (hb : b ≠ 0x30) :
      WrittenWhole ((b :: s).map digitValue) (b :: s)

/-- A point and the digits behind it, or nothing. -/
inductive WrittenFraction : Option (List Nat) → Bytes → Prop
  | absent : WrittenFraction none []
  | digits {s : Bytes} (hs : Digits s) : WrittenFraction (some (s.map digitValue)) (0x2E :: s)

/-- A mark, a sign and digits, or nothing; the sign may be left out. -/
inductive WrittenExponent : Option (Bool × List Nat) → Bytes → Prop
  | absent : WrittenExponent none []
  | bare {mark : UInt8} {s : Bytes} (hmark : mark = 0x65 ∨ mark = 0x45) (hs : Digits s) :
      WrittenExponent (some (false, s.map digitValue)) (mark :: s)
  | plus {mark : UInt8} {s : Bytes} (hmark : mark = 0x65 ∨ mark = 0x45) (hs : Digits s) :
      WrittenExponent (some (false, s.map digitValue)) (mark :: 0x2B :: s)
  | minus {mark : UInt8} {s : Bytes} (hmark : mark = 0x65 ∨ mark = 0x45) (hs : Digits s) :
      WrittenExponent (some (true, s.map digitValue)) (mark :: 0x2D :: s)

/-- A number behind its sign. -/
inductive WrittenParts (x : Numeral) : Bytes → Prop
  | mk {whole fraction exponent : Bytes} (hwhole : WrittenWhole x.whole whole)
      (hfraction : WrittenFraction x.fraction fraction)
      (hexponent : WrittenExponent x.exponent exponent) :
      WrittenParts x (whole ++ (fraction ++ exponent))

/-- A number as it is written. -/
inductive WrittenNumeral : Numeral → Bytes → Prop
  | positive {x : Numeral} {s : Bytes} (hsign : x.negative = false) (hs : WrittenParts x s) :
      WrittenNumeral x s
  | negative {x : Numeral} {s : Bytes} (hsign : x.negative = true) (hs : WrittenParts x s) :
      WrittenNumeral x (0x2D :: s)

/-! ## Values -/

mutual

/-- A way of writing a value. -/
inductive Written : Json → Bytes → Prop
  | null : Written .null [0x6E, 0x75, 0x6C, 0x6C]
  | on : Written (.flag true) [0x74, 0x72, 0x75, 0x65]
  | off : Written (.flag false) [0x66, 0x61, 0x6C, 0x73, 0x65]
  | number {x : Numeral} {n : Number} {s : Bytes} (hs : WrittenNumeral x s)
      (hn : x.value? = some n) : Written (.number n) s
  | text {t : String} {s : Bytes} (hs : Spelled t.toList s) :
      Written (.text t) (0x22 :: (s ++ [0x22]))
  | array {items : List Json} {s : Bytes} (hs : WrittenItems items s) :
      Written (.array items) (0x5B :: (s ++ [0x5D]))
  | object {members : List (String × Json)} {s : Bytes} (hs : WrittenMembers members s) :
      Written (.object members) (0x7B :: (s ++ [0x7D]))

/-- A way of writing the items of an array between its brackets. -/
inductive WrittenItems : List Json → Bytes → Prop
  | nil {w : Bytes} (hw : Blanks w) : WrittenItems [] w
  | last {item : Json} {w s v : Bytes} (hw : Blanks w) (hs : Written item s) (hv : Blanks v) :
      WrittenItems [item] (w ++ (s ++ v))
  | cons {item next : Json} {items : List Json} {w s v later : Bytes} (hw : Blanks w)
      (hs : Written item s) (hv : Blanks v) (hlater : WrittenItems (next :: items) later) :
      WrittenItems (item :: next :: items) (w ++ (s ++ (v ++ 0x2C :: later)))

/-- A way of writing the members of an object between its braces. -/
inductive WrittenMembers : List (String × Json) → Bytes → Prop
  | nil {w : Bytes} (hw : Blanks w) : WrittenMembers [] w
  | last {member : String × Json} {w s v : Bytes} (hw : Blanks w) (hs : WrittenMember member s)
      (hv : Blanks v) : WrittenMembers [member] (w ++ (s ++ v))
  | cons {member next : String × Json} {members : List (String × Json)} {w s v later : Bytes}
      (hw : Blanks w) (hs : WrittenMember member s) (hv : Blanks v)
      (hlater : WrittenMembers (next :: members) later) :
      WrittenMembers (member :: next :: members) (w ++ (s ++ (v ++ 0x2C :: later)))

/-- A way of writing a name with its value. -/
inductive WrittenMember : String × Json → Bytes → Prop
  | mk {name : String} {value : Json} {k w v s : Bytes} (hname : Spelled name.toList k)
      (hw : Blanks w) (hv : Blanks v) (hs : Written value s) :
      WrittenMember (name, value) (0x22 :: (k ++ 0x22 :: (w ++ 0x3A :: (v ++ s))))

end

/-- A document is a value with nothing but blanks around it. -/
inductive Document : Json → Bytes → Prop
  | mk {j : Json} {w s v : Bytes} (hw : Blanks w) (hs : Written j s) (hv : Blanks v) :
      Document j (w ++ (s ++ v))

/-! ## Nesting -/

mutual

/-- How many arrays and objects lie in each other. -/
def nesting : Json → Nat
  | array items => itemsNesting items + 1
  | object members => membersNesting members + 1
  | _ => 0

/-- The greatest nesting of some values. -/
def itemsNesting : List Json → Nat
  | [] => 0
  | item :: items => max item.nesting (itemsNesting items)

/-- The greatest nesting of the values of some members. -/
def membersNesting : List (String × Json) → Nat
  | [] => 0
  | (_, value) :: members => max value.nesting (membersNesting members)

end

theorem nesting_le_of_mem_items {item : Json} {items : List Json} (h : item ∈ items) :
    item.nesting ≤ itemsNesting items := by
  induction items with
  | nil => cases h
  | cons next items ih =>
    rw [itemsNesting]
    rcases List.mem_cons.1 h with rfl | h
    · exact Nat.le_max_left _ _
    · exact Nat.le_trans (ih h) (Nat.le_max_right _ _)

theorem nesting_le_of_mem_members {member : String × Json} {members : List (String × Json)}
    (h : member ∈ members) : member.2.nesting ≤ membersNesting members := by
  induction members with
  | nil => cases h
  | cons next members ih =>
    rw [membersNesting]
    rcases List.mem_cons.1 h with rfl | h
    · exact Nat.le_max_left _ _
    · exact Nat.le_trans (ih h) (Nat.le_max_right _ _)

end Json
end ModelRegistry
