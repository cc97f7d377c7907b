import ModelRegistry.Proofs.Json.Numbers
import ModelRegistry.Settings

/-!
# Numbers in settings

`Numeral t n` says that the characters `t` spell the number `n`: digits, of which there is at least
one, behind a plus sign or without it, and a value of 64 bits.  The reader of numbers accepts
exactly these (`readNumber_eq_ok_iff`), although it looks at one digit after the other and gives up
as soon as the value of those that it has seen is too large: more digits never make it smaller.
-/

namespace ModelRegistry

/-- Digits that spell a number of 64 bits. -/
structure DigitsOf (digits : List Char) (n : Nat) : Prop where
  nonempty : digits ≠ []
  isDigit : ∀ c ∈ digits, c.isDigit = true
  value : Nat.ofDigitChars 10 digits 0 = n
  lt : n < UInt64.size

/-- Characters that spell a number, with a plus sign or without. -/
inductive Numeral : List Char → Nat → Prop
  | bare {digits : List Char} {n : Nat} (h : DigitsOf digits n) : Numeral digits n
  | signed {digits : List Char} {n : Nat} (h : DigitsOf digits n) : Numeral ('+' :: digits) n

theorem Numeral.ne_nil {t : List Char} {n : Nat} (h : Numeral t n) : t ≠ [] := by
  cases h with
  | bare h => exact h.nonempty
  | signed h => exact List.cons_ne_nil _ _

/-- The reader takes up all digits if their value keeps the bound. -/
theorem readDigits_eq_ok_iff {cs : List Char} {n m : Nat} (hn : n < UInt64.size) :
    readDigits n cs = .ok m ↔
      (∀ c ∈ cs, c.isDigit = true) ∧ Nat.ofDigitChars 10 cs n = m ∧ m < UInt64.size := by
  induction cs generalizing n with
  | nil =>
    rw [readDigits, Nat.ofDigitChars_nil]
    constructor
    · rintro ⟨⟩
      exact ⟨by simp, rfl, hn⟩
    · rintro ⟨-, rfl, -⟩
      rfl
  | cons c cs ih =>
    rw [readDigits, Nat.ofDigitChars_cons, Nat.mul_comm 10 n, List.forall_mem_cons]
    cases hc : c.isDigit with
    | false => simp
    | true =>
      by_cases hlarge : numberBound ≤ n * 10 + (c.toNat - '0'.toNat)
      · -- The digits that follow cannot make up for it.
        have hle := Json.le_ofDigitChars cs (n * 10 + (c.toNat - '0'.toNat))
        have hbound : numberBound = UInt64.size := rfl
        simp only [Bool.not_true, Bool.false_eq_true, if_false, if_pos hlarge]
        refine iff_of_false nofun ?_
        rintro ⟨-, rfl, hlt⟩
        omega
      · simp only [Bool.not_true, Bool.false_eq_true, if_false, if_neg hlarge, true_and]
        exact ih (Nat.lt_of_not_le hlarge)

/-- Behind its sign, if there is one, a number is read digit by digit. -/
theorem digitsOf_iff {cs : List Char} {n : Nat} :
    (if cs = [] then .error .invalidDigit else readDigits 0 cs) = .ok n ↔ DigitsOf cs n := by
  split
  · next hempty => exact iff_of_false nofun fun h => h.nonempty hempty
  · next hne =>
    rw [readDigits_eq_ok_iff (by decide)]
    exact ⟨fun ⟨hdigits, hvalue, hlt⟩ => ⟨hne, hdigits, hvalue, hlt⟩,
      fun h => ⟨h.isDigit, h.value, h.lt⟩⟩

/-- The numbers that are read are those that are spelled. -/
theorem readNumber_eq_ok_iff {s : String} {n : Nat} :
    readNumber s = .ok n ↔ Numeral s.toList n := by
  rw [readNumber]
  split
  · next cs heq =>
    rw [heq, digitsOf_iff]
    refine ⟨.signed, fun h => ?_⟩
    cases h with
    | bare h => exact absurd (h.isDigit '+' List.mem_cons_self) (by decide)
    | signed h => exact h
  · next hunsigned =>
    rw [digitsOf_iff]
    refine ⟨.bare, fun h => ?_⟩
    generalize s.toList = t at hunsigned h
    cases h with
    | bare h => exact h
    | signed h => exact absurd rfl (hunsigned _)

end ModelRegistry
