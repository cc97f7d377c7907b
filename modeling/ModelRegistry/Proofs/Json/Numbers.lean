import ModelRegistry.Json.Printer
import ModelRegistry.Json.Scalar
import ModelRegistry.Proofs.Json.Grammar
import ModelRegistry.Proofs.Text.Utf8

/-!
# Numbers are read however they are written

A number has no end of its own: each of its parts ends where the next byte cannot belong to it.
`Delimited` says so for everything that can follow a value in a document, and from there the parts
are taken from the last to the first: what begins with an exponent begins with no digit and no
point, what begins with a fraction begins with no digit (`numberParts_written`).

Integers are written in decimal by the library's `Nat.toDigits`.  That is one way of writing them
(`writtenWhole_digits`), and the number that the digits are read as is the one that they were made
from (`written_integer`), because it never gets too large on the way.
-/

namespace ModelRegistry
namespace Json

open Text (utf8)

/-! ## What may follow a value -/

/-- The end of a document, or what follows a value inside it. -/
def Delimited (rest : Bytes) : Prop :=
  ∀ b ∈ rest.head?, isBlank b = true ∨ b = 0x2C ∨ b = 0x5D ∨ b = 0x7D

theorem delimited_nil : Delimited [] := by simp [Delimited]

theorem delimited_cons {b : UInt8} (rest : Bytes) (h : b = 0x2C ∨ b = 0x5D ∨ b = 0x7D) :
    Delimited (b :: rest) := by
  intro c hc
  obtain rfl : b = c := by simpa using hc
  exact .inr h

/-- Blanks may stand in front of what follows. -/
theorem Delimited.blanks {w rest : Bytes} (hw : Blanks w) (h : Delimited rest) :
    Delimited (w ++ rest) := by
  cases w with
  | nil => exact h
  | cons b w =>
    intro c hc
    obtain rfl : b = c := by simpa using hc
    exact .inl (hw b List.mem_cons_self)

/-- None of the bytes that continue a number. -/
theorem Delimited.ends {b : UInt8} {rest : Bytes} (h : Delimited (b :: rest)) :
    isDigit b = false ∧ b ≠ 0x2E ∧ ¬ (b = 0x65 ∨ b = 0x45) := by
  have hb := h b rfl
  simp only [isBlank, Bool.or_eq_true, decide_eq_true_eq] at hb
  rcases hb with (((rfl | rfl) | rfl) | rfl) | rfl | rfl | rfl <;> decide

/-! ## Runs of digits -/

/-- A digit does not come next. -/
def NoDigit (rest : Bytes) : Prop := ∀ b ∈ rest.head?, isDigit b = false

theorem Delimited.noDigit {rest : Bytes} (h : Delimited rest) : NoDigit rest := by
  cases rest with
  | nil => simp [NoDigit]
  | cons b rest =>
    intro c hc
    obtain rfl : b = c := by simpa using hc
    exact h.ends.1

theorem digitRun_digits {s rest : Bytes} (hs : Digits s) (hrest : NoDigit rest) :
    digitRun (s ++ rest) = (s.map digitValue, rest) := by
  have hstop : rest.takeWhile isDigit = [] ∧ rest.dropWhile isDigit = rest := by
    cases rest with
    | nil => exact ⟨rfl, rfl⟩
    | cons b rest => simp [hrest b rfl]
  rw [digitRun, List.takeWhile_append_of_pos hs.digits, List.dropWhile_append_of_pos hs.digits,
    hstop.1, hstop.2, List.append_nil]

/-- The first digit of some. -/
theorem Digits.exists_cons {s : Bytes} (hs : Digits s) :
    ∃ d t, s = d :: t ∧ isDigit d = true := by
  obtain ⟨d, t, rfl⟩ := List.exists_cons_of_ne_nil hs.nonempty
  exact ⟨d, t, rfl, hs.digits d List.mem_cons_self⟩

/-! ## Parts of a number -/

theorem wholePart_written (cut : Fault) {ds : List Nat} {s rest : Bytes} (hs : WrittenWhole ds s)
    (hrest : NoDigit rest) : wholePart cut (s ++ rest) = .ok (ds, rest) := by
  cases hs with
  | zero =>
    cases rest with
    | nil => rfl
    | cons b rest =>
      show (if isDigit b = true then _ else _) = _
      rw [hrest b rfl]
      rfl
  | @digits b s hs hb =>
    have hdigit := hs.digits b List.mem_cons_self
    have hrun := digitRun_digits hs hrest
    rw [List.cons_append] at hrun ⊢
    rw [wholePart.eq_def]
    simp only [if_neg hb, hdigit, if_true, hrun]

theorem fractionPart_written (cut : Fault) {ds : Option (List Nat)} {s rest : Bytes}
    (hs : WrittenFraction ds s) (hrest : NoDigit rest) (hpoint : ∀ b ∈ rest.head?, b ≠ 0x2E) :
    fractionPart cut (s ++ rest) = .ok (ds, rest) := by
  cases hs with
  | absent =>
    cases rest with
    | nil => rfl
    | cons b rest =>
      rw [List.nil_append, fractionPart.eq_def]
      simp only [if_neg (hpoint b rfl)]
  | digits hs =>
    obtain ⟨d, t, rfl, hd⟩ := hs.exists_cons
    have hrun := digitRun_digits hs hrest
    rw [List.cons_append] at hrun
    rw [List.cons_append, List.cons_append, fractionPart.eq_def]
    simp only [if_true, hd, hrun]

/-- An exponent whose sign has been told apart from its digits. -/
theorem exponentPart_of_sign (cut : Fault) {mark : UInt8} (hmark : mark = 0x65 ∨ mark = 0x45)
    {negative : Bool} {t s rest : Bytes} (hsign : exponentSign t = (negative, s ++ rest))
    (hs : Digits s) (hrest : NoDigit rest) :
    exponentPart cut (mark :: t) = .ok (some (negative, s.map digitValue), rest) := by
  obtain ⟨d, u, rfl, hd⟩ := hs.exists_cons
  have hrun := digitRun_digits hs hrest
  rw [List.cons_append] at hrun
  rw [exponentPart.eq_def]
  simp only [if_pos hmark, hsign, List.cons_append, hd, if_true, hrun]

theorem exponentSign_digits {s : Bytes} (hs : Digits s) (rest : Bytes) :
    exponentSign (s ++ rest) = (false, s ++ rest) := by
  obtain ⟨d, t, rfl, hd⟩ := hs.exists_cons
  have hne {c : UInt8} (hc : isDigit c = false) : d ≠ c := by
    rintro rfl
    rw [hd] at hc
    cases hc
  simp only [List.cons_append, exponentSign, if_neg (hne (c := 0x2B) rfl),
    if_neg (hne (c := 0x2D) rfl)]

theorem exponentPart_written (cut : Fault) {e : Option (Bool × List Nat)} {s rest : Bytes}
    (hs : WrittenExponent e s) (hrest : Delimited rest) :
    exponentPart cut (s ++ rest) = .ok (e, rest) := by
  cases hs with
  | absent =>
    cases rest with
    | nil => rfl
    | cons b rest =>
      rw [List.nil_append, exponentPart.eq_def]
      simp only [if_neg hrest.ends.2.2]
  | bare hmark hs =>
    exact exponentPart_of_sign cut hmark (exponentSign_digits hs rest) hs hrest.noDigit
  | plus hmark hs => exact exponentPart_of_sign cut hmark rfl hs hrest.noDigit
  | minus hmark hs => exact exponentPart_of_sign cut hmark rfl hs hrest.noDigit

/-- An exponent begins with neither a digit nor a point. -/
theorem WrittenExponent.noDigit {e : Option (Bool × List Nat)} {s rest : Bytes}
    (hs : WrittenExponent e s) (hrest : Delimited rest) :
    NoDigit (s ++ rest) ∧ ∀ b ∈ (s ++ rest).head?, b ≠ 0x2E := by
  have hmarked {mark : UInt8} (hmark : mark = 0x65 ∨ mark = 0x45) (t : Bytes) :
      NoDigit (mark :: t) ∧ ∀ b ∈ (mark :: t).head?, b ≠ 0x2E := by
    rcases hmark with rfl | rfl <;> simp [NoDigit] <;> decide
  cases hs with
  | absent =>
    refine ⟨hrest.noDigit, ?_⟩
    cases rest with
    | nil => simp
    | cons b rest =>
      intro c hc
      obtain rfl : b = c := by simpa using hc
      exact hrest.ends.2.1
  | bare hmark => exact hmarked hmark _
  | plus hmark => exact hmarked hmark _
  | minus hmark => exact hmarked hmark _

theorem WrittenFraction.noDigit {ds : Option (List Nat)} {s rest : Bytes}
    (hs : WrittenFraction ds s) (hrest : NoDigit rest) : NoDigit (s ++ rest) := by
  cases hs with
  | absent => exact hrest
  | digits hs => simp [NoDigit]; decide

/-- The parts of a number are read behind its sign. -/
theorem numberParts_written (cut : Fault) {x : Numeral} {s rest : Bytes} (hs : WrittenParts x s)
    (hrest : Delimited rest) : numberParts cut x.negative (s ++ rest) = .ok (x, rest) := by
  obtain ⟨hwhole, hfraction, hexponent⟩ := hs
  obtain ⟨hdigit, hpoint⟩ := hexponent.noDigit hrest
  rw [List.append_assoc, List.append_assoc]
  simp only [numberParts, wholePart_written cut hwhole (hfraction.noDigit hdigit),
    fractionPart_written cut hfraction hdigit hpoint, exponentPart_written cut hexponent hrest]

theorem numberValue_written {x : Numeral} {n : Number} {s rest : Bytes} (hs : WrittenParts x s)
    (hn : x.value? = some n) (hrest : Delimited rest) :
    numberValue x.negative (s ++ rest) = .ok (n, rest) := by
  simp only [numberValue, numberParts_written _ hs hrest, hn]

theorem WrittenWhole.exists_cons {ds : List Nat} {s : Bytes} (hs : WrittenWhole ds s) :
    ∃ d t, s = d :: t ∧ isDigit d = true := by
  cases hs with
  | zero => exact ⟨0x30, [], rfl, rfl⟩
  | digits hs hb => exact hs.exists_cons

/-- A number begins with a digit behind its sign. -/
theorem WrittenParts.exists_cons {x : Numeral} {s : Bytes} (hs : WrittenParts x s) :
    ∃ d t, s = d :: t ∧ isDigit d = true := by
  obtain ⟨hwhole, -, -⟩ := hs
  obtain ⟨d, t, rfl, hd⟩ := hwhole.exists_cons
  exact ⟨d, _, rfl, hd⟩

/-- A digit is none of the letters and signs that a value may begin with. -/
theorem ne_of_isDigit {b c : UInt8} (hb : isDigit b = true) (hc : isDigit c = false) : b ≠ c := by
  rintro rfl
  rw [hb] at hc
  cases hc

theorem foundAt_numeral {x : Numeral} {n : Number} {s rest : Bytes} (hs : WrittenNumeral x s)
    (hn : x.value? = some n) (hrest : Delimited rest) :
    foundAt (s ++ rest) = .ok (.number n, rest) := by
  cases hs with
  | positive hsign hs =>
    have hvalue := numberValue_written hs hn hrest
    obtain ⟨d, t, rfl, hd⟩ := hs.exists_cons
    rw [hsign, List.cons_append] at hvalue
    rw [List.cons_append, foundAt.eq_def]
    simp only [hd, if_true, if_neg (ne_of_isDigit (c := 0x6E) hd rfl),
      if_neg (ne_of_isDigit (c := 0x74) hd rfl), if_neg (ne_of_isDigit (c := 0x66) hd rfl),
      if_neg (ne_of_isDigit (c := 0x2D) hd rfl), hvalue]
    rfl
  | negative hsign hs =>
    have hvalue := numberValue_written hs hn hrest
    rw [hsign] at hvalue
    show (numberValue true (_ ++ rest)).map _ = _
    rw [hvalue]
    rfl

theorem skipScalar_numeral {x : Numeral} {s rest : Bytes} (hs : WrittenNumeral x s)
    (hrest : Delimited rest) : skipScalar (s ++ rest) = .ok rest := by
  cases hs with
  | positive hsign hs =>
    have hparts := numberParts_written .badNumber hs hrest
    obtain ⟨d, t, rfl, hd⟩ := hs.exists_cons
    rw [hsign, List.cons_append] at hparts
    rw [List.cons_append, skipScalar.eq_def]
    simp only [hd, if_true, if_neg (ne_of_isDigit (c := 0x6E) hd rfl),
      if_neg (ne_of_isDigit (c := 0x74) hd rfl), if_neg (ne_of_isDigit (c := 0x66) hd rfl),
      if_neg (ne_of_isDigit (c := 0x2D) hd rfl), hparts]
    rfl
  | negative hsign hs =>
    have hparts := numberParts_written .badNumber hs hrest
    rw [hsign] at hparts
    show (numberParts _ true (_ ++ rest)).map _ = _
    rw [hparts]
    rfl

/-! ## Written integers -/

theorem utf8_digits (n : Nat) :
    utf8 (Nat.toDigits 10 n) = (Nat.toDigits 10 n).map fun c => UInt8.ofNat c.toNat := by
  apply Text.utf8_of_ascii
  intro c hc
  have hdigit := Nat.isDigit_of_mem_toDigits (by decide) (by decide) hc
  simp only [Char.isDigit, Bool.and_eq_true, decide_eq_true_eq] at hdigit
  exact Nat.lt_of_le_of_lt (UInt32.le_iff_toNat_le.1 hdigit.2) (by decide)

theorem toNat_digit {c : Char} (h : c.isDigit = true) :
    0x30 ≤ c.toNat ∧ c.toNat ≤ 0x39 := by
  simp only [Char.isDigit, Bool.and_eq_true, decide_eq_true_eq] at h
  exact ⟨UInt32.le_iff_toNat_le.1 h.1, UInt32.le_iff_toNat_le.1 h.2⟩

theorem toNat_byte {c : Char} (h : c.isDigit = true) :
    (UInt8.ofNat c.toNat).toNat = c.toNat :=
  UInt8.toNat_ofNat_of_lt' (Nat.lt_of_le_of_lt (toNat_digit h).2 (by decide))

theorem isDigit_byte {c : Char} (h : c.isDigit = true) : isDigit (UInt8.ofNat c.toNat) = true := by
  simp only [isDigit, Bool.and_eq_true, decide_eq_true_eq, UInt8.le_iff_toNat_le, toNat_byte h]
  exact toNat_digit h

theorem digitValue_byte {c : Char} (h : c.isDigit = true) :
    digitValue (UInt8.ofNat c.toNat) = c.toNat - 0x30 := by
  rw [digitValue, toNat_byte h]

/-- The value of each digit of a number. -/
def digitValues (n : Nat) : List Nat := (Nat.toDigits 10 n).map fun c => c.toNat - 0x30

theorem map_digitValue_digits (n : Nat) :
    (utf8 (Nat.toDigits 10 n)).map digitValue = digitValues n := by
  rw [utf8_digits, List.map_map, digitValues]
  apply List.map_congr_left
  intro c hc
  exact digitValue_byte (Nat.isDigit_of_mem_toDigits (by decide) (by decide) hc)

theorem digits_toDigits (n : Nat) : Digits (utf8 (Nat.toDigits 10 n)) := by
  rw [utf8_digits]
  constructor
  · intro hnil
    exact Nat.toDigits_ne_nil (List.map_eq_nil_iff.1 hnil)
  · intro b hb
    obtain ⟨c, hc, rfl⟩ := List.mem_map.1 hb
    exact isDigit_byte (Nat.isDigit_of_mem_toDigits (by decide) (by decide) hc)

/-- The first digit of a number other than zero. -/
theorem exists_cons_of_pos (n : Nat) (hn : 0 < n) :
    ∃ c cs, Nat.toDigits 10 n = c :: cs ∧ c.isDigit = true ∧ c ≠ '0' := by
  induction n using Nat.strongRecOn with
  | ind n ih =>
    by_cases hlt : n < 10
    · refine ⟨n.digitChar, [], Nat.toDigits_of_lt_base hlt, ?_, ?_⟩
      · rw [Nat.isDigit_digitChar, decide_eq_true hlt]
      · rw [ne_eq, Nat.digitChar_eq_zero]
        omega
    · obtain ⟨c, cs, hdigits, hc⟩ := ih (n / 10) (by omega) (by omega)
      refine ⟨c, cs ++ [(n % 10).digitChar], ?_, hc⟩
      rw [Nat.toDigits_of_base_le (by decide) (by omega), hdigits]
      rfl

/-- The digits of a number have no zero in front. -/
theorem writtenWhole_digits (n : Nat) :
    WrittenWhole (digitValues n) (utf8 (Nat.toDigits 10 n)) := by
  rcases Nat.eq_zero_or_pos n with rfl | hn
  · exact .zero
  · obtain ⟨c, cs, hdigits, hc, hzero⟩ := exists_cons_of_pos n hn
    have hall := digits_toDigits n
    rw [← map_digitValue_digits, utf8_digits, hdigits, List.map_cons] at *
    refine .digits hall ?_
    intro heq
    have htoNat := congrArg UInt8.toNat heq
    rw [toNat_byte hc] at htoNat
    exact hzero (Char.toNat_inj.1 htoNat)

theorem writeNumber_ofNat (n : Nat) :
    writeNumber (.integer (Int.ofNat n)) = Nat.toDigits 10 n := Nat.toList_repr

theorem writeNumber_negSucc (n : Nat) :
    writeNumber (.integer (Int.negSucc n)) = '-' :: Nat.toDigits 10 (n + 1) := by
  show ("-" ++ (n + 1).repr).toList = _
  rw [String.toList_append, Nat.toList_repr]
  rfl

theorem le_ofDigitChars (cs : List Char) (n : Nat) : n ≤ Nat.ofDigitChars 10 cs n := by
  induction cs generalizing n with
  | nil => simp
  | cons c cs ih =>
    rw [Nat.ofDigitChars_cons]
    exact Nat.le_trans (by omega) (ih _)

/-- Digits are absorbed as long as the number that they make stays exact. -/
theorem absorb_digits (cs : List Char) (n : Nat)
    (h : Nat.ofDigitChars 10 cs n ≤ Numeral.greatestExact) :
    Numeral.absorb n (cs.map fun c => c.toNat - 0x30) = (Nat.ofDigitChars 10 cs n, []) := by
  induction cs generalizing n with
  | nil => simp [Numeral.absorb]
  | cons c cs ih =>
    have hnext : 10 * n + (c.toNat - '0'.toNat) = n * 10 + (c.toNat - 0x30) := by
      rw [Nat.mul_comm]
      rfl
    rw [Nat.ofDigitChars_cons, hnext] at h ⊢
    have hle := Nat.le_trans (le_ofDigitChars cs _) h
    rw [List.map_cons, Numeral.absorb, if_pos hle, ih _ h]

/-- The digits of a number are read as that number. -/
theorem value?_digits (negative : Bool) {n : Nat} (hn : n ≤ Numeral.greatestExact) :
    (⟨negative, digitValues n, none, none⟩ : Numeral).value? =
      some (Numeral.integer negative n) := by
  have habsorb : Numeral.absorb 0 (digitValues n) = (n, []) := by
    have h := absorb_digits (Nat.toDigits 10 n) 0
    rw [Nat.ofDigitChars_ten_toDigits] at h
    exact h hn
  simp [Numeral.value?, habsorb]

theorem writtenParts_digits (negative : Bool) (n : Nat) :
    WrittenParts ⟨negative, digitValues n, none, none⟩ (utf8 (Nat.toDigits 10 n)) := by
  have hparts : WrittenParts ⟨negative, digitValues n, none, none⟩
      (utf8 (Nat.toDigits 10 n) ++ ([] ++ [])) := .mk (writtenWhole_digits n) .absent .absent
  simpa using hparts

/-- An integer in the range of a document is written as one. -/
theorem written_integer {z : Int} (hlow : -0x8000000000000000 ≤ z)
    (hhigh : z < 0x10000000000000000) :
    Written (.number (.integer z)) (utf8 (writeNumber (.integer z))) := by
  cases z with
  | ofNat n =>
    rw [Int.ofNat_eq_natCast] at hhigh
    have hgreatest : Numeral.greatestExact = 0xFFFFFFFFFFFFFFFF := rfl
    rw [writeNumber_ofNat]
    exact .number (.positive rfl (writtenParts_digits false n)) (value?_digits false (by omega))
  | negSucc n =>
    have hn : n + 1 ≤ 0x8000000000000000 := by omega
    have hinteger : Numeral.integer true (n + 1) = .integer (Int.negSucc n) := by
      rw [Numeral.integer, if_pos rfl, if_neg (by omega)]
      rfl
    have hvalue := value?_digits true
      (Nat.le_trans hn (by decide : 0x8000000000000000 ≤ Numeral.greatestExact))
    rw [hinteger] at hvalue
    rw [writeNumber_negSucc]
    exact .number (.negative rfl (writtenParts_digits true (n + 1))) hvalue

/-! ## Natural numbers are written in one way -/

/-- Only digits without a point and an exponent are an integer. -/
theorem value?_eq_integer {x : Numeral} {z : Int} (h : x.value? = some (.integer z)) :
    x.fraction = none ∧ x.exponent = none ∧
      ∃ n, Numeral.absorb 0 x.whole = (n, []) ∧ Numeral.integer x.negative n = .integer z := by
  obtain ⟨negative, whole, fraction, exponent⟩ := x
  rcases habsorb : Numeral.absorb 0 whole with ⟨n, surplus⟩
  have hreal (places : List Nat) (e : Int) :
      (Binary64.ofDecimal (Numeral.absorb n places).1 e).map (Number.real negative) ≠
        some (.integer z) := by
    cases Binary64.ofDecimal (Numeral.absorb n places).1 e <;> simp
  simp only [Numeral.value?, habsorb] at h ⊢
  split at h
  · next hplain =>
    simp only [Bool.and_eq_true, Option.isNone_iff_eq_none, List.isEmpty_iff] at hplain
    obtain ⟨⟨hfraction, hexponent⟩, rfl⟩ := hplain
    exact ⟨hfraction, hexponent, n, rfl, Option.some.inj h⟩
  · exfalso
    cases exponent with
    | none => exact hreal _ _ h
    | some e =>
      simp only at h
      split at h
      · split at h <;> cases h
      · exact hreal _ _ h

theorem utf8_toDigits_digitValue {b : UInt8} (hb : isDigit b = true) :
    digitValue b < 10 ∧ utf8 (Nat.toDigits 10 (digitValue b)) = [b] := by
  have hdigit : ∀ d < 10, utf8 (Nat.toDigits 10 d) = [UInt8.ofNat (0x30 + d)] := by decide
  simp only [isDigit, Bool.and_eq_true, decide_eq_true_eq, UInt8.le_iff_toNat_le] at hb
  have hlow : 0x30 ≤ b.toNat := hb.1
  have hhigh : b.toNat ≤ 0x39 := hb.2
  have hvalue : digitValue b = b.toNat - 0x30 := rfl
  have hback : 0x30 + digitValue b = b.toNat := by omega
  refine ⟨by omega, ?_⟩
  rw [hdigit _ (by omega), hback, UInt8.ofNat_toNat]

/-- Digits behind a number are appended to its own. -/
theorem utf8_toDigits_absorb {s : Bytes} (hs : ∀ b ∈ s, isDigit b = true) {n m : Nat} (hn : 0 < n)
    (h : Numeral.absorb n (s.map digitValue) = (m, [])) :
    utf8 (Nat.toDigits 10 m) = utf8 (Nat.toDigits 10 n) ++ s := by
  induction s generalizing n with
  | nil =>
    obtain rfl : n = m := congrArg Prod.fst h
    exact (List.append_nil _).symm
  | cons b s ih =>
    obtain ⟨hb, hs⟩ := List.forall_mem_cons.1 hs
    obtain ⟨hlt, hbytes⟩ := utf8_toDigits_digitValue hb
    have happend := Nat.toDigits_append_toDigits (by decide) hn hlt
    rw [List.map_cons, Numeral.absorb] at h
    split at h
    · rw [ih hs (by omega) h, Nat.mul_comm n 10, ← happend, Text.utf8_append, hbytes,
        List.append_assoc, List.singleton_append]
    · cases congrArg Prod.snd h

theorem utf8_toDigits_whole {ds : List Nat} {s : Bytes} {n : Nat} (hs : WrittenWhole ds s)
    (h : Numeral.absorb 0 ds = (n, [])) : utf8 (Nat.toDigits 10 n) = s := by
  cases hs with
  | zero =>
    obtain rfl : 0 = n := congrArg Prod.fst h
    rfl
  | @digits b s hs hb =>
    obtain ⟨hdigit, hs⟩ := List.forall_mem_cons.1 hs.digits
    obtain ⟨hlt, hbytes⟩ := utf8_toDigits_digitValue hdigit
    have hpos : 0 < digitValue b := by
      refine Nat.pos_of_ne_zero fun hzero => hb ?_
      rw [hzero] at hbytes
      exact (List.cons.inj hbytes).1.symm
    have hle : 0 * 10 + digitValue b ≤ Numeral.greatestExact :=
      Nat.le_trans (by omega : _ ≤ 10) (by decide)
    rw [List.map_cons, Numeral.absorb, if_pos hle] at h
    rw [utf8_toDigits_absorb hs (by omega) h, Nat.zero_mul, Nat.zero_add, hbytes]
    rfl

/-- A natural number of 64 bits is written as its digits and in no other way. -/
theorem written_natural_iff {n : Nat} (hn : n < UInt64.size) {s : Bytes} :
    Written (.number (.integer n)) s ↔ s = utf8 (Nat.toDigits 10 n) := by
  constructor
  · intro h
    cases h with
    | @number x _ _ hs hvalue =>
      obtain ⟨hfraction, hexponent, m, habsorb, hinteger⟩ := value?_eq_integer hvalue
      have hparts {s : Bytes} (hs : WrittenParts x s) : s = utf8 (Nat.toDigits 10 m) := by
        obtain ⟨hwhole, hf, he⟩ := hs
        rw [hfraction] at hf
        rw [hexponent] at he
        cases hf
        cases he
        rw [utf8_toDigits_whole hwhole habsorb, List.append_nil, List.append_nil]
      cases hs with
      | positive hsign hs =>
        rw [hsign] at hinteger
        obtain rfl : m = n := Int.ofNat.inj (Number.integer.inj hinteger)
        exact hparts hs
      | negative hsign hs =>
        -- A negative numeral is at most minus one, and minus zero is a double.
        rw [hsign, Numeral.integer, if_pos rfl] at hinteger
        split at hinteger
        · cases hinteger
        · have hz := Number.integer.inj hinteger
          omega
  · rintro rfl
    have hwritten := written_integer (z := n) (by omega) (Int.ofNat_lt.2 hn)
    rwa [← Int.ofNat_eq_natCast, writeNumber_ofNat] at hwritten

end Json
end ModelRegistry
