import ModelRegistry.Proofs.Json.Grammar

/-!
# Texts are read however they are spelled

`Spelled` builds a text character by character, and so do `textBody` and `skipText` take it apart:
there is one lemma for each of the forms a character can have, and the induction is on the spelling.
`textBody` works on bytes, so what has been read is the UTF-8 form of the characters
(`textBody_spelled`), and `textValue_spelled` says that the text comes back whole, whatever follows
it.

What `writeText` writes is one of the spellings (`spelled_written`).
-/

namespace ModelRegistry
namespace Json

open Text (utf8)

/-! ## Plain characters -/

/-- A byte that stands for itself in a text. -/
def Plain (b : UInt8) : Prop := 0x20 ≤ b ∧ b ≠ 0x22 ∧ b ≠ 0x5C

theorem plain_of_mem_utf8EncodeChar {c : Char} (hlow : 0x20 ≤ c.toNat) (hquote : c.toNat ≠ 0x22)
    (hslash : c.toNat ≠ 0x5C) : ∀ b ∈ String.utf8EncodeChar c, Plain b := by
  intro b hb
  by_cases hascii : c.toNat < 0x80
  · rw [Text.utf8EncodeChar_of_ascii hascii, List.mem_singleton] at hb
    have htoNat : b.toNat = c.toNat := by
      rw [hb, UInt8.toNat_ofNat_of_lt' (Nat.lt_of_lt_of_le hascii (by decide))]
    refine ⟨?_, ?_, ?_⟩
    · rw [UInt8.le_iff_toNat_le, htoNat]
      exact hlow
    · rintro rfl
      exact hquote htoNat.symm
    · rintro rfl
      exact hslash htoNat.symm
  · have hle := Text.le_of_mem_utf8EncodeChar (Nat.le_of_not_lt hascii) hb
    refine ⟨UInt8.le_trans (by decide) hle, ?_, ?_⟩
    · rintro rfl
      exact absurd hle (by decide)
    · rintro rfl
      exact absurd hle (by decide)

theorem textBody_plain {bs : Bytes} (h : ∀ b ∈ bs, Plain b) (seen rest : Bytes) :
    textBody seen (bs ++ rest) = textBody (bs.reverse ++ seen) rest := by
  induction bs generalizing seen with
  | nil => rfl
  | cons b bs ih =>
    obtain ⟨⟨hlow, hquote, hslash⟩, hbs⟩ := List.forall_mem_cons.1 h
    have hcontrol : ¬ b < 0x20 := UInt8.not_lt.2 hlow
    rw [List.cons_append, textBody.eq_def]
    simp only [if_neg hquote, if_neg hslash, if_neg hcontrol]
    rw [ih hbs, List.reverse_cons, List.append_assoc]
    rfl

theorem skipText_plain {bs : Bytes} (h : ∀ b ∈ bs, Plain b) (rest : Bytes) :
    skipText (bs ++ rest) = skipText rest := by
  induction bs with
  | nil => rfl
  | cons b bs ih =>
    obtain ⟨⟨hlow, hquote, hslash⟩, hbs⟩ := List.forall_mem_cons.1 h
    have hcontrol : ¬ b < 0x20 := UInt8.not_lt.2 hlow
    rw [List.cons_append, skipText.eq_def]
    simp only [if_neg hquote, if_neg hslash, if_neg hcontrol]
    exact ih hbs

/-! ## Escaped characters -/

theorem ne_unicode_of_escaped {e b : UInt8} (h : escaped e = some b) : e ≠ 0x75 := by
  rintro rfl
  cases h

/-- A letter behind a backslash stands for an ASCII character. -/
theorem ascii_of_escaped {e b : UInt8} (h : escaped e = some b) : b.toNat < 0x80 := by
  unfold escaped at h
  split at h
  · next hself =>
    cases h
    rcases hself with rfl | rfl | rfl <;> decide
  · repeat' split at h
    all_goals cases h
    all_goals decide

theorem utf8EncodeChar_of_escaped {e b : UInt8} (h : escaped e = some b) :
    String.utf8EncodeChar (Char.ofNat b.toNat) = [b] := by
  have hascii := ascii_of_escaped h
  have htoNat : (Char.ofNat b.toNat).toNat = b.toNat := by
    have hvalid : b.toNat.isValidChar := .inl (Nat.lt_trans hascii (by decide))
    rw [Char.ofNat, dif_pos hvalid]
    rfl
  rw [Text.utf8EncodeChar_of_ascii (by rwa [htoNat]), htoNat, UInt8.ofNat_toNat]

theorem textBody_letter {e b : UInt8} (h : escaped e = some b) (seen rest : Bytes) :
    textBody seen (0x5C :: e :: rest) = textBody (b :: seen) rest := by
  rw [textBody.eq_def]
  simp [h, ne_unicode_of_escaped h]

theorem skipText_letter {e b : UInt8} (h : escaped e = some b) (rest : Bytes) :
    skipText (0x5C :: e :: rest) = skipText rest := by
  rw [skipText.eq_def]
  simp [h, ne_unicode_of_escaped h]

/-- A code unit that is no surrogate is read as its character. -/
theorem textBody_unit {d₁ d₂ d₃ d₄ : UInt8} {n : Nat} (h : codeUnit d₁ d₂ d₃ d₄ = some n)
    (hlow : isLowSurrogate n = false) (hhigh : isHighSurrogate n = false) (seen rest : Bytes) :
    textBody seen (0x5C :: 0x75 :: d₁ :: d₂ :: d₃ :: d₄ :: rest) =
      textBody ((encodePoint n).reverse ++ seen) rest := by
  rw [textBody.eq_def]
  simp [h, hlow, hhigh]

/-- The halves of a surrogate pair are read as one character. -/
theorem textBody_pair {d₁ d₂ d₃ d₄ e₁ e₂ e₃ e₄ : UInt8} {high low : Nat}
    (hhigh : codeUnit d₁ d₂ d₃ d₄ = some high) (hlow : codeUnit e₁ e₂ e₃ e₄ = some low)
    (hleads : isHighSurrogate high = true) (hfollows : isLowSurrogate low = true)
    (seen rest : Bytes) :
    textBody seen
        (0x5C :: 0x75 :: d₁ :: d₂ :: d₃ :: d₄ :: 0x5C :: 0x75 :: e₁ :: e₂ :: e₃ :: e₄ :: rest) =
      textBody ((encodePoint (0x10000 + (high - 0xD800) * 0x400 + (low - 0xDC00))).reverse ++ seen)
        rest := by
  have hfirst : isLowSurrogate high = false := by
    simp only [isHighSurrogate, isLowSurrogate, Bool.and_eq_true, decide_eq_true_eq,
      Bool.and_eq_false_iff, decide_eq_false_iff_not] at hleads ⊢
    omega
  rw [textBody.eq_def]
  simp [hhigh, hlow, hleads, hfollows, hfirst]

/-- Any code unit is passed over. -/
theorem skipText_unit {d₁ d₂ d₃ d₄ : UInt8} {n : Nat} (h : codeUnit d₁ d₂ d₃ d₄ = some n)
    (rest : Bytes) :
    skipText (0x5C :: 0x75 :: d₁ :: d₂ :: d₃ :: d₄ :: rest) = skipText rest := by
  rw [skipText.eq_def]
  simp [h]

/-! ## Texts -/

theorem textBody_spelled {cs : List Char} {s : Bytes} (h : Spelled cs s) (seen rest : Bytes) :
    textBody seen (s ++ 0x22 :: rest) = .ok (seen.reverse ++ utf8 cs, rest) := by
  induction h generalizing seen with
  | nil =>
    rw [List.nil_append, textBody.eq_def]
    simp
  | plain hlow hquote hslash hs ih =>
    rw [List.append_assoc, textBody_plain (plain_of_mem_utf8EncodeChar hlow hquote hslash), ih]
    simp
  | letter he hs ih =>
    rw [List.cons_append, List.cons_append, textBody_letter he, ih, Text.utf8_cons,
      utf8EncodeChar_of_escaped he]
    simp
  | unit hn hlow hhigh hs ih =>
    simp only [List.cons_append]
    rw [textBody_unit hn hlow hhigh, ih, encodePoint]
    simp
  | pair hhigh hlow hleads hfollows hs ih =>
    simp only [List.cons_append]
    rw [textBody_pair hhigh hlow hleads hfollows, ih, encodePoint]
    simp

/-- A text is read behind its opening quote. -/
theorem textValue_spelled {t : String} {s : Bytes} (h : Spelled t.toList s) (rest : Bytes) :
    textValue (s ++ 0x22 :: rest) = .ok (t, rest) := by
  rw [textValue, textBody_spelled h, List.reverse_nil, List.nil_append, ← Text.bytes_eq_utf8]
  simp only [Text.ofBytes?_bytes]

/-- A text is passed over behind its opening quote. -/
theorem skipText_spelled {cs : List Char} {s : Bytes} (h : Spelled cs s) (rest : Bytes) :
    skipText (s ++ 0x22 :: rest) = .ok rest := by
  induction h with
  | nil =>
    rw [List.nil_append, skipText.eq_def]
    simp
  | plain hlow hquote hslash hs ih =>
    rw [List.append_assoc, skipText_plain (plain_of_mem_utf8EncodeChar hlow hquote hslash), ih]
  | letter he hs ih => rw [List.cons_append, List.cons_append, skipText_letter he, ih]
  | unit hn hlow hhigh hs ih =>
    simp only [List.cons_append]
    rw [skipText_unit hn, ih]
  | pair hhigh hlow hleads hfollows hs ih =>
    simp only [List.cons_append]
    rw [skipText_unit hhigh, skipText_unit hlow, ih]

/-! ## Written texts -/

/-- The digits of a control character stand for it. -/
theorem codeUnit_hexDigits : ∀ n < 0x20,
    codeUnit 0x30 0x30 (UInt8.ofNat (hexDigit (n / 16)).toNat)
      (UInt8.ofNat (hexDigit (n % 16)).toNat) = some n := by
  decide

theorem hexDigit_ascii : ∀ n < 16, (hexDigit n).toNat < 0x80 := by decide

/-- A character that has a letter is spelled with it. -/
theorem spelled_letter {c : Char} {e : UInt8} (hc : c.toNat < 0x80)
    (he : escaped e = some (UInt8.ofNat c.toNat)) {cs : List Char} {s : Bytes}
    (hs : Spelled cs s) : Spelled (c :: cs) (0x5C :: e :: s) := by
  have hletter := Spelled.letter he hs
  rwa [UInt8.toNat_ofNat_of_lt' (Nat.lt_trans hc (by decide)), Char.ofNat_toNat] at hletter

/-- What a character is written as spells it. -/
theorem spelled_escapeChar (c : Char) {cs : List Char} {s : Bytes} (hs : Spelled cs s) :
    Spelled (c :: cs) (utf8 (escapeChar c) ++ s) := by
  unfold escapeChar
  split
  -- Seven characters have a letter.
  iterate 7
    · next h =>
      refine spelled_letter ?_ ?_ hs
      · rw [h]
        decide
      · rw [h]
        rfl
  · next hquote hslash _ _ _ _ _ =>
    split
    · next hcontrol =>
      have hfirst := Text.utf8EncodeChar_of_ascii (hexDigit_ascii (c.toNat / 16) (by omega))
      have hsecond := Text.utf8EncodeChar_of_ascii (hexDigit_ascii (c.toNat % 16) (by omega))
      have hlow : isLowSurrogate c.toNat = false := by
        simp only [isLowSurrogate, Bool.and_eq_false_iff, decide_eq_false_iff_not]
        omega
      have hhigh : isHighSurrogate c.toNat = false := by
        simp only [isHighSurrogate, Bool.and_eq_false_iff, decide_eq_false_iff_not]
        omega
      have hunit := Spelled.unit (codeUnit_hexDigits c.toNat hcontrol) hlow hhigh hs
      rw [Char.ofNat_toNat] at hunit
      simp only [Text.utf8_cons, Text.utf8_nil, hfirst, hsecond]
      exact hunit
    · next hplain =>
      rw [Text.utf8_cons, Text.utf8_nil, List.append_nil]
      exact .plain (Nat.le_of_not_lt hplain) hquote hslash hs

/-- What a text is written as spells it. -/
theorem spelled_written (cs : List Char) : Spelled cs (utf8 (cs.flatMap escapeChar)) := by
  induction cs with
  | nil => exact .nil
  | cons c cs ih =>
    rw [List.flatMap_cons, Text.utf8_append]
    exact spelled_escapeChar c ih

/-- The bytes of a written text. -/
theorem utf8_writeText (s : String) :
    utf8 (writeText s) = 0x22 :: (utf8 (s.toList.flatMap escapeChar) ++ [0x22]) := by
  rw [writeText, Text.utf8_cons, Text.utf8_append]
  rfl

end Json
end ModelRegistry
