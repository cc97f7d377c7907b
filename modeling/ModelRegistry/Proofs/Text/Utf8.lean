import ModelRegistry.Text.Bytes

/-!
# UTF-8, character by character

`Text.bytes` is given by the library's byte arrays.  For proofs about what is written, `Text.utf8`
gives the same bytes as the concatenation of those of the characters (`bytes_eq_utf8`): an ASCII
character is one byte, its number, and every other one consists of bytes from 0x80 on.
-/

namespace ModelRegistry
namespace Text

/-- The UTF-8 form of some characters. -/
def utf8 (cs : List Char) : Bytes := cs.flatMap String.utf8EncodeChar

@[simp] theorem utf8_nil : utf8 [] = [] := rfl

@[simp] theorem utf8_cons (c : Char) (cs : List Char) :
    utf8 (c :: cs) = String.utf8EncodeChar c ++ utf8 cs := List.flatMap_cons

@[simp] theorem utf8_append (cs ds : List Char) : utf8 (cs ++ ds) = utf8 cs ++ utf8 ds :=
  List.flatMap_append

theorem bytes_eq_utf8 (s : String) : bytes s = utf8 s.toList := by
  rw [bytes, String.toUTF8_eq_toByteArray, ← String.utf8Encode_toList, List.utf8Encode,
    List.toList_data_toByteArray, utf8]

theorem bytes_ofList (cs : List Char) : bytes (String.ofList cs) = utf8 cs := by
  rw [bytes_eq_utf8, String.toList_ofList]

theorem bytes_append (s t : String) : bytes (s ++ t) = bytes s ++ bytes t := by
  simp only [bytes_eq_utf8, String.toList_append, utf8_append]

/-- What is read from bytes is written with these bytes. -/
theorem bytes_of_ofBytes? {bs : Bytes} {t : String} (h : ofBytes? bs = some t) : bytes t = bs := by
  unfold ofBytes? String.fromUTF8? at h
  split at h
  · cases h
    rfl
  · cases h

theorem length_le_length_utf8 (cs : List Char) : cs.length ≤ (utf8 cs).length := by
  induction cs with
  | nil => exact Nat.le_refl 0
  | cons c cs ih =>
    have hc := c.utf8Size_pos
    rw [utf8_cons, List.length_cons, List.length_append, String.length_utf8EncodeChar]
    omega

/-- A bound on what each element gives bounds what all of them give. -/
theorem length_flatMap_le {α β : Type} {f : α → List β} {k : Nat} (h : ∀ a, (f a).length ≤ k)
    (as : List α) : (as.flatMap f).length ≤ k * as.length := by
  induction as with
  | nil => exact Nat.le_refl 0
  | cons a as ih =>
    have ha := h a
    rw [List.flatMap_cons, List.length_append, List.length_cons, Nat.mul_succ]
    omega

/-- A text has no more characters than bytes. -/
theorem length_le_length_bytes (s : String) : s.length ≤ (bytes s).length := by
  rw [bytes_eq_utf8, ← String.length_toList]
  exact length_le_length_utf8 s.toList

/-- A text takes at most four bytes for each character. -/
theorem length_bytes_le (s : String) : (bytes s).length ≤ 4 * s.length := by
  have hchar (c : Char) : (String.utf8EncodeChar c).length ≤ 4 := by
    rw [String.length_utf8EncodeChar]
    exact c.utf8Size_le_four
  rw [bytes_eq_utf8, ← String.length_toList]
  exact length_flatMap_le hchar s.toList

/-- An ASCII character is one byte. -/
theorem utf8EncodeChar_of_ascii {c : Char} (h : c.toNat < 0x80) :
    String.utf8EncodeChar c = [UInt8.ofNat c.toNat] := by
  rw [String.utf8EncodeChar]
  exact if_pos (Nat.le_of_lt_succ h)

/-- The bytes of every other character are beyond ASCII. -/
theorem le_of_mem_utf8EncodeChar {c : Char} (h : 0x80 ≤ c.toNat) {b : UInt8}
    (hb : b ∈ String.utf8EncodeChar c) : 0x80 ≤ b := by
  have hofNat {n : Nat} (hlow : 0x80 ≤ n) (hhigh : n < 0x100) : (0x80 : UInt8) ≤ UInt8.ofNat n := by
    rw [UInt8.le_iff_toNat_le, UInt8.toNat_ofNat_of_lt' hhigh]
    exact hlow
  have hlong : ¬ c.val.toNat ≤ 0x7f := Nat.not_le_of_lt h
  rw [String.utf8EncodeChar, if_neg hlong] at hb
  split at hb
  · simp only [List.mem_cons, List.not_mem_nil, or_false] at hb
    rcases hb with rfl | rfl <;> exact hofNat (by omega) (by omega)
  · split at hb
    · simp only [List.mem_cons, List.not_mem_nil, or_false] at hb
      rcases hb with rfl | rfl | rfl <;> exact hofNat (by omega) (by omega)
    · simp only [List.mem_cons, List.not_mem_nil, or_false] at hb
      rcases hb with rfl | rfl | rfl | rfl <;> exact hofNat (by omega) (by omega)

/-- The byte of an ASCII character is found exactly where the character is. -/
theorem ofNat_mem_utf8_iff {c : Char} (hc : c.toNat < 0x80) {cs : List Char} :
    UInt8.ofNat c.toNat ∈ utf8 cs ↔ c ∈ cs := by
  have hbyte {n : Nat} (hn : n < 0x80) : (UInt8.ofNat n).toNat = n :=
    UInt8.toNat_ofNat_of_lt' (Nat.lt_trans hn (by decide))
  rw [utf8, List.mem_flatMap]
  constructor
  · rintro ⟨d, hd, hmem⟩
    rcases Nat.lt_or_ge d.toNat 0x80 with hlow | hhigh
    · rw [utf8EncodeChar_of_ascii hlow, List.mem_singleton] at hmem
      have hsame := congrArg UInt8.toNat hmem
      rw [hbyte hc, hbyte hlow] at hsame
      rwa [Char.toNat_inj.1 hsame]
    · have hle := UInt8.le_iff_toNat_le.1 (le_of_mem_utf8EncodeChar hhigh hmem)
      rw [hbyte hc] at hle
      exact absurd hc (Nat.not_lt_of_le hle)
  · intro hmem
    refine ⟨c, hmem, ?_⟩
    rw [utf8EncodeChar_of_ascii hc]
    exact List.mem_singleton_self _

/-- The characters of an ASCII text are its bytes. -/
theorem utf8_of_ascii {cs : List Char} (h : ∀ c ∈ cs, c.toNat < 0x80) :
    utf8 cs = cs.map fun c => UInt8.ofNat c.toNat := by
  induction cs with
  | nil => rfl
  | cons c cs ih =>
    obtain ⟨hc, hcs⟩ := List.forall_mem_cons.1 h
    rw [utf8_cons, utf8EncodeChar_of_ascii hc, ih hcs]
    rfl

end Text
end ModelRegistry
