import ModelRegistry.Json.Scalar

/-!
# Reading makes progress

Every lexical reader leaves fewer bytes unread than it was given, and skipping blanks leaves no
more.  Loops over members and elements end because of these bounds.
-/

namespace ModelRegistry
namespace Json

theorem skipBlank_le (s : Bytes) : (skipBlank s).length ≤ s.length := by
  induction s with
  | nil => simp [skipBlank]
  | cons b r ih =>
    unfold skipBlank
    split
    · simp only [List.length_cons]; omega
    · simp

theorem word_le {w s r : Bytes} (h : word w s = .ok r) : r.length ≤ s.length := by
  fun_induction word w s with
  | case1 s => cases h; simp
  | case2 => simp [stop] at h
  | case3 es b t ih =>
    have := ih h
    simp only [List.length_cons]; omega
  | case4 => simp [stop] at h

theorem textBody_lt {seen s v r : Bytes} (h : textBody seen s = .ok (v, r)) :
    r.length < s.length := by
  fun_induction textBody seen s <;>
    first
      | (rename_i ih; have := ih h; simp only [List.length_cons] at *; omega)
      | (cases h; exact Nat.lt_succ_self _)
      | simp [stop] at h

theorem textValue_lt {s r : Bytes} {t : String} (h : textValue s = .ok (t, r)) :
    r.length < s.length := by
  unfold textValue at h
  split at h
  · cases h
  · next heq =>
    split at h
    · cases h; exact textBody_lt heq
    · simp [stop] at h

theorem skipText_lt {s r : Bytes} (h : skipText s = .ok r) : r.length < s.length := by
  fun_induction skipText s <;>
    first
      | (rename_i ih; have := ih h; simp only [List.length_cons] at *; omega)
      | (cases h; exact Nat.lt_succ_self _)
      | simp [stop] at h

theorem digitRun_le (s : Bytes) : (digitRun s).2.length ≤ s.length := by
  simpa [digitRun] using (List.dropWhile_sublist isDigit).length_le

theorem digitRun_cons_lt {b : UInt8} {r : Bytes} (hb : isDigit b = true) :
    (digitRun (b :: r)).2.length < (b :: r).length := by
  have := (List.dropWhile_sublist (l := r) isDigit).length_le
  simp only [digitRun, List.dropWhile_cons, hb, if_true, List.length_cons]
  omega

theorem wholePart_lt {cut : Fault} {s r : Bytes} {ds : List Nat}
    (h : wholePart cut s = .ok (ds, r)) : r.length < s.length := by
  unfold wholePart at h
  split at h
  · simp [stop] at h
  · split at h
    · split at h
      · split at h
        · simp [stopAt] at h
        · cases h; simp
      · cases h; simp
    · split at h
      · next hb =>
        have := digitRun_cons_lt (r := ‹Bytes›) hb
        cases h; exact this
      · simp [stop] at h

theorem fractionPart_le {cut : Fault} {s r : Bytes} {ds : Option (List Nat)}
    (h : fractionPart cut s = .ok (ds, r)) : r.length ≤ s.length := by
  unfold fractionPart at h
  split at h
  · split at h
    · split at h
      · simp [stop] at h
      · next d t =>
        split at h
        · have := digitRun_le (d :: t)
          cases h
          simp only [List.length_cons] at this ⊢; omega
        · simp [stopAt] at h
    · cases h; simp
  · cases h; simp

theorem exponentSign_le (s : Bytes) : (exponentSign s).2.length ≤ s.length := by
  unfold exponentSign
  split
  · simp
  · split
    · simp
    · split <;> simp

theorem exponentPart_le {cut : Fault} {s r : Bytes} {e : Option (Bool × List Nat)}
    (h : exponentPart cut s = .ok (e, r)) : r.length ≤ s.length := by
  unfold exponentPart at h
  split at h
  · next b t =>
    split at h
    · have hs := exponentSign_le t
      split at h
      · simp [stop] at h
      · next d u heq =>
        split at h
        · have := digitRun_le (d :: u)
          cases h
          rw [heq] at hs
          simp only [List.length_cons] at *; omega
        · simp [stop] at h
    · cases h; simp
  · cases h; simp

theorem numberParts_lt {cut : Fault} {negative : Bool} {s r : Bytes} {x : Numeral}
    (h : numberParts cut negative s = .ok (x, r)) : r.length < s.length := by
  unfold numberParts at h
  split at h
  · cases h
  · next hw =>
    split at h
    · cases h
    · next hf =>
      split at h
      · cases h
      · next he =>
        cases h
        have h1 := wholePart_lt hw
        have h2 := fractionPart_le hf
        have h3 := exponentPart_le he
        omega

theorem numberValue_lt {negative : Bool} {s r : Bytes} {n : Number}
    (h : numberValue negative s = .ok (n, r)) : r.length < s.length := by
  unfold numberValue at h
  split at h
  · cases h
  · next hp =>
    split at h
    · cases h; exact numberParts_lt hp
    · simp at h

/-- A found scalar has been read; a found array or object has not been entered. -/
theorem foundAt_lt {s r : Bytes} {f : Found} (h : foundAt s = .ok (f, r)) :
    r.length < s.length ∨ ((f = .array ∨ f = .object) ∧ r = s) := by
  unfold foundAt at h
  split at h
  · simp [stop] at h
  · next b t =>
    repeat' split at h
    all_goals first
      | (cases h; simp)
      | (simp only [Except.map] at h
         split at h
         · cases h
         · next heq =>
           cases h
           left
           first
             | (have hle := word_le heq; simp only [List.length_cons]; omega)
             | (have hle := numberValue_lt heq; simp only [List.length_cons] at *; omega)
             | (have hle := textValue_lt heq; simp only [List.length_cons]; omega))
      | simp [stopAt] at h

theorem skipScalar_lt {s r : Bytes} (h : skipScalar s = .ok r) : r.length < s.length := by
  unfold skipScalar at h
  split at h
  · simp [stop] at h
  · next b t =>
    repeat' split at h
    all_goals first
      | (have hle := word_le h; simp only [List.length_cons]; omega)
      | (have hle := skipText_lt h; simp only [List.length_cons]; omega)
      | (simp only [Except.map] at h
         split at h
         · cases h
         · next heq =>
           cases h
           have := numberParts_lt heq
           simp only [List.length_cons] at *; omega)
      | simp [stopAt] at h

end Json
end ModelRegistry
