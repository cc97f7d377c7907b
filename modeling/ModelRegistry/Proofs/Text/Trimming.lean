import Mathlib.Data.List.DropRight
import ModelRegistry.Text.Blank

/-!
# Texts without the blanks around them

`Trimmed s t` says what it means that `t` is left of `s` when the blanks at its two ends are taken
away, without saying how that is done.  There is exactly one such text (`trimmed_iff`), and it is
empty for the texts that are nothing but blanks (`trim_eq_empty_iff`).
-/

namespace ModelRegistry
namespace Text

/-- The characters `t` stand between blanks in `s`, and begin and end with none. -/
structure Trimmed (s t : List Char) : Prop where
  between : ∃ front back, s = front ++ (t ++ back) ∧ (∀ c ∈ front, isBlank c = true) ∧
    ∀ c ∈ back, isBlank c = true
  first : ∀ c, t.head? = some c → isBlank c = false
  last : ∀ c, t.getLast? = some c → isBlank c = false

theorem toList_trim (s : String) :
    (trim s).toList = (s.toList.dropWhile isBlank).rdropWhile isBlank := String.toList_ofList

/-- What begins with no blank stays when the blanks before it are dropped. -/
theorem dropWhile_eq_self_of_first {t : List Char}
    (h : ∀ c, t.head? = some c → isBlank c = false) : t.dropWhile isBlank = t := by
  cases t with
  | nil => rfl
  | cons c t => rw [List.dropWhile_cons_of_neg (by simp [h c rfl])]

theorem rdropWhile_eq_self_of_last {t : List Char}
    (h : ∀ c, t.getLast? = some c → isBlank c = false) : t.rdropWhile isBlank = t := by
  rw [List.rdropWhile_eq_self_iff]
  intro hne
  simp [h _ (List.getLast?_eq_some_getLast hne)]

theorem trimmed_trim (s : String) : Trimmed s.toList (trim s).toList := by
  rw [toList_trim]
  refine ⟨⟨s.toList.takeWhile isBlank, (s.toList.dropWhile isBlank).rtakeWhile isBlank, ?_,
    fun c hc => List.mem_takeWhile_imp hc, fun c hc => List.mem_rtakeWhile_imp hc⟩, ?_, ?_⟩
  · rw [List.rdropWhile_append_rtakeWhile, List.takeWhile_append_dropWhile]
  · intro c hc
    obtain ⟨back, hback⟩ := List.rdropWhile_prefix isBlank (l := s.toList.dropWhile isBlank)
    have hhead : (s.toList.dropWhile isBlank).head? = some c := by
      rw [← hback, List.head?_append, hc]
      rfl
    have hnot := List.head?_dropWhile_not isBlank s.toList
    rw [hhead] at hnot
    exact hnot
  · intro c hc
    have hne : (s.toList.dropWhile isBlank).rdropWhile isBlank ≠ [] := by
      rintro heq
      rw [heq] at hc
      cases hc
    rw [List.getLast?_eq_some_getLast hne] at hc
    obtain rfl := Option.some.inj hc
    exact Bool.eq_false_iff.2 (List.rdropWhile_last_not isBlank _ hne)

/-- What is left is determined. -/
theorem Trimmed.eq_trim {s : String} {t : List Char} (h : Trimmed s.toList t) :
    t = (trim s).toList := by
  obtain ⟨⟨front, back, heq, hfront, hback⟩, hfirst, hlast⟩ := h
  rw [toList_trim, heq, List.dropWhile_append_of_pos hfront]
  cases t with
  | nil => simp [List.dropWhile_eq_nil_iff.2 hback]
  | cons c t =>
    have hkept : (c :: t ++ back).dropWhile isBlank = c :: t ++ back :=
      dropWhile_eq_self_of_first hfirst
    have hdropped : (c :: t ++ back).rdropWhile isBlank = (c :: t).rdropWhile isBlank := by
      rw [List.rdropWhile, List.reverse_append, List.dropWhile_append_of_pos (by simpa using hback)]
      rfl
    rw [hkept, hdropped, rdropWhile_eq_self_of_last hlast]

theorem trimmed_iff {s t : String} : Trimmed s.toList t.toList ↔ t = trim s := by
  constructor
  · intro h
    exact String.toList_inj.1 h.eq_trim
  · rintro rfl
    exact trimmed_trim s

/-- Nothing is left of a text that is nothing but blanks, and of no other. -/
theorem trim_eq_empty_iff {s : String} : trim s = "" ↔ ∀ c ∈ s.toList, isBlank c = true := by
  rw [eq_comm, ← trimmed_iff]
  constructor
  · rintro ⟨⟨front, back, heq, hfront, hback⟩, -, -⟩ c hc
    rw [heq, String.toList_empty, List.nil_append, List.mem_append] at hc
    exact hc.elim (hfront c) (hback c)
  · intro h
    exact ⟨⟨s.toList, [], by simp, h, by simp⟩, by simp, by simp⟩

end Text
end ModelRegistry
