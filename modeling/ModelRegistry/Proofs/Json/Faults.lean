import ModelRegistry.Json.Fault
import ModelRegistry.Proofs.Decimal.Length
import ModelRegistry.Proofs.Text.Utf8

/-!
# What a fault can say

A fault of the shape names what was found and what was expected.  What was found stands in the
document: a text there is no longer than the document, an integer has at most 64 bits, and the text
of a double is short however it was written.  What was expected comes from the schema.  So the words
of a fault are at most ten times as long as the document and a little more
(`Fault.length_message_le`), ten being what a hidden character takes in quotes.

That what readers report is within these bounds is the subject of `Proofs.Json.Bounds`.
-/

namespace ModelRegistry

/-- An integer of 64 bits or a double in range. -/
def Number.Bounded : Number → Prop
  | integer z => z.natAbs < UInt64.size
  | real _ x => x.InRange

/-- What was found stands in a document of `n` bytes. -/
def Found.Within (n : Nat) : Found → Prop
  | text t => t.length ≤ n
  | number x => x.Bounded
  | _ => True

namespace Text

/-- A character is at most a backslash, a letter, two braces and six digits in quotes. -/
theorem length_quotedChar_le (c : Char) : (quotedChar c).length ≤ 10 := by
  have hpoint : c.toNat < 16 ^ 6 := by
    rcases c.valid with hlow | ⟨-, hhigh⟩
    · exact Nat.lt_trans hlow (by decide)
    · exact Nat.lt_trans hhigh (by decide)
  have hdigits : (hexDigits c.toNat).length ≤ 6 :=
    (Nat.length_toDigits_le_iff (by decide) (by decide)).2 hpoint
  unfold quotedChar
  split
  iterate 6
    · show 2 ≤ 10
      decide
  · split
    · rw [List.length_append, List.length_append]
      show 3 + _ + 1 ≤ 10
      omega
    · show 1 ≤ 10
      decide

theorem length_quoted_le (s : String) : (quoted s).length ≤ 10 * s.length + 2 := by
  have hchars := length_flatMap_le length_quotedChar_le s.toList
  rw [quoted, String.length_ofList, List.length_cons, List.length_append, List.length_singleton,
    ← String.length_toList]
  omega

end Text

/-! ## The words of a fault -/

theorem length_toString_nat_le (n : Nat) : (toString n).length ≤ n + 1 := by
  rw [Nat.toString_eq_repr, ← String.length_toList, Nat.toList_repr]
  have hpow : n < 10 ^ (n + 1) := Nat.lt_of_lt_of_le n.lt_two_pow_self
    (Nat.le_trans (Nat.pow_le_pow_left (by decide) n) (Nat.pow_le_pow_right (by decide) n.le_succ))
  exact (Nat.length_toDigits_le_iff (by decide) n.succ_pos).2 hpow

theorem length_toString_int_le {z : Int} (h : z.natAbs < UInt64.size) :
    (toString z).length ≤ 21 := by
  have hdigits {n : Nat} (hn : n < UInt64.size) : (toString n).length ≤ 20 := by
    rw [Nat.toString_eq_repr, ← String.length_toList, Nat.toList_repr]
    exact (Nat.length_toDigits_le_iff (by decide) (by decide)).2 (Nat.lt_trans hn (by decide))
  cases z with
  | ofNat n => exact Nat.le_succ_of_le (hdigits h)
  | negSucc n =>
    show ("-" ++ toString (n + 1)).length ≤ 21
    rw [String.length_append]
    exact Nat.add_le_add (Nat.le_refl 1) (hdigits h)

theorem Found.length_describe_le {n : Nat} {f : Found} (h : f.Within n) :
    f.describe.length ≤ 10 * n + 720 := by
  have hshort {k : Nat} (hk : k ≤ 720) : k ≤ 10 * n + 720 := Nat.le_add_left_of_le hk
  cases f with
  | null | array | object => exact hshort (by decide)
  | flag b => cases b <;> exact hshort (by decide)
  | number x =>
    cases x with
    | integer z =>
      have hz : (toString z).length ≤ 21 := length_toString_int_le h
      refine hshort ?_
      show ("integer `" ++ toString z ++ "`").length ≤ 720
      rw [String.length_append, String.length_append]
      show 9 + _ + 1 ≤ 720
      omega
    | real negative x =>
      have hx : (x.text negative).length ≤ 694 := Binary64.InRange.length_text_le h negative
      refine hshort ?_
      show ("floating point `" ++ x.text negative ++ "`").length ≤ 720
      rw [String.length_append, String.length_append]
      show 16 + _ + 1 ≤ 720
      omega
  | text t =>
    have ht : t.length ≤ n := h
    have hquoted := Text.length_quoted_le t
    show ("string " ++ Text.quoted t).length ≤ _
    rw [String.length_append]
    show 7 + _ ≤ _
    omega

namespace Json

/-- How many characters a schema puts into a message at most, and how many fields it has. -/
def schemaRoom : Nat := 400

/-- What a fault names stands in a document of `n` bytes or comes from a schema. -/
def Fault.Within (n : Nat) : Fault → Prop
  | wrongType found expected => found.Within n ∧ expected.length ≤ schemaRoom
  | outOfRange value expected => value.natAbs < UInt64.size ∧ expected.length ≤ schemaRoom
  | wrongLength length expected => length ≤ n + schemaRoom ∧ expected.length ≤ schemaRoom
  | missingField name => name.length ≤ schemaRoom
  | duplicateField name => name.length ≤ schemaRoom
  | unknownVariant name known =>
    name.length ≤ n ∧ (alternatives known).length ≤ schemaRoom
  | _ => True

/-- A fault of the grammar names nothing. -/
theorem Fault.within_of_kind_ne {f : Fault} (h : f.kind ≠ .mismatch) (n : Nat) : f.Within n := by
  cases f <;> trivial

theorem Fault.length_ticked (name : String) : (ticked name).length = name.length + 2 := by
  rw [ticked, String.length_append, String.length_append]
  show 1 + _ + 1 = _
  omega

theorem length_intercalate_le {k : Nat} (separator : String) {names : List String}
    (h : ∀ name ∈ names, name.length ≤ k) :
    (separator.intercalate names).length ≤ names.length * (k + separator.length) := by
  induction names with
  | nil =>
    rw [String.intercalate_nil]
    exact Nat.zero_le _
  | cons name names ih =>
    obtain ⟨hname, hnames⟩ := List.forall_mem_cons.1 h
    have hrest := ih hnames
    cases names with
    | nil =>
      rw [String.intercalate_singleton, List.length_singleton]
      omega
    | cons next names =>
      rw [String.intercalate_cons_cons, String.length_append, String.length_append,
        List.length_cons, Nat.succ_mul]
      omega

/-- A list of alternatives is as long as its names and the words between them. -/
theorem Fault.length_alternatives_le {k : Nat} {names : List String}
    (h : ∀ name ∈ names, name.length ≤ k) :
    (alternatives names).length ≤ names.length * (k + 4) + 24 := by
  match names, h with
  | [], _ => exact Nat.le_add_left_of_le (by decide)
  | [a], h =>
    have ha := h a List.mem_cons_self
    show ("expected " ++ ticked a).length ≤ 1 * (k + 4) + 24
    rw [String.length_append, length_ticked]
    show 9 + (a.length + 2) ≤ _
    omega
  | [a, b], h =>
    obtain ⟨ha, hb⟩ := List.forall_mem_cons.1 h
    have hb := hb b List.mem_cons_self
    show ("expected " ++ ticked a ++ " or " ++ ticked b).length ≤ 2 * (k + 4) + 24
    simp only [String.length_append, length_ticked]
    show 9 + (a.length + 2) + 4 + (b.length + 2) ≤ _
    omega
  | a :: b :: c :: names, h =>
    have hticked : ∀ name ∈ (a :: b :: c :: names).map ticked, name.length ≤ k + 2 := by
      intro name hname
      obtain ⟨a, ha, rfl⟩ := List.mem_map.1 hname
      rw [length_ticked]
      exact Nat.add_le_add_right (h a ha) 2
    have hjoined : (", ".intercalate ((a :: b :: c :: names).map ticked)).length ≤
        (a :: b :: c :: names).length * (k + 4) := by
      rw [← List.length_map ticked]
      exact length_intercalate_le ", " hticked
    show ("expected one of " ++ ", ".intercalate ((a :: b :: c :: names).map ticked)).length ≤ _
    rw [String.length_append]
    show 16 + _ ≤ _
    omega

/-- The words of a fault are at most ten times as long as the document and a little more. -/
theorem Fault.length_message_le {n : Nat} {f : Fault} (h : f.Within n) :
    f.message.length ≤ 10 * n + 1200 := by
  have hroom : schemaRoom = 400 := rfl
  cases f with
  | wrongType found expected =>
    obtain ⟨hfound, hexpected⟩ := h
    have hdescribe := Found.length_describe_le hfound
    show ("invalid type: " ++ found.describe ++ ", expected " ++ expected).length ≤ _
    simp only [String.length_append]
    show 14 + found.describe.length + 11 + expected.length ≤ 10 * n + 1200
    omega
  | outOfRange value expected =>
    obtain ⟨hvalue, hexpected⟩ := h
    have hdigits := length_toString_int_le hvalue
    show ("invalid value: integer `" ++ toString value ++ "`, expected " ++ expected).length ≤ _
    simp only [String.length_append]
    show 24 + (toString value).length + 12 + expected.length ≤ 10 * n + 1200
    omega
  | wrongLength length expected =>
    obtain ⟨hlength, hexpected⟩ := h
    have hdigits := length_toString_nat_le length
    show ("invalid length " ++ toString length ++ ", expected " ++ expected).length ≤ _
    simp only [String.length_append]
    show 15 + (toString length).length + 11 + expected.length ≤ 10 * n + 1200
    omega
  | missingField name =>
    have hname : name.length ≤ schemaRoom := h
    show ("missing field " ++ ticked name).length ≤ _
    rw [String.length_append, length_ticked]
    show 14 + (name.length + 2) ≤ 10 * n + 1200
    omega
  | duplicateField name =>
    have hname : name.length ≤ schemaRoom := h
    show ("duplicate field " ++ ticked name).length ≤ _
    rw [String.length_append, length_ticked]
    show 16 + (name.length + 2) ≤ 10 * n + 1200
    omega
  | unknownVariant name known =>
    obtain ⟨hname, hknown⟩ := h
    show ("unknown variant " ++ ticked name ++ ", " ++ alternatives known).length ≤ _
    simp only [String.length_append, length_ticked]
    show 16 + (name.length + 2) + 2 + (alternatives known).length ≤ 10 * n + 1200
    omega
  | _ => exact Nat.le_add_left_of_le (by decide)

end Json
end ModelRegistry
