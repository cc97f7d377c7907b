import ModelRegistry.Proofs.Json.Readers

/-!
# Written values are passed over

A value nobody asked for is passed over without recursion: what has begun and not ended is kept on a
stack of brackets.  Passing over one value is therefore no call that returns; it leads to the place
behind the value with the same stack, where `resume` goes on.  With this the induction over nested
values has an equation to work with, `skipFrom_written`, and a value with nothing around it is the
case of the empty stack.
-/

namespace ModelRegistry
namespace Json

open Reader (Bracket skipFrom skipStep skipAfter skipName)

/-- Go on behind a value. -/
def resume (outer : List Bracket) (s : Bytes) : Except Failure (Unit × Bytes) :=
  match skipAfter outer s with
  | .error failure => .error failure
  | .ok ([], r) => .ok ((), r)
  | .ok (bracket :: outer, r) => skipFrom (bracket :: outer) r

/-- Where a step only closes what ends, the run goes on behind the value. -/
theorem skipFrom_of_step {outer : List Bracket} {s t : Bytes}
    (h : skipStep outer s = skipAfter outer t) : skipFrom outer s = resume outer t := by
  rw [skipFrom, resume, ← h]
  split
  · next heq => simp only [heq]
  · next heq => simp only [heq]
  · next heq => simp only [heq]

/-- A step that enters an array or object goes on inside. -/
theorem skipFrom_of_enter {outer : List Bracket} {bracket : Bracket} {s t : Bytes}
    (h : skipStep outer s = .ok (bracket :: outer, t)) :
    skipFrom outer s = skipFrom (bracket :: outer) t := by
  rw [skipFrom]
  split
  · next heq => rw [h] at heq; cases heq
  · next heq => rw [h] at heq; cases heq
  · next heq => rw [h] at heq; cases heq; rfl

/-- A value is passed over, however it is written and whatever is open around it. -/
def Passes (j : Json) : Prop :=
  ∀ ⦃w s rest : Bytes⦄, Blanks w → Written j s → Delimited rest →
    ∀ outer, skipFrom outer (w ++ (s ++ rest)) = resume outer rest

/-! ## Scalars -/

theorem skipScalar_written {j : Json} (hj : IsScalar j) {s rest : Bytes} (hs : Written j s)
    (hrest : Delimited rest) : skipScalar (s ++ rest) = .ok rest := by
  cases hs with
  | null | on | off => rfl
  | number hs hn => exact skipScalar_numeral hs hrest
  | text hs =>
    rw [List.cons_append, List.append_assoc]
    exact skipText_spelled hs rest
  | array | object => exact hj.elim

/-- A scalar does not begin like an array or object. -/
theorem IsScalar.exists_cons {j : Json} (hj : IsScalar j) {s : Bytes} (hs : Written j s) :
    ∃ b t, s = b :: t ∧ b ≠ 0x5B ∧ b ≠ 0x7B := by
  cases hs with
  | number hs hn =>
    cases hs with
    | positive hsign hs =>
      obtain ⟨d, t, rfl, hd⟩ := hs.exists_cons
      exact ⟨d, t, rfl, ne_of_isDigit hd rfl, ne_of_isDigit hd rfl⟩
    | negative hsign hs => exact ⟨0x2D, _, rfl, by decide, by decide⟩
  | array | object => exact hj.elim
  | _ => exact ⟨_, _, rfl, by decide, by decide⟩

theorem passes_scalar {j : Json} (hj : IsScalar j) : Passes j := by
  intro w s rest hw hs hrest outer
  have hblank := skipBlank_written hw hs rest
  have hscalar := skipScalar_written hj hs hrest
  obtain ⟨b, t, rfl, harray, hobject⟩ := hj.exists_cons hs
  apply skipFrom_of_step
  rw [skipStep, hblank]
  rw [List.cons_append] at hscalar ⊢
  simp only [if_neg harray, if_neg hobject, hscalar]

/-! ## Arrays and objects -/

theorem skipAfter_array {w : Bytes} (hw : Blanks w) (outer : List Bracket) (rest : Bytes) :
    skipAfter (.array :: outer) (w ++ 0x5D :: rest) = skipAfter outer rest := by
  rw [skipAfter, skipBlank_stop hw (rfl : isBlank 0x5D = false)]
  rfl

theorem skipAfter_item {w : Bytes} (hw : Blanks w) (outer : List Bracket) (rest : Bytes) :
    skipAfter (.array :: outer) (w ++ 0x2C :: rest) = .ok (.array :: outer, rest) := by
  rw [skipAfter, skipBlank_stop hw (rfl : isBlank 0x2C = false)]
  rfl

theorem skipAfter_object {w : Bytes} (hw : Blanks w) (outer : List Bracket) (rest : Bytes) :
    skipAfter (.object :: outer) (w ++ 0x7D :: rest) = skipAfter outer rest := by
  rw [skipAfter, skipBlank_stop hw (rfl : isBlank 0x7D = false)]
  rfl

theorem skipName_written {name : String} {w k v : Bytes} (hw : Blanks w)
    (hname : Spelled name.toList k) (hv : Blanks v) (rest : Bytes) :
    skipName (w ++ 0x22 :: (k ++ 0x22 :: (v ++ 0x3A :: rest))) = .ok rest := by
  rw [skipName, skipBlank_stop hw (rfl : isBlank 0x22 = false)]
  simp only [if_true, skipText_spelled hname, colon_written hv]

theorem skipAfter_member {name : String} {u w k v : Bytes} (hu : Blanks u) (hw : Blanks w)
    (hname : Spelled name.toList k) (hv : Blanks v) (outer : List Bracket) (rest : Bytes) :
    skipAfter (.object :: outer)
        (u ++ 0x2C :: (w ++ 0x22 :: (k ++ 0x22 :: (v ++ 0x3A :: rest)))) =
      .ok (.object :: outer, rest) := by
  rw [skipAfter, skipBlank_stop hu (rfl : isBlank 0x2C = false)]
  show (skipName _).map _ = _
  rw [skipName_written hw hname hv]
  rfl

/-- Items are passed over up to the end of their array. -/
theorem skipFrom_items {items : List Json} (hitems : ∀ j ∈ items, Passes j)
    (hne : items ≠ []) {s : Bytes} (hs : WrittenItems items s) (outer : List Bracket)
    (rest : Bytes) :
    skipFrom (.array :: outer) (s ++ 0x5D :: rest) = resume outer rest := by
  induction items generalizing s with
  | nil => exact (hne rfl).elim
  | cons j items ih =>
    obtain ⟨hj, hitems⟩ := List.forall_mem_cons.1 hitems
    cases hs with
    | last hw hs hv =>
      have hclose : Delimited (0x5D :: rest) := delimited_cons rest (.inr (.inl rfl))
      have hdelimited := hclose.blanks hv
      rw [List.append_assoc, List.append_assoc, hj hw hs hdelimited, resume, skipAfter_array hv,
        resume]
    | @cons _ next items w s v later hw hs hv hlater =>
      have hdelimited := (delimited_cons (later ++ 0x5D :: rest) (.inl rfl)).blanks hv
      rw [List.append_assoc, List.append_assoc, List.append_assoc, List.cons_append,
        hj hw hs hdelimited, resume, skipAfter_item hv]
      exact ih hitems (by simp) hlater

/-- Members are passed over up to the end of their object, from behind the first colon on. -/
theorem skipFrom_members {m : String × Json} {ms : List (String × Json)}
    (hms : ∀ m' ∈ m :: ms, Passes m'.2)
    {s : Bytes} (hs : WrittenMembers (m :: ms) s) (outer : List Bracket) (rest : Bytes) :
    ∃ (w k v t : Bytes) (name : String), Blanks w ∧ Spelled name.toList k ∧ Blanks v ∧
      s ++ 0x7D :: rest = w ++ 0x22 :: (k ++ 0x22 :: (v ++ 0x3A :: t)) ∧
      skipFrom (.object :: outer) t = resume outer rest := by
  induction ms generalizing m s with
  | nil =>
    obtain ⟨hm, -⟩ := List.forall_mem_cons.1 hms
    cases hs with
    | @last _ w s v hw hs hv =>
      obtain @⟨name, value, k, u, x, s, hname, hcolon, hblank, hs⟩ := hs
      have hclose : Delimited (0x7D :: rest) := delimited_cons rest (.inr (.inr rfl))
      have hdelimited := hclose.blanks hv
      refine ⟨w, k, u, x ++ (s ++ (v ++ 0x7D :: rest)), name, hw, hname, hcolon, ?_, ?_⟩
      · simp only [List.append_assoc, List.cons_append]
      · rw [hm hblank hs hdelimited, resume, skipAfter_object hv, resume]
  | cons next ms ih =>
    obtain ⟨hm, hlaterMs⟩ := List.forall_mem_cons.1 hms
    cases hs with
    | @cons _ _ _ w s v later hw hs hv hlater =>
      obtain @⟨name, value, k, u, x, s, hname, hcolon, hblank, hs⟩ := hs
      have hdelimited := (delimited_cons (later ++ 0x7D :: rest) (.inl rfl)).blanks hv
      obtain ⟨w', k', u', t', name', hw', hname', hu', hbytes, hskip⟩ := ih hlaterMs hlater
      refine ⟨w, k, u, x ++ (s ++ (v ++ 0x2C :: (later ++ 0x7D :: rest))), name, hw, hname, hcolon,
        ?_, ?_⟩
      · simp only [List.append_assoc, List.cons_append]
      · rw [hm hblank hs hdelimited, resume, hbytes, skipAfter_member hv hw' hname' hu']
        exact hskip

/-! ## Any value -/

theorem skipStep_array {outer : List Bracket} {w v : Bytes} (hw : Blanks w) (hv : Blanks v)
    (rest : Bytes) :
    skipStep outer (w ++ 0x5B :: (v ++ 0x5D :: rest)) = skipAfter outer rest := by
  rw [skipStep, skipBlank_stop hw (rfl : isBlank 0x5B = false)]
  simp only [if_true, skipBlank_stop hv (rfl : isBlank 0x5D = false)]

theorem skipStep_object {outer : List Bracket} {w v : Bytes} (hw : Blanks w) (hv : Blanks v)
    (rest : Bytes) :
    skipStep outer (w ++ 0x7B :: (v ++ 0x7D :: rest)) = skipAfter outer rest := by
  rw [skipStep, skipBlank_stop hw (rfl : isBlank 0x7B = false)]
  simp only [skipBlank_stop hv (rfl : isBlank 0x7D = false)]
  rfl

theorem skipStep_items {outer : List Bracket} {w v s : Bytes} {j : Json} (hw : Blanks w)
    (hv : Blanks v) (hs : Written j s) (rest : Bytes) :
    skipStep outer (w ++ 0x5B :: (v ++ (s ++ rest))) = .ok (.array :: outer, s ++ rest) := by
  have hblank := skipBlank_written hv hs rest
  obtain ⟨b, t, rfl, -, hclose⟩ := hs.exists_cons
  rw [skipStep, skipBlank_stop hw (rfl : isBlank 0x5B = false)]
  rw [List.cons_append] at hblank ⊢
  simp only [if_true, hblank, if_neg hclose]

theorem skipStep_members {outer : List Bracket} {name : String} {u w k v : Bytes} (hu : Blanks u)
    (hw : Blanks w) (hname : Spelled name.toList k) (hv : Blanks v) (rest : Bytes) :
    skipStep outer (u ++ 0x7B :: (w ++ 0x22 :: (k ++ 0x22 :: (v ++ 0x3A :: rest)))) =
      .ok (.object :: outer, rest) := by
  have hskip : skipName (0x22 :: (k ++ 0x22 :: (v ++ 0x3A :: rest))) = .ok rest :=
    skipName_written (w := []) (by simp [Blanks]) hname hv rest
  rw [skipStep, skipBlank_stop hu (rfl : isBlank 0x7B = false)]
  simp only [skipBlank_stop hw (rfl : isBlank 0x22 = false)]
  show (skipName _).map _ = _
  rw [hskip]
  rfl

/-- An array is passed over if its items are. -/
theorem passes_array {items : List Json} (hitems : ∀ j ∈ items, Passes j) :
    Passes (.array items) := by
  have hnil : Blanks [] := by simp [Blanks]
  intro w s rest hw hs hrest outer
  cases hs with
  | array hs =>
    simp only [List.cons_append, List.append_assoc, List.nil_append]
    cases hs with
    | nil hv => exact skipFrom_of_step (skipStep_array hw hv rest)
    | last hv hs hu =>
      have hinside := skipFrom_items hitems (by simp) (.last hnil hs hu) outer rest
      rw [List.nil_append, List.append_assoc] at hinside
      rw [List.append_assoc, List.append_assoc, skipFrom_of_enter (skipStep_items hw hv hs _)]
      exact hinside
    | cons hv hs hu hlater =>
      have hinside := skipFrom_items hitems (by simp) (.cons hnil hs hu hlater) outer rest
      rw [List.nil_append, List.append_assoc] at hinside
      rw [List.append_assoc, List.append_assoc, skipFrom_of_enter (skipStep_items hw hv hs _)]
      exact hinside

/-- An object is passed over if the values of its members are. -/
theorem passes_object {ms : List (String × Json)} (hms : ∀ m ∈ ms, Passes m.2) :
    Passes (.object ms) := by
  intro w s rest hw hs hrest outer
  cases hs with
  | object hs =>
    simp only [List.cons_append, List.append_assoc, List.nil_append]
    cases ms with
    | nil =>
      obtain ⟨hv⟩ := hs
      exact skipFrom_of_step (skipStep_object hw hv rest)
    | cons m ms =>
      obtain ⟨v, k, u, t, name, hv, hname, hu, hbytes, hinside⟩ :=
        skipFrom_members hms hs outer rest
      rw [hbytes, skipFrom_of_enter (skipStep_members hw hv hname hu t)]
      exact hinside

/-- Any value is passed over, by induction on its nesting. -/
theorem passes_of_nesting_le {depth : Nat} {j : Json} (hj : j.nesting ≤ depth) : Passes j := by
  induction depth generalizing j with
  | zero =>
    cases j with
    | array items => rw [nesting] at hj; exact absurd hj (by omega)
    | object members => rw [nesting] at hj; exact absurd hj (by omega)
    | _ => exact passes_scalar trivial
  | succ depth ih =>
    cases j with
    | array items =>
      rw [nesting] at hj
      apply passes_array
      intro item hitem
      have hle := nesting_le_of_mem_items hitem
      exact ih (j := item) (by omega)
    | object ms =>
      rw [nesting] at hj
      apply passes_object
      intro m hm
      have hle := nesting_le_of_mem_members hm
      exact ih (j := m.2) (by omega)
    | _ => exact passes_scalar trivial

/-- Every value can be passed over. -/
theorem skip_means (j : Json) : Reader.skip.Means j (some ()) := by
  intro w s rest hw hs hrest
  have hskip := passes_of_nesting_le (Nat.le_refl j.nesting) hw hs hrest []
  simp only [Reader.skip, hskip]
  rfl

end Json
end ModelRegistry
