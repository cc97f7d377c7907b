import ModelRegistry.Json.Reader

/-!
# Reading without a schema reports no fault of the shape

The lexical part of the grammar, the loops over arrays and objects, and the reader that takes any
value fail only with a text that ended too early or that is not JSON (`Lexical`).  A fault of the
shape always comes from a schema.
-/

namespace ModelRegistry
namespace Json

variable {α β σ : Type}

-- Every leaf of a reader is settled by the kind of the fault it stops with.
attribute [local simp] Fault.kind

/-- The reading succeeds, or it fails with a fault of the grammar. -/
def Lexical : Except Failure α → Prop
  | .error e => e.fault.kind ≠ .mismatch
  | .ok _ => True

@[simp] theorem lexical_ok (a : α) : Lexical (.ok a) := trivial

@[simp] theorem lexical_error {e : Failure} :
    Lexical (.error e : Except Failure α) ↔ e.fault.kind ≠ .mismatch := Iff.rfl

@[simp] theorem lexical_stop {fault : Fault} {rest : Bytes} :
    Lexical (stop fault rest : Except Failure α) ↔ fault.kind ≠ .mismatch := Iff.rfl

@[simp] theorem lexical_stopAt {fault : Fault} {s : Bytes} :
    Lexical (stopAt fault s : Except Failure α) ↔ fault.kind ≠ .mismatch := Iff.rfl

theorem Lexical.map {x : Except Failure α} (h : Lexical x) (f : α → β) : Lexical (x.map f) := by
  cases x with
  | error e => exact h
  | ok a => trivial

/-- The failure of a part is passed on. -/
theorem Lexical.kind_ne {x : Except Failure α} {e : Failure} (h : Lexical x)
    (he : x = .error e) : e.fault.kind ≠ .mismatch := by
  subst he
  exact h

/-! ## Words, texts and numbers -/

theorem word_lexical (w s : Bytes) : Lexical (word w s) := by
  fun_induction word w s <;> simp_all

theorem textBody_lexical (seen s : Bytes) : Lexical (textBody seen s) := by
  fun_induction textBody seen s <;> simp_all

theorem textValue_lexical (s : Bytes) : Lexical (textValue s) := by
  unfold textValue
  split
  · next h => exact (textBody_lexical [] s).kind_ne h
  · split <;> simp

theorem skipText_lexical (s : Bytes) : Lexical (skipText s) := by
  fun_induction skipText s <;> simp_all

section Numbers

variable {cut : Fault} (hcut : cut.kind ≠ .mismatch)

include hcut

theorem wholePart_lexical (s : Bytes) : Lexical (wholePart cut s) := by
  unfold wholePart
  repeat' split
  all_goals first
    | exact hcut
    | simp

theorem fractionPart_lexical (s : Bytes) : Lexical (fractionPart cut s) := by
  unfold fractionPart
  repeat' split
  all_goals first
    | exact hcut
    | simp

theorem exponentPart_lexical (s : Bytes) : Lexical (exponentPart cut s) := by
  unfold exponentPart
  repeat' split
  all_goals first
    | exact hcut
    | simp

theorem numberParts_lexical (negative : Bool) (s : Bytes) :
    Lexical (numberParts cut negative s) := by
  unfold numberParts
  split
  · next h => exact (wholePart_lexical hcut s).kind_ne h
  · split
    · next h => exact (fractionPart_lexical hcut _).kind_ne h
    · split
      · next h => exact (exponentPart_lexical hcut _).kind_ne h
      · trivial

end Numbers

theorem numberValue_lexical (negative : Bool) (s : Bytes) : Lexical (numberValue negative s) := by
  unfold numberValue
  split
  · next h => exact (numberParts_lexical (by decide) negative s).kind_ne h
  · split <;> simp

theorem foundAt_lexical (s : Bytes) : Lexical (foundAt s) := by
  unfold foundAt
  split
  · simp
  · repeat' split
    · exact (word_lexical ..).map _
    · exact (word_lexical ..).map _
    · exact (word_lexical ..).map _
    · exact (numberValue_lexical ..).map _
    · exact (numberValue_lexical ..).map _
    · exact (textValue_lexical _).map _
    · trivial
    · trivial
    · simp

theorem skipScalar_lexical (s : Bytes) : Lexical (skipScalar s) := by
  unfold skipScalar
  split
  · simp
  · repeat' split
    · exact word_lexical ..
    · exact word_lexical ..
    · exact word_lexical ..
    · exact (numberParts_lexical (by decide) ..).map _
    · exact (numberParts_lexical (by decide) ..).map _
    · exact skipText_lexical _
    · simp

namespace Reader

/-! ## Arrays and objects -/

theorem nextItem_lexical (first : Bool) (s : Bytes) : Lexical (nextItem first s) := by
  unfold nextItem
  repeat' split
  all_goals simp

theorem closeItems_lexical (s : Bytes) : Lexical (closeItems s) := by
  unfold closeItems
  repeat' split
  all_goals simp

theorem memberName_lexical (s : Bytes) : Lexical (memberName s) := by
  unfold memberName
  split
  · simp
  · split
    · split
      · next h => exact (textValue_lexical _).kind_ne h
      · trivial
    · simp

theorem nextMember_lexical (first : Bool) (s : Bytes) : Lexical (nextMember first s) := by
  unfold nextMember
  repeat' split
  all_goals first
    | exact memberName_lexical _
    | simp

theorem colon_lexical (s : Bytes) : Lexical (colon s) := by
  unfold colon
  repeat' split
  all_goals simp

theorem itemsFrom_lexical {item : Reader α} (h : ∀ s, Lexical (item.run s)) (first : Bool)
    (seen : List α) (s : Bytes) : Lexical (itemsFrom item first seen s) := by
  fun_induction itemsFrom item first seen s with
  | case1 first seen s e hn => exact (nextItem_lexical first s).kind_ne hn
  | case2 => trivial
  | case3 first seen s t hn e hv => exact (h t).kind_ne hv
  | case4 first seen s t hn v r hv hlt ih => exact ih

/-- An object whose members are never refused. -/
theorem membersFrom_lexical {next : σ → String → Reader σ}
    (h : ∀ state name s, Lexical ((next state name).run s)) (first : Bool) (state : σ) (s : Bytes) :
    Lexical (membersFrom (fun state name => .ok (next state name)) first state s) := by
  fun_induction membersFrom (fun state name => Except.ok (next state name)) first state s with
  | case1 first state s e hn => exact (nextMember_lexical first s).kind_ne hn
  | case2 => trivial
  | case3 first state s name t hn fault hstep => cases hstep
  | case4 first state s name t hn reader hstep e hc => exact (colon_lexical t).kind_ne hc
  | case5 first state s name t hn reader hstep u hc e hv =>
    cases hstep
    exact (h state name u).kind_ne hv
  | case6 _ _ _ _ _ _ _ _ _ _ _ _ _ _ ih => exact ih

/-! ## Any value -/

theorem map_lexical {reader : Reader α} (h : ∀ s, Lexical (reader.run s)) (f : α → β)
    (s : Bytes) : Lexical ((reader.map f).run s) := by
  unfold map
  simp only
  split
  · next he => exact (h s).kind_ne he
  · trivial

theorem valueRun_lexical {inner : Option (Reader Json)}
    (h : ∀ reader, inner = some reader → ∀ s, Lexical (reader.run s)) (s : Bytes) :
    Lexical (valueRun inner s) := by
  unfold valueRun
  split
  · next hf => exact (foundAt_lexical _).kind_ne hf
  · split
    · simp
    · next item =>
      split
      · next hi => exact (itemsFrom_lexical (h item rfl) ..).kind_ne hi
      · trivial
  · split
    · simp
    · next item =>
      simp only
      split
      · next hm =>
        have hitem (ms : List (String × Json)) (name : String) :=
          map_lexical (h item rfl) fun v => (name, v) :: ms
        exact (membersFrom_lexical (fun ms name s => hitem ms name s) ..).kind_ne hm
      · trivial
  · trivial

theorem value_lexical (depth : Nat) (s : Bytes) : Lexical ((value depth).run s) := by
  induction depth generalizing s with
  | zero =>
    have hnone (reader : Reader Json) (h : none = some reader) (t : Bytes) :
        Lexical (reader.run t) := by cases h
    exact valueRun_lexical hnone s
  | succ depth ih =>
    have hinner (reader : Reader Json) (h : some (value depth) = some reader) (t : Bytes) :
        Lexical (reader.run t) := by
      rw [← Option.some.inj h]
      exact ih t
    exact valueRun_lexical hinner s

/-! ## Values nobody asked for -/

theorem skipName_lexical (s : Bytes) : Lexical (skipName s) := by
  unfold skipName
  split
  · simp
  · split
    · split
      · next h => exact (skipText_lexical _).kind_ne h
      · exact colon_lexical _
    · simp

theorem skipAfter_lexical (outer : List Bracket) (s : Bytes) : Lexical (skipAfter outer s) := by
  fun_induction skipAfter outer s <;>
    first
      | exact (skipName_lexical _).map _
      | simp_all

theorem skipStep_lexical (outer : List Bracket) (s : Bytes) : Lexical (skipStep outer s) := by
  unfold skipStep
  split
  · simp
  · split
    · split
      · simp
      · split
        · exact skipAfter_lexical ..
        · trivial
    · split
      · split
        · simp
        · split
          · exact skipAfter_lexical ..
          · exact (skipName_lexical _).map _
      · split
        · next h => exact (skipScalar_lexical _).kind_ne h
        · exact skipAfter_lexical ..

theorem skip_lexical (s : Bytes) : Lexical (skip.run s) := by
  show Lexical (skipFrom [] s)
  generalize ([] : List Bracket) = outer
  fun_induction skipFrom outer s with
  | case1 outer s e h => exact (skipStep_lexical outer s).kind_ne h
  | case2 => trivial
  | case3 outer s b outer' t h hlt ih => exact ih

end Reader
end Json
end ModelRegistry
