import Mathlib.Data.List.Forall2
import ModelRegistry.Json.Reader
import ModelRegistry.Proofs.Json.Numbers
import ModelRegistry.Proofs.Json.Texts

/-!
# What readers make of written values

A reader has a meaning: a partial function of the value that is written, whichever way it is written
and whatever follows it.  `Reader.Means` says what the meaning of a reader at a value is; it speaks
about failures only as far as that there is one, since the words of a failure depend on the text.

The meaning of a loop over members follows from the meanings of the readers that its steps choose
(`Interprets`): it is the fold of the steps over the members, in the order in which they are written
(`members_means`).  Records and unions only have to give that fold.
-/

namespace ModelRegistry
namespace Json

open Text (utf8)

variable {α β σ : Type}

/-! ## Tokens -/

theorem skipBlank_blanks {w : Bytes} (hw : Blanks w) (rest : Bytes) :
    skipBlank (w ++ rest) = skipBlank rest := by
  induction w with
  | nil => rfl
  | cons b w ih =>
    obtain ⟨hb, hw⟩ := List.forall_mem_cons.1 hw
    rw [List.cons_append, skipBlank, if_pos hb]
    exact ih hw

/-- A byte that is no blank ends the blanks in front of it. -/
theorem skipBlank_stop {w : Bytes} (hw : Blanks w) {b : UInt8} (hb : isBlank b = false)
    (rest : Bytes) : skipBlank (w ++ b :: rest) = b :: rest := by
  rw [skipBlank_blanks hw, skipBlank, hb]
  rfl

/-- A value begins with a byte that is neither a blank nor a closing bracket. -/
theorem Written.exists_cons {j : Json} {s : Bytes} (hs : Written j s) :
    ∃ b t, s = b :: t ∧ isBlank b = false ∧ b ≠ 0x5D := by
  have hdigit {d : UInt8} (hd : isDigit d = true) : isBlank d = false ∧ d ≠ 0x5D := by
    refine ⟨?_, ne_of_isDigit hd rfl⟩
    simp only [isBlank, Bool.or_eq_false_iff, decide_eq_false_iff_not]
    exact ⟨⟨⟨ne_of_isDigit hd rfl, ne_of_isDigit hd rfl⟩, ne_of_isDigit hd rfl⟩,
      ne_of_isDigit hd rfl⟩
  cases hs with
  | number hs hn =>
    cases hs with
    | positive hsign hs =>
      obtain ⟨d, t, rfl, hd⟩ := hs.exists_cons
      exact ⟨d, t, rfl, hdigit hd⟩
    | negative hsign hs => exact ⟨0x2D, _, rfl, rfl, by decide⟩
  | _ => exact ⟨_, _, rfl, rfl, by decide⟩

theorem skipBlank_written {j : Json} {w s : Bytes} (hw : Blanks w) (hs : Written j s)
    (rest : Bytes) : skipBlank (w ++ (s ++ rest)) = s ++ rest := by
  obtain ⟨b, t, rfl, hb, -⟩ := hs.exists_cons
  exact skipBlank_stop hw hb (t ++ rest)

/-- A value that is no array and no object. -/
def IsScalar : Json → Prop
  | array _ | object _ => False
  | _ => True

/-- A scalar is read in full. -/
theorem foundAt_scalar {j : Json} (hj : IsScalar j) {s rest : Bytes} (hs : Written j s)
    (hrest : Delimited rest) : foundAt (s ++ rest) = .ok (j.found, rest) := by
  cases hs with
  | null | on | off => rfl
  | number hs hn => exact foundAt_numeral hs hn hrest
  | text hs =>
    have hvalue := textValue_spelled hs rest
    rw [List.cons_append, List.append_assoc]
    show (textValue (_ ++ 0x22 :: rest)).map _ = _
    rw [hvalue]
    rfl
  | array | object => exact hj.elim

/-- An array or object is found where it begins. -/
theorem foundAt_compound {j : Json} (hj : ¬ IsScalar j) {s : Bytes} (hs : Written j s)
    (rest : Bytes) : foundAt (s ++ rest) = .ok (j.found, s ++ rest) := by
  cases hs with
  | array | object => rfl
  | _ => exact (hj trivial).elim

/-- An object is found behind its blanks; its members stand behind the brace. -/
theorem foundAt_object {ms : List (String × Json)} {w s : Bytes} (hw : Blanks w)
    (hs : WrittenMembers ms s) (rest : Bytes) :
    foundAt (skipBlank (w ++ (0x7B :: (s ++ [0x7D]) ++ rest))) =
      .ok (.object, 0x7B :: (s ++ 0x7D :: rest)) := by
  have hwritten : Written (.object ms) (0x7B :: (s ++ [0x7D])) := .object hs
  rw [skipBlank_written hw hwritten, foundAt_compound id hwritten]
  simp only [found, List.cons_append, List.append_assoc, List.nil_append]

/-! ## Meanings -/

theorem eq_ok_of_toOption {ε : Type} {x : Except ε α} {v : α} (h : x.toOption = some v) :
    x = .ok v := by
  cases x with
  | error e => cases h
  | ok v' => exact congrArg _ (Option.some.inj h)

theorem exists_error_of_toOption {ε : Type} {x : Except ε α} (h : x.toOption = none) :
    ∃ e, x = .error e := by
  cases x with
  | error e => exact ⟨e, rfl⟩
  | ok v => cases h

/-- A reader takes a value for `o`, however the value is written, or refuses it. -/
def Reader.Means (reader : Reader α) (j : Json) (o : Option α) : Prop :=
  ∀ ⦃w s rest : Bytes⦄, Blanks w → Written j s → Delimited rest →
    (reader.run (w ++ (s ++ rest))).toOption = o.map fun v => (v, rest)

theorem Reader.Means.run_some {reader : Reader α} {j : Json} {v : α}
    (h : reader.Means j (some v)) {w s rest : Bytes} (hw : Blanks w) (hs : Written j s)
    (hrest : Delimited rest) : reader.run (w ++ (s ++ rest)) = .ok (v, rest) :=
  eq_ok_of_toOption (h hw hs hrest)

theorem Reader.Means.run_none {reader : Reader α} {j : Json} (h : reader.Means j none)
    {w s rest : Bytes} (hw : Blanks w) (hs : Written j s) (hrest : Delimited rest) :
    ∃ failure, reader.run (w ++ (s ++ rest)) = .error failure :=
  exists_error_of_toOption (h hw hs hrest)

theorem Reader.Means.map {reader : Reader α} {j : Json} {o : Option α} (h : reader.Means j o)
    (f : α → β) : (reader.map f).Means j (o.map f) := by
  intro w s rest hw hs hrest
  cases o with
  | none =>
    obtain ⟨failure, hrun⟩ := h.run_none hw hs hrest
    simp only [Reader.map, hrun]
    rfl
  | some v =>
    simp only [Reader.map, h.run_some hw hs hrest]
    rfl

/-- A reader reads a whole document as the value in it. -/
theorem Reader.Means.document {reader : Reader α} {j : Json} {o : Option α}
    (h : reader.Means j o) {text : Bytes} (htext : Document j text) :
    (Json.document reader text).toOption = o := by
  obtain ⟨hw, hs, hv⟩ := htext
  have hdelimited := delimited_nil.blanks hv
  have hend := skipBlank_blanks hv []
  rw [List.append_nil] at hdelimited hend
  cases o with
  | none =>
    obtain ⟨failure, hrun⟩ := h.run_none hw hs hdelimited
    simp only [Json.document, hrun]
    rfl
  | some v =>
    simp only [Json.document, h.run_some hw hs hdelimited, hend, skipBlank]
    rfl

/-- A scalar means what its reader accepts; arrays and objects are refused by all such readers. -/
theorem scalar_means {expected : String} {accept : Found → Except Fault α}
    (harray : (accept .array).toOption = none) (hobject : (accept .object).toOption = none)
    (j : Json) : (Reader.scalar expected accept).Means j (accept j.found).toOption := by
  intro w s rest hw hs hrest
  simp only [Reader.scalar, Reader.scalarRun, skipBlank_written hw hs]
  by_cases hj : IsScalar j
  · rw [foundAt_scalar hj hs hrest]
    cases j with
    | array | object => exact hj.elim
    | _ =>
      simp only [found]
      split
      · next heq => rw [heq]; rfl
      · next heq => rw [heq]; rfl
  · rw [foundAt_compound hj hs]
    cases j with
    | array items =>
      rw [found, harray]
      rfl
    | object members =>
      rw [found, hobject]
      rfl
    | _ => exact (hj trivial).elim

/-! ## Items -/

/-- What stands in front of an item or member: nothing, or a comma behind the one before. -/
inductive Lead : Bool → Bytes → Prop
  | first : Lead true []
  | later {v : Bytes} (hv : Blanks v) : Lead false (v ++ [0x2C])

theorem nextItem_written {first : Bool} {l w s : Bytes} {j : Json} (hl : Lead first l)
    (hw : Blanks w) (hs : Written j s) (rest : Bytes) :
    Reader.nextItem first (l ++ (w ++ (s ++ rest))) = .ok (.item (s ++ rest)) := by
  obtain ⟨b, t, rfl, hb, hclose⟩ := hs.exists_cons
  have hstop := skipBlank_stop hw hb (t ++ rest)
  cases hl with
  | first =>
    rw [List.nil_append, Reader.nextItem, List.cons_append, hstop]
    simp only [if_neg hclose, if_true]
  | later hv =>
    rw [List.append_assoc, List.singleton_append, Reader.nextItem,
      skipBlank_stop hv (rfl : isBlank 0x2C = false)]
    simp only [List.cons_append, hstop, if_neg hclose]
    rfl

theorem nextItem_close (first : Bool) {w : Bytes} (hw : Blanks w) (rest : Bytes) :
    Reader.nextItem first (w ++ 0x5D :: rest) = .ok (.close rest) := by
  rw [Reader.nextItem, skipBlank_stop hw (rfl : isBlank 0x5D = false)]
  rfl

theorem itemsFrom_close {item : Reader α} {first : Bool} {seen : List α} {s r : Bytes}
    (h : Reader.nextItem first s = .ok (.close r)) :
    Reader.itemsFrom item first seen s = .ok (seen.reverse, r) := by
  rw [Reader.itemsFrom]
  split
  · next heq => rw [h] at heq; cases heq
  · next heq => rw [h] at heq; cases heq; rfl
  · next heq => rw [h] at heq; cases heq

theorem itemsFrom_item {item : Reader α} {first : Bool} {seen : List α} {v : α} {s t r : Bytes}
    (h : Reader.nextItem first s = .ok (.item t)) (hv : item.run t = .ok (v, r)) :
    Reader.itemsFrom item first seen s = Reader.itemsFrom item false (v :: seen) r := by
  rw [Reader.itemsFrom]
  split
  · next heq => rw [h] at heq; cases heq
  · next heq => rw [h] at heq; cases heq
  · next heq =>
    rw [h] at heq
    cases heq
    split
    · next heq => rw [hv] at heq; cases heq
    · next heq => rw [hv] at heq; cases heq; rfl

/-- Items are read in order, each as what it is taken for. -/
theorem itemsFrom_written {item : Reader α} {items : List Json} {vs : List α}
    (hitems : List.Forall₂ (fun j v => item.Means j (some v)) items vs) {first : Bool}
    {l s : Bytes} (hl : Lead first l) (hs : WrittenItems items s)
    (hfirst : items = [] → first = true) (seen : List α) (rest : Bytes) :
    Reader.itemsFrom item first seen (l ++ (s ++ 0x5D :: rest)) =
      .ok (seen.reverse ++ vs, rest) := by
  have hblank : Blanks [] := by simp [Blanks]
  induction hitems generalizing first l s seen with
  | nil =>
    obtain rfl := hfirst rfl
    cases hl
    obtain ⟨hw⟩ := hs
    rw [List.nil_append, itemsFrom_close (nextItem_close true hw rest), List.append_nil]
  | @cons j v items vs hj hitems ih =>
    have hseen : seen.reverse ++ v :: vs = (v :: seen).reverse ++ vs := by simp
    cases hs with
    | last hw hs hv =>
      obtain rfl := List.forall₂_nil_left_iff.1 hitems
      have hclose : Delimited (0x5D :: rest) := delimited_cons rest (.inr (.inl rfl))
      have hdelimited := hclose.blanks hv
      have hrun := hj.run_some hblank hs hdelimited
      rw [List.append_assoc, List.append_assoc,
        itemsFrom_item (nextItem_written hl hw hs _) hrun,
        itemsFrom_close (nextItem_close false hv rest), List.reverse_cons]
    | @cons _ next items w s v later hw hs hv hlater =>
      have hdelimited := (delimited_cons (later ++ 0x5D :: rest) (.inl rfl)).blanks hv
      have hrun := hj.run_some hblank hs hdelimited
      have hrest : v ++ 0x2C :: (later ++ 0x5D :: rest) =
          (v ++ [0x2C]) ++ (later ++ 0x5D :: rest) := by simp
      rw [List.append_assoc, List.append_assoc, List.append_assoc, List.cons_append,
        itemsFrom_item (nextItem_written hl hw hs _) hrun, hrest,
        ih (.later hv) hlater (by simp), hseen]

/-! ## Members -/

theorem memberName_spelled {name : String} {k : Bytes} (hname : Spelled name.toList k)
    (rest : Bytes) :
    Reader.memberName (0x22 :: (k ++ 0x22 :: rest)) = .ok (.member name rest) := by
  rw [Reader.memberName.eq_def]
  simp only [if_true, textValue_spelled hname]

theorem nextMember_written {first : Bool} {l w k : Bytes} {name : String} (hl : Lead first l)
    (hw : Blanks w) (hname : Spelled name.toList k) (rest : Bytes) :
    Reader.nextMember first (l ++ (w ++ 0x22 :: (k ++ 0x22 :: rest))) =
      .ok (.member name rest) := by
  have hstop := skipBlank_stop hw (rfl : isBlank 0x22 = false) (k ++ 0x22 :: rest)
  cases hl with
  | first =>
    rw [List.nil_append, Reader.nextMember, hstop]
    exact memberName_spelled hname rest
  | later hv =>
    rw [List.append_assoc, List.singleton_append, Reader.nextMember,
      skipBlank_stop hv (rfl : isBlank 0x2C = false)]
    simp only [hstop]
    exact memberName_spelled hname rest

theorem nextMember_close (first : Bool) {w : Bytes} (hw : Blanks w) (rest : Bytes) :
    Reader.nextMember first (w ++ 0x7D :: rest) = .ok (.close rest) := by
  rw [Reader.nextMember, skipBlank_stop hw (rfl : isBlank 0x7D = false)]
  rfl

theorem colon_written {w : Bytes} (hw : Blanks w) (rest : Bytes) :
    Reader.colon (w ++ 0x3A :: rest) = .ok rest := by
  rw [Reader.colon, skipBlank_stop hw (rfl : isBlank 0x3A = false)]
  rfl

/-- What a step makes of a member: the next state, or nothing if the member is refused. -/
def Interprets (step : σ → String → Except Fault (Reader σ))
    (next : σ → String × Json → Option σ) (m : String × Json) : Prop :=
  ∀ state, match step state m.1 with
    | .error _ => next state m = none
    | .ok reader => reader.Means m.2 (next state m)

theorem membersFrom_close {step : σ → String → Except Fault (Reader σ)} {first : Bool} {state : σ}
    {s r : Bytes} (h : Reader.nextMember first s = .ok (.close r)) :
    Reader.membersFrom step first state s = .ok (state, r) := by
  rw [Reader.membersFrom]
  split
  · next heq => rw [h] at heq; cases heq
  · next heq => rw [h] at heq; cases heq; rfl
  · next heq => rw [h] at heq; cases heq

/-- One turn of the loop, behind the name of a member. -/
theorem membersFrom_turn {step : σ → String → Except Fault (Reader σ)} {first : Bool} {state : σ}
    {name : String} {s t u : Bytes} (h : Reader.nextMember first s = .ok (.member name t))
    (hu : Reader.colon t = .ok u) :
    (Reader.membersFrom step first state s).toOption =
      match step state name with
      | .error _ => none
      | .ok reader =>
        match reader.run u with
        | .error _ => none
        | .ok (state, r) => (Reader.membersFrom step false state r).toOption := by
  rw [Reader.membersFrom]
  split
  · next heq => rw [h] at heq; cases heq
  · next heq => rw [h] at heq; cases heq
  · next heq =>
    rw [h] at heq
    cases heq
    cases step state name with
    | error fault => rfl
    | ok reader =>
      simp only
      split
      · next heq => rw [hu] at heq; cases heq
      · next heq =>
        rw [hu] at heq
        cases heq
        split
        · next heq => simp only [heq]; rfl
        · next heq => simp only [heq]

/-- A member takes the loop to the next state, or ends it. -/
theorem membersFrom_member {step : σ → String → Except Fault (Reader σ)}
    {next : σ → String × Json → Option σ} {m : String × Json} (hm : Interprets step next m)
    {first : Bool} {l w s rest : Bytes} (hl : Lead first l) (hw : Blanks w)
    (hs : WrittenMember m s) (hrest : Delimited rest) (state : σ) :
    (Reader.membersFrom step first state (l ++ (w ++ (s ++ rest)))).toOption =
      (next state m).bind fun state => (Reader.membersFrom step false state rest).toOption := by
  obtain ⟨hname, hblank, hv, hs⟩ := hs
  simp only [List.cons_append, List.append_assoc]
  rw [membersFrom_turn (nextMember_written hl hw hname _) (colon_written hblank _)]
  have hstate := hm state
  split at hstate
  · next heq =>
    simp only at heq
    simp only [heq, hstate, Option.bind_none]
  · next reader heq =>
    simp only at heq
    simp only [heq]
    cases hnext : next state _ with
    | none =>
      rw [hnext] at hstate
      obtain ⟨failure, hrun⟩ := hstate.run_none hv hs hrest
      rw [hrun]
      rfl
    | some state' =>
      rw [hnext] at hstate
      rw [hstate.run_some hv hs hrest]
      rfl

/-- The loop over the members of an object is the fold of its steps. -/
theorem membersFrom_written {step : σ → String → Except Fault (Reader σ)}
    {next : σ → String × Json → Option σ} {ms : List (String × Json)}
    (hms : ∀ m ∈ ms, Interprets step next m) {first : Bool} {l s : Bytes} (hl : Lead first l)
    (hs : WrittenMembers ms s) (hfirst : ms = [] → first = true) (state : σ) (rest : Bytes) :
    (Reader.membersFrom step first state (l ++ (s ++ 0x7D :: rest))).toOption =
      (ms.foldlM next state).map fun state => (state, rest) := by
  induction ms generalizing first l s state with
  | nil =>
    obtain rfl := hfirst rfl
    cases hl
    obtain ⟨hw⟩ := hs
    rw [List.nil_append, membersFrom_close (nextMember_close true hw rest)]
    rfl
  | cons m ms ih =>
    obtain ⟨hm, hms⟩ := List.forall_mem_cons.1 hms
    have hfold : (m :: ms).foldlM next state = (next state m).bind (ms.foldlM next) := rfl
    cases hs with
    | last hw hs hv =>
      have hclose : Delimited (0x7D :: rest) := delimited_cons rest (.inr (.inr rfl))
      have hdelimited := hclose.blanks hv
      rw [List.append_assoc, List.append_assoc, membersFrom_member hm hl hw hs hdelimited, hfold]
      cases next state m with
      | none => rfl
      | some state' =>
        rw [Option.bind_some, membersFrom_close (nextMember_close false hv rest)]
        rfl
    | @cons _ m' ms w s v later hw hs hv hlater =>
      have hdelimited := (delimited_cons (later ++ 0x7D :: rest) (.inl rfl)).blanks hv
      have hrest : v ++ 0x2C :: (later ++ 0x7D :: rest) =
          (v ++ [0x2C]) ++ (later ++ 0x7D :: rest) := by simp
      rw [List.append_assoc, List.append_assoc, List.append_assoc, List.cons_append,
        membersFrom_member hm hl hw hs hdelimited, hfold]
      cases next state m with
      | none => rfl
      | some state' =>
        rw [Option.bind_some, hrest, ih hms (.later hv) hlater (by simp) state']
        rfl

/-- The loop over the members of an object behind its brace. -/
theorem members_run {step : σ → String → Except Fault (Reader σ)}
    {next : σ → String × Json → Option σ} {ms : List (String × Json)}
    (hms : ∀ m ∈ ms, Interprets step next m) {s : Bytes} (hs : WrittenMembers ms s) (start : σ)
    (rest : Bytes) :
    ((Reader.members step start).run (s ++ 0x7D :: rest)).toOption =
      (ms.foldlM next start).map fun state => (state, rest) :=
  membersFrom_written hms .first hs (fun _ => rfl) start rest

/-! ## Any value -/

/-- Members that are gathered are put in front of those before. -/
theorem foldlM_gather (ms seen : List (String × Json)) :
    ms.foldlM (fun seen m => some (m :: seen)) seen = some (ms.reverse ++ seen) := by
  induction ms generalizing seen with
  | nil => rfl
  | cons m ms ih =>
    rw [List.foldlM_cons]
    simpa using ih (m :: seen)

/-- Within its nesting every value is read as itself. -/
theorem value_means {depth : Nat} {j : Json} (hj : j.nesting ≤ depth) :
    (Reader.value depth).Means j (some j) := by
  induction depth generalizing j with
  | zero =>
    intro w s rest hw hs hrest
    have hscalar : IsScalar j := by
      cases j with
      | array items => rw [nesting] at hj; exact absurd hj (by omega)
      | object members => rw [nesting] at hj; exact absurd hj (by omega)
      | _ => trivial
    simp only [Reader.value, Reader.valueRun, skipBlank_written hw hs,
      foundAt_scalar hscalar hs hrest]
    cases j with
    | array | object => exact hscalar.elim
    | _ => rfl
  | succ depth ih =>
    intro w s rest hw hs hrest
    simp only [Reader.value, Reader.valueRun, skipBlank_written hw hs]
    by_cases hscalar : IsScalar j
    · rw [foundAt_scalar hscalar hs hrest]
      cases j with
      | array | object => exact hscalar.elim
      | _ => rfl
    · rw [foundAt_compound hscalar hs]
      cases hs with
      | @array items s hs =>
        have hitems : List.Forall₂ (fun j v => (Reader.value depth).Means j (some v))
            items items := by
          refine List.forall₂_same.2 fun item hitem => ?_
          have hle := nesting_le_of_mem_items hitem
          rw [nesting] at hj
          exact ih (j := item) (by omega)
        have hrun := itemsFrom_written hitems .first hs (fun _ => rfl) [] rest
        rw [List.nil_append] at hrun
        simp only [found, List.cons_append, List.append_assoc, List.nil_append,
          List.drop_succ_cons, List.drop_zero, Reader.items, hrun]
        rfl
      | @object ms s hs =>
        have hms : ∀ m ∈ ms, Interprets
            (fun seen name => .ok ((Reader.value depth).map fun v => (name, v) :: seen))
            (fun seen m => some (m :: seen)) m := by
          intro m hm seen
          have hle := nesting_le_of_mem_members hm
          rw [nesting] at hj
          exact Reader.Means.map (ih (j := m.2) (by omega)) _
        have hrun := members_run hms hs [] rest
        rw [foldlM_gather, List.append_nil] at hrun
        simp only [found, List.cons_append, List.append_assoc, List.nil_append,
          List.drop_succ_cons, List.drop_zero, eq_ok_of_toOption hrun, List.reverse_reverse]
        rfl
      | _ => exact (hscalar trivial).elim

end Json
end ModelRegistry
