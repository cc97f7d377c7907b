import ModelRegistry.Json.Schema
import ModelRegistry.Proofs.Json.Faults
import ModelRegistry.Proofs.Json.Lexical
import ModelRegistry.Proofs.Text.Utf8

/-!
# Readers report what stands in the document

`Reader.Bounded n P` says of a reader that on documents of at most `n` bytes its faults name only
what stands there (`Fault.Within`), and that what it reads has the property `P`.  The property is
for what a later fault may repeat: a union gathers values and looks at them again once its case is
known.  The bound is carried from the scalars through the loops to records and tagged unions.
-/

namespace ModelRegistry
namespace Json

variable {α β σ : Type} {n : Nat}

/-! ## Scalars -/

/-- What a text stands for is no longer than the text. -/
theorem length_textBody_le {seen s v r : Bytes} (h : textBody seen s = .ok (v, r)) :
    v.length + r.length ≤ seen.length + s.length := by
  have hpoint (k : Nat) (seen : Bytes) :
      ((encodePoint k).reverse ++ seen).length ≤ seen.length + 4 := by
    have hchar := Char.utf8Size_le_four (Char.ofNat k)
    rw [List.length_append, List.length_reverse, encodePoint, String.length_utf8EncodeChar]
    omega
  fun_induction textBody seen s with
  | case2 seen r =>
    cases h
    rw [List.length_reverse, List.length_cons]
    omega
  | case9 | case14 =>
    rename_i ih
    refine Nat.le_trans (ih h) (Nat.le_trans (Nat.add_le_add_right (hpoint ..) _) ?_)
    simp only [List.length_cons]
    omega
  | case16 | case19 =>
    rename_i ih
    refine Nat.le_trans (ih h) ?_
    simp only [List.length_cons]
    omega
  | _ => simp [stop] at h

theorem length_textValue_le {s r : Bytes} {t : String} (h : textValue s = .ok (t, r)) :
    t.length ≤ s.length := by
  unfold textValue at h
  split at h
  · cases h
  · next bs u hbody =>
    split at h
    · next t' htext =>
      cases h
      have hlength := length_textBody_le hbody
      have hchars := Text.length_le_length_bytes t
      rw [Text.bytes_of_ofBytes? htext] at hchars
      rw [List.length_nil] at hlength
      omega
    · simp [stop] at h

theorem absorb_le {k : Nat} (ds : List Nat) (h : k ≤ Numeral.greatestExact) :
    (Numeral.absorb k ds).1 ≤ Numeral.greatestExact := by
  fun_induction Numeral.absorb k ds with
  | case1 => exact h
  | case2 k d ds hfits ih => exact ih hfits
  | case3 => exact h

theorem bounded_integer (negative : Bool) {k : Nat} (h : k ≤ Numeral.greatestExact) :
    (Numeral.integer negative k).Bounded := by
  have hlt : k < UInt64.size := Nat.lt_succ_of_le h
  unfold Numeral.integer
  split
  · split
    · exact Binary64.inRange_getD fun x hx => Binary64.inRange_ofFraction? hx
    · show (-(k : Int)).natAbs < UInt64.size
      omega
  · show (k : Int).natAbs < UInt64.size
    omega

/-- A number is of 64 bits or a double, whatever was written. -/
theorem bounded_value? {x : Numeral} {v : Number} (h : x.value? = some v) : v.Bounded := by
  have habsorb := absorb_le x.whole (Nat.zero_le Numeral.greatestExact)
  have hreal {k : Nat} {e : Int}
      (h : (Binary64.ofDecimal k e).map (Number.real x.negative) = some v) : v.Bounded := by
    obtain ⟨y, hy, rfl⟩ := Option.map_eq_some_iff.1 h
    exact Binary64.inRange_ofDecimal hy
  unfold Numeral.value? at h
  simp only at h
  split at h
  · obtain rfl := Option.some.inj h
    exact bounded_integer _ habsorb
  · split at h
    · exact hreal h
    · split at h
      · split at h
        · cases h
        · obtain rfl := Option.some.inj h
          exact Binary64.inRange_zero
      · exact hreal h

theorem bounded_numberValue {negative : Bool} {s r : Bytes} {v : Number}
    (h : numberValue negative s = .ok (v, r)) : v.Bounded := by
  unfold numberValue at h
  split at h
  · cases h
  · split at h
    · next hvalue =>
      cases h
      exact bounded_value? hvalue
    · cases h

/-- What is found stands in the document. -/
theorem within_foundAt {s r : Bytes} {f : Found} (h : foundAt s = .ok (f, r))
    (hs : s.length ≤ n) : f.Within n := by
  have hmap {γ : Type} {x : Except Failure γ} {g : γ → Found × Bytes} (h : x.map g = .ok (f, r)) :
      ∃ a, x = .ok a ∧ g a = (f, r) := by
    cases x with
    | error e => cases h
    | ok a => exact ⟨a, rfl, Except.ok.inj h⟩
  unfold foundAt at h
  split at h
  · cases h
  · repeat' split at h
    · obtain ⟨_, -, heq⟩ := hmap h
      cases heq
      trivial
    · obtain ⟨_, -, heq⟩ := hmap h
      cases heq
      trivial
    · obtain ⟨_, -, heq⟩ := hmap h
      cases heq
      trivial
    · obtain ⟨_, hvalue, heq⟩ := hmap h
      cases heq
      exact bounded_numberValue hvalue
    · obtain ⟨_, hvalue, heq⟩ := hmap h
      cases heq
      exact bounded_numberValue hvalue
    · obtain ⟨_, hvalue, heq⟩ := hmap h
      cases heq
      exact Nat.le_trans (length_textValue_le hvalue) (Nat.le_trans (Nat.le_succ _) hs)
    · cases h
      trivial
    · cases h
      trivial
    · cases h

/-! ## Readers -/

/-- A reading whose faults name only what stands in a document of `n` bytes. -/
def Bounded (n : Nat) (P : α → Prop) : Except Failure (α × Bytes) → Prop
  | .error e => e.fault.Within n
  | .ok (v, _) => P v

theorem bounded_of_lexical {P : α → Prop} {x : Except Failure (α × Bytes)} (h : Lexical x)
    (hP : ∀ v r, x = .ok (v, r) → P v) : Bounded n P x := by
  cases x with
  | error e => exact Fault.within_of_kind_ne h n
  | ok p => exact hP p.1 p.2 rfl

/-- The failure of a part whose faults are those of the grammar is passed on. -/
theorem Lexical.within {x : Except Failure α} {e : Failure} (h : Lexical x) (he : x = .error e) :
    e.fault.Within n := Fault.within_of_kind_ne (h.kind_ne he) n

namespace Reader

/-- On documents of at most `n` bytes the faults of a reader name only what stands there, and what
it reads has a property. -/
def Bounded (n : Nat) (P : α → Prop) (reader : Reader α) : Prop :=
  ∀ s : Bytes, s.length ≤ n → Json.Bounded n P (reader.run s)

variable {P : α → Prop}

theorem Bounded.within {reader : Reader α} (h : reader.Bounded n P) {s : Bytes} {e : Failure}
    (hs : s.length ≤ n) (hrun : reader.run s = .error e) : e.fault.Within n := by
  have hbounded := h s hs
  rwa [hrun] at hbounded

theorem Bounded.holds {reader : Reader α} (h : reader.Bounded n P) {s r : Bytes} {v : α}
    (hs : s.length ≤ n) (hrun : reader.run s = .ok (v, r)) : P v := by
  have hbounded := h s hs
  rwa [hrun] at hbounded

theorem Bounded.map {reader : Reader α} (h : reader.Bounded n P) {Q : β → Prop} {f : α → β}
    (hf : ∀ v, P v → Q (f v)) : (reader.map f).Bounded n Q := by
  intro s hs
  unfold Reader.map
  simp only
  split
  · next hrun => exact h.within hs hrun
  · next hrun => exact hf _ (h.holds hs hrun)

/-! ### Scalars -/

/-- A scalar, when nothing matters to its acceptance but what was found. -/
theorem bounded_scalar {expected : String} (hexpected : expected.length ≤ schemaRoom)
    {accept : Found → Except Fault α}
    (hrefused : ∀ found fault, found.Within n → accept found = .error fault → fault.Within n)
    (haccepted : ∀ found v, found.Within n → accept found = .ok v → P v) :
    (scalar expected accept).Bounded n P := by
  intro s hs
  have hblank := Nat.le_trans (skipBlank_le s) hs
  show Json.Bounded n _ (scalarRun expected accept s)
  unfold scalarRun
  split
  · next hfound => exact (foundAt_lexical _).within hfound
  · exact ⟨trivial, hexpected⟩
  · exact ⟨trivial, hexpected⟩
  · next hfound =>
    have hwithin := within_foundAt hfound hblank
    split
    · next haccept => exact hrefused _ _ hwithin haccept
    · next haccept => exact haccepted _ _ hwithin haccept

/-! ### Loops -/

/-- The items of an array, of which there are no more than bytes. -/
theorem bounded_itemsFrom {item : Reader α} (h : item.Bounded n P) (first : Bool) (seen : List α)
    (s : Bytes) (hseen : ∀ v ∈ seen, P v) (hs : seen.length + s.length ≤ n) :
    Json.Bounded n (fun vs : List α => vs.length ≤ n ∧ ∀ v ∈ vs, P v)
      (itemsFrom item first seen s) := by
  fun_induction itemsFrom item first seen s with
  | case1 first seen s e hn => exact (nextItem_lexical first s).within hn
  | case2 first seen s r hn =>
    refine ⟨?_, fun v hv => hseen v (List.mem_reverse.1 hv)⟩
    rw [List.length_reverse]
    omega
  | case3 first seen s t hn e hv =>
    have ht : t.length ≤ s.length := (nextItem_le hn).1
    exact h.within (by omega) hv
  | case4 first seen s t hn v r hv hlt ih =>
    have ht : t.length ≤ s.length := (nextItem_le hn).1
    refine ih ?_ ?_
    · intro w hw
      rcases List.mem_cons.1 hw with rfl | hw
      · exact h.holds (by omega) hv
      · exact hseen w hw
    · rw [List.length_cons]
      omega

/-- The members of an object, when what the state says is kept by every step. -/
theorem bounded_membersFrom {step : σ → String → Except Fault (Reader σ)} {I : σ → Prop}
    (hrefused : ∀ state name fault, I state → step state name = .error fault → fault.Within n)
    (hstep : ∀ state name reader, I state → step state name = .ok reader → reader.Bounded n I)
    (first : Bool) (state : σ) (s : Bytes) (hstate : I state) (hs : s.length ≤ n) :
    Json.Bounded n I (membersFrom step first state s) := by
  fun_induction membersFrom step first state s with
  | case1 first state s e hn => exact (nextMember_lexical first s).within hn
  | case2 => exact hstate
  | case3 first state s name t hn fault hrefuse => exact hrefused state name fault hstate hrefuse
  | case4 first state s name t hn reader hreader e hc => exact (colon_lexical t).within hc
  | case5 first state s name t hn reader hreader u hc e hv =>
    have ht : t.length < s.length := nextMember_lt hn
    have hu : u.length < t.length := colon_lt hc
    exact (hstep state name reader hstate hreader).within (by omega) hv
  | case6 first state s name t hn reader hreader u hc state' r hv hlt ih =>
    have ht : t.length < s.length := nextMember_lt hn
    have hu : u.length < t.length := colon_lt hc
    have hread := hstep state name reader hstate hreader
    exact ih (hread.holds (by omega) hv) (by omega)

/-! ### Values without a schema -/

theorem bounded_skip : skip.Bounded n fun _ => True :=
  fun s _ => bounded_of_lexical (skip_lexical s) fun _ _ _ => trivial

/-- A scalar is the value that was found. -/
theorem found_ofScalar {f : Found} (harray : f ≠ .array) (hobject : f ≠ .object) :
    (ofScalar f).found = f := by
  cases f <;> first | rfl | contradiction

/-- What begins a value stands in the document. -/
theorem within_valueRun {inner : Option (Reader Json)} {s r : Bytes} {j : Json}
    (h : valueRun inner s = .ok (j, r)) (hs : s.length ≤ n) : j.found.Within n := by
  have hblank := Nat.le_trans (skipBlank_le s) hs
  unfold valueRun at h
  split at h
  · cases h
  · split at h
    · cases h
    · split at h <;> cases h
      trivial
  · split at h
    · cases h
    · simp only at h
      split at h <;> cases h
      trivial
  · next harray hobject hfound =>
    cases h
    rw [found_ofScalar (fun heq => harray heq) (fun heq => hobject heq)]
    exact within_foundAt hfound hblank

theorem bounded_value (depth : Nat) :
    (value depth).Bounded n fun j => j.found.Within n := by
  intro s hs
  refine bounded_of_lexical (value_lexical depth s) ?_
  intro j r hrun
  cases depth with
  | zero =>
    have hvalue : valueRun none s = .ok (j, r) := hrun
    exact within_valueRun hvalue hs
  | succ depth =>
    have hvalue : valueRun (some (value depth)) s = .ok (j, r) := hrun
    exact within_valueRun hvalue hs

end Reader

/-! ## Records -/

section Records

variable {κ : Type} {V : κ → Type} {fs : List (Field κ V)}

/-- Every value that has been read has a property. -/
def Slots.All (Q : (k : κ) → V k → Prop) : (fs : List (Field κ V)) → Slots fs → Prop
  | [], () => True
  | f :: fs, (slot, slots) => (∀ v, slot = some v → Q f.kind v) ∧ Slots.All Q fs slots

/-- Every value has a property. -/
def Values.All (Q : (k : κ) → V k → Prop) : (fs : List (Field κ V)) → Values fs → Prop
  | [], () => True
  | f :: fs, (v, vs) => Q f.kind v ∧ Values.All Q fs vs

/-- The names of the fields are those of a schema. -/
def Named (fs : List (Field κ V)) : Prop := ∀ f ∈ fs, f.name.length ≤ schemaRoom

theorem within_finish (hfs : Named fs) {slots : Slots fs} {fault : Fault}
    (h : Slots.finish fs slots = .error fault) : fault.Within n := by
  induction fs with
  | nil => cases h
  | cons f fs ih =>
    obtain ⟨hf, hfs⟩ := List.forall_mem_cons.1 hfs
    obtain ⟨slot, slots⟩ := slots
    simp only [Slots.finish] at h
    split at h
    · cases h
      exact hf
    · split at h
      · next hrest =>
        cases h
        exact ih hfs hrest
      · cases h

theorem within_fallbacks {expected : String} (hexpected : expected.length ≤ schemaRoom)
    {index : Nat} (hindex : index + fs.length ≤ schemaRoom) {fault : Fault}
    (h : Values.fallbacks expected fs index = .error fault) : fault.Within n := by
  induction fs generalizing index with
  | nil => cases h
  | cons f fs ih =>
    rw [List.length_cons] at hindex
    simp only [Values.fallbacks] at h
    split at h
    · cases h
      refine ⟨?_, hexpected⟩
      omega
    · split at h
      · next hrest =>
        cases h
        exact ih (by omega) hrest
      · cases h

theorem within_step {read : (k : κ) → Reader (V k)} (hfs : Named fs) {slots : Slots fs}
    {name : String} {fault : Fault} (h : Slots.step read fs slots name = .error fault) :
    fault.Within n := by
  induction fs with
  | nil => cases h
  | cons f fs ih =>
    obtain ⟨hf, hfs⟩ := List.forall_mem_cons.1 hfs
    obtain ⟨slot, slots⟩ := slots
    simp only [Slots.step] at h
    split at h
    · next hname =>
      split at h
      · cases h
        rw [hname]
        exact hf
      · cases h
    · split at h
      · next hrest =>
        cases h
        exact ih hfs hrest
      · cases h

/-- An array or object that gives a fault its place leaves the fault as it is. -/
theorem fault_settle (close : Bytes → Nat) (s : Bytes) (e : Failure) :
    (e.settle close s).fault = e.fault := by
  unfold Failure.settle
  split <;> rfl

section Properties

variable {Q : (k : κ) → V k → Prop}

theorem all_empty (fs : List (Field κ V)) : Slots.All Q fs (Slots.empty fs) := by
  induction fs with
  | nil => trivial
  | cons f fs ih =>
    refine ⟨?_, ih⟩
    intro v hv
    cases hv

theorem all_finish (hfallback : ∀ f ∈ fs, ∀ v, f.fallback = some v → Q f.kind v)
    {slots : Slots fs} {vs : Values fs} (hslots : Slots.All Q fs slots)
    (h : Slots.finish fs slots = .ok vs) : Values.All Q fs vs := by
  induction fs with
  | nil => trivial
  | cons f fs ih =>
    obtain ⟨hf, hfs⟩ := List.forall_mem_cons.1 hfallback
    obtain ⟨slot, slots⟩ := slots
    obtain ⟨hslot, hslots⟩ := hslots
    simp only [Slots.finish] at h
    split at h
    · cases h
    · next v hv =>
      split at h
      · cases h
      · next hrest =>
        cases h
        refine ⟨?_, ih hfs hslots hrest⟩
        rcases Option.or_eq_some_iff.1 hv with hv | ⟨-, hv⟩
        · exact hslot v hv
        · exact hf v hv

theorem all_fallbacks (hfallback : ∀ f ∈ fs, ∀ v, f.fallback = some v → Q f.kind v)
    {expected : String} {index : Nat} {vs : Values fs}
    (h : Values.fallbacks expected fs index = .ok vs) : Values.All Q fs vs := by
  induction fs generalizing index with
  | nil => trivial
  | cons f fs ih =>
    obtain ⟨hf, hfs⟩ := List.forall_mem_cons.1 hfallback
    simp only [Values.fallbacks] at h
    split at h
    · cases h
    · next v hv =>
      split at h
      · cases h
      · next hrest =>
        cases h
        exact ⟨hf v hv, ih hfs hrest⟩

variable {read : (k : κ) → Reader (V k)} (hread : ∀ k, (read k).Bounded n (Q k))

include hread

theorem bounded_step {slots : Slots fs} (hslots : Slots.All Q fs slots) {name : String}
    {reader : Reader (Slots fs)} (h : Slots.step read fs slots name = .ok reader) :
    reader.Bounded n (Slots.All Q fs) := by
  induction fs with
  | nil =>
    cases h
    exact Reader.bounded_skip
  | cons f fs ih =>
    obtain ⟨slot, slots⟩ := slots
    obtain ⟨hslot, hslots⟩ := hslots
    simp only [Slots.step] at h
    split at h
    · split at h
      · cases h
      · cases h
        refine (hread f.kind).map ?_
        intro v hv
        refine ⟨?_, hslots⟩
        intro w hw
        rw [← Option.some.inj hw]
        exact hv
    · split at h
      · cases h
      · next hrest =>
        cases h
        exact (ih hslots hrest).map fun _ hslots => ⟨hslot, hslots⟩

variable (hfallback : ∀ f ∈ fs, ∀ v, f.fallback = some v → Q f.kind v)

include hfallback

theorem bounded_fromItems {expected : String} (hexpected : expected.length ≤ schemaRoom)
    (first : Bool) (index : Nat) (hindex : index + fs.length ≤ schemaRoom) (s : Bytes)
    (hs : s.length ≤ n) :
    Bounded n (Values.All Q fs) (Values.fromItems read expected fs first index s) := by
  induction fs generalizing first index s with
  | nil => exact bounded_of_lexical ((Reader.closeItems_lexical s).map _) fun _ _ _ => trivial
  | cons f fs ih =>
    simp only [Values.fromItems]
    split
    · next hn => exact (Reader.nextItem_lexical first s).within hn
    · split
      · next hmissing => exact within_fallbacks hexpected hindex hmissing
      · next hrest => exact all_fallbacks hfallback hrest
    · next t hn =>
      have ht : t.length ≤ s.length := (Reader.nextItem_le hn).1
      rw [List.length_cons] at hindex
      split
      · next hv =>
        show Fault.Within n (Failure.settle ..).fault
        rw [fault_settle]
        exact (hread f.kind).within (by omega) hv
      · next v r hv =>
        have hr := (read f.kind).progress hv
        have hlater := ih (List.forall_mem_cons.1 hfallback).2 false (index + 1) (by omega) r
          (by omega)
        split
        · next hrest =>
          rw [hrest] at hlater
          exact hlater
        · next hrest =>
          rw [hrest] at hlater
          exact ⟨(hread f.kind).holds (by omega) hv, hlater⟩

end Properties

/-- What a record puts into messages fits there. -/
structure Roomy (name : String) (fs : List (Field κ V)) : Prop where
  named : Named fs
  fields : fs.length ≤ 100
  title : name.length ≤ 200

theorem length_elements_le (k : Nat) : (elements k).length ≤ k + 10 := by
  have hdigits := length_toString_nat_le k
  have hword : (if k = 1 then " element" else " elements" : String).length ≤ 9 := by
    split <;> decide
  rw [elements, String.length_append]
  omega

namespace Roomy

variable {name : String} (h : Roomy name fs)

include h

theorem length_fields_le : 0 + fs.length ≤ schemaRoom := by
  have hfields := h.fields
  show 0 + fs.length ≤ 400
  omega

theorem length_title_le : name.length ≤ schemaRoom := Nat.le_trans h.title (by decide)

theorem length_expected_le : (name ++ " with " ++ elements fs.length).length ≤ schemaRoom := by
  have hfields := h.fields
  have htitle := h.title
  have helements := length_elements_le fs.length
  rw [String.length_append, String.length_append]
  show name.length + 6 + (elements fs.length).length ≤ 400
  omega

theorem length_sequence_le : (elements fs.length ++ " in sequence").length ≤ schemaRoom := by
  have hfields := h.fields
  have helements := length_elements_le fs.length
  rw [String.length_append]
  show (elements fs.length).length + 12 ≤ 400
  omega

end Roomy

/-- A record is read within bounds if its fields are. -/
theorem bounded_recordReader {read : (k : κ) → Reader (V k)} {Q : (k : κ) → V k → Prop}
    (hread : ∀ k, (read k).Bounded n (Q k))
    (hfallback : ∀ f ∈ fs, ∀ v, f.fallback = some v → Q f.kind v) {name : String}
    (h : Roomy name fs) : (recordReader read name fs).Bounded n (Values.All Q fs) := by
  intro s hs
  have hblank := Nat.le_trans (skipBlank_le s) hs
  have hdrop {f : Found} {r : Bytes} (hfound : foundAt (skipBlank s) = .ok (f, r)) :
      (r.drop 1).length ≤ n := by
    rw [List.length_drop]
    rcases foundAt_lt hfound with hlt | ⟨-, rfl⟩ <;> omega
  show Bounded n _ (recordRun read name fs s)
  unfold recordRun
  split
  · next hfound => exact (foundAt_lexical _).within hfound
  · next r hfound =>
    exact bounded_fromItems hread hfallback h.length_expected_le true 0 h.length_fields_le _
      (hdrop hfound)
  · next r hfound =>
    have hmembers : Bounded n (Slots.All Q fs)
        ((Reader.members (Slots.step read fs) (Slots.empty fs)).run (r.drop 1)) :=
      Reader.bounded_membersFrom (fun _ _ _ _ => within_step h.named)
        (fun _ _ _ hslots => bounded_step hread hslots) true _ _ (all_empty fs) (hdrop hfound)
    split
    · next hrun =>
      rw [hrun] at hmembers
      show Fault.Within n (Failure.settle ..).fault
      rw [fault_settle]
      exact hmembers
    · next hrun =>
      rw [hrun] at hmembers
      split
      · next hmissing => exact within_finish h.named hmissing
      · next hfinish => exact all_finish hfallback hmembers hfinish
  · next hfound => exact ⟨within_foundAt hfound hblank, h.length_title_le⟩

/-! ## Gathered values -/

section Gathered

variable {accept : (k : κ) → Found → Except Fault (V k)}
  (haccept : ∀ k found fault, found.Within n → accept k found = .error fault → fault.Within n)

include haccept

theorem within_take (hfs : Named fs) {slots : Slots fs} {m : String × Json}
    (hm : m.2.found.Within n) {fault : Fault} (h : Slots.take accept fs slots m = .error fault) :
    fault.Within n := by
  induction fs with
  | nil => cases h
  | cons f fs ih =>
    obtain ⟨hf, hfs⟩ := List.forall_mem_cons.1 hfs
    obtain ⟨slot, slots⟩ := slots
    simp only [Slots.take] at h
    split at h
    · next hname =>
      split at h
      · cases h
        rw [hname]
        exact hf
      · split at h
        · next hrefused =>
          cases h
          exact haccept _ _ _ hm hrefused
        · cases h
    · split at h
      · next hrest =>
        cases h
        exact ih hfs hrest
      · cases h

theorem within_takeAll (hfs : Named fs) {slots : Slots fs} {ms : List (String × Json)}
    (hms : ∀ m ∈ ms, m.2.found.Within n) {fault : Fault}
    (h : Slots.takeAll accept fs slots ms = .error fault) : fault.Within n := by
  induction ms generalizing slots with
  | nil => cases h
  | cons m ms ih =>
    obtain ⟨hm, hms⟩ := List.forall_mem_cons.1 hms
    rw [Slots.takeAll] at h
    split at h
    · next htake =>
      cases h
      exact within_take haccept hfs hm htake
    · exact ih hms h

theorem within_ofMembers (hfs : Named fs) {ms : List (String × Json)}
    (hms : ∀ m ∈ ms, m.2.found.Within n) {fault : Fault}
    (h : ofMembers accept fs ms = .error fault) : fault.Within n := by
  unfold ofMembers at h
  split at h
  · next htake =>
    cases h
    exact within_takeAll haccept hfs hms htake
  · exact within_finish hfs h

theorem within_takeItems {expected : String} (hexpected : expected.length ≤ schemaRoom)
    {index : Nat} (hindex : index + fs.length ≤ schemaRoom) {items : List Json}
    (hitems : ∀ j ∈ items, j.found.Within n) {fault : Fault}
    (h : Values.takeItems accept expected fs index items = .error fault) : fault.Within n := by
  induction fs generalizing index items with
  | nil => cases h
  | cons f fs ih =>
    cases items with
    | nil =>
      simp only [Values.takeItems] at h
      split at h
      · next hfallbacks =>
        cases h
        exact within_fallbacks hexpected hindex hfallbacks
      · cases h
    | cons item items =>
      obtain ⟨hitem, hitems⟩ := List.forall_mem_cons.1 hitems
      rw [List.length_cons] at hindex
      simp only [Values.takeItems] at h
      split at h
      · next hrefused =>
        cases h
        exact haccept _ _ _ hitem hrefused
      · split at h
        · next hrest =>
          cases h
          exact ih (by omega) hitems hrest
        · cases h

theorem within_ofItems {name : String} (hroom : Roomy name fs) {items : List Json}
    (hlength : items.length ≤ n) (hitems : ∀ j ∈ items, j.found.Within n) {fault : Fault}
    (h : ofItems accept name fs items = .error fault) : fault.Within n := by
  unfold ofItems at h
  split at h
  · next htake =>
    cases h
    exact within_takeItems haccept hroom.length_expected_le hroom.length_fields_le hitems htake
  · split at h
    · cases h
    · cases h
      exact ⟨Nat.le_add_right_of_le hlength, hroom.length_sequence_le⟩

end Gathered

end Records

/-! ## Fields of a plain record -/

namespace Kind

theorem length_expected_le (k : Kind) : k.expected.length ≤ schemaRoom := by
  cases k <;> decide

theorem within_accept (k : Kind) (found : Found) (fault : Fault) (hfound : found.Within n)
    (h : k.accept found = .error fault) : fault.Within n := by
  unfold accept at h
  split at h
  · cases h
  · cases h
  · split at h
    · cases h
    · cases h
      exact ⟨hfound, by decide⟩
  · split at h
    · cases h
    · cases h
      exact ⟨hfound, by decide⟩
  · cases h
    exact ⟨hfound, length_expected_le _⟩

/-- A text that is read is no longer than the document. -/
theorem bounded_readText : (read text).Bounded n fun t => t.length ≤ n := by
  refine Reader.bounded_scalar text.length_expected_le text.within_accept ?_
  intro found t hfound h
  cases found with
  | text t' =>
    cases h
    exact hfound
  | _ => cases h

end Kind

/-! ## Tagged unions -/

namespace Union

variable {ι : Type} {u : Union ι}

/-- What a union puts into messages fits there. -/
structure Roomy (u : Union ι) : Prop where
  tag : u.tag.length ≤ schemaRoom
  title : ("internally tagged enum " ++ u.typeName).length ≤ schemaRoom
  known : (Fault.alternatives (u.cases.map u.name)).length ≤ schemaRoom
  record : ∀ i, Json.Roomy (u.recordName i) (u.fields i)

theorem bounded_readTag (hu : u.Roomy) : u.readTag.Bounded n fun _ => True := by
  have hexpected : ("variant identifier" : String).length ≤ schemaRoom := by decide
  refine Reader.bounded_scalar hexpected ?_ fun _ _ _ _ => trivial
  intro found fault hfound h
  unfold acceptTag at h
  split at h
  · split at h
    · cases h
    · cases h
      exact ⟨hfound, hu.known⟩
  · cases h
    exact ⟨hfound, hexpected⟩

/-- What begins each of the gathered members stands in the document. -/
def GatheredWithin (n : Nat) (seen : Gathered ι) : Prop := ∀ m ∈ seen.2, m.2.found.Within n

theorem within_step (hu : u.Roomy) {inner : Reader Json} {seen : Gathered ι} {name : String}
    {fault : Fault} (h : u.step inner seen name = .error fault) : fault.Within n := by
  unfold step at h
  split at h
  · next hname =>
    split at h
    · cases h
      rw [hname]
      exact hu.tag
    · cases h
  · cases h

theorem bounded_step (hu : u.Roomy) {inner : Reader Json}
    (hinner : inner.Bounded n fun j => j.found.Within n) {seen : Gathered ι}
    (hseen : GatheredWithin n seen) {name : String} {reader : Reader (Gathered ι)}
    (h : u.step inner seen name = .ok reader) : reader.Bounded n (GatheredWithin n) := by
  unfold step at h
  split at h
  · split at h
    · cases h
    · cases h
      exact (bounded_readTag hu).map fun _ _ => hseen
  · cases h
    exact hinner.map fun j hj => List.forall_mem_cons.2 ⟨hj, hseen⟩

/-- What begins each part of the content stands in the document, and there are no more items than
bytes. -/
def Content.Within (n : Nat) : Content → Prop
  | .members ms => ∀ m ∈ ms, m.2.found.Within n
  | .items js => js.length ≤ n ∧ ∀ j ∈ js, j.found.Within n

theorem bounded_gather (hu : u.Roomy) {inner : Reader Json}
    (hinner : inner.Bounded n fun j => j.found.Within n) (s : Bytes) (hs : s.length ≤ n) :
    Bounded n (fun g => g.2.Within n) (u.gather inner s) := by
  have hblank := Nat.le_trans (skipBlank_le s) hs
  have hdrop {f : Found} {r : Bytes} (hfound : foundAt (skipBlank s) = .ok (f, r)) :
      (r.drop 1).length ≤ n := by
    rw [List.length_drop]
    rcases foundAt_lt hfound with hlt | ⟨-, rfl⟩ <;> omega
  unfold gather
  split
  · next hfound => exact (foundAt_lexical _).within hfound
  · next r hfound =>
    have hr := hdrop hfound
    split
    · next hn => exact (Reader.nextItem_lexical ..).within hn
    · exact hu.tag
    · next t hn =>
      have ht : t.length ≤ (r.drop 1).length := (Reader.nextItem_le hn).1
      split
      · next htag => exact (bounded_readTag hu).within (by omega) htag
      · next i v htag =>
        have hv := u.readTag.progress htag
        have hitems := Reader.bounded_itemsFrom hinner false [] v (by simp)
          (by rw [List.length_nil]; omega)
        split
        · next hrun =>
          rw [hrun] at hitems
          exact hitems
        · next hrun =>
          rw [hrun] at hitems
          exact hitems
  · next r hfound =>
    have hmembers : Bounded n (GatheredWithin n)
        ((Reader.members (u.step inner) (none, [])).run (r.drop 1)) :=
      Reader.bounded_membersFrom (fun _ _ _ _ => within_step hu)
        (fun _ _ _ hseen => bounded_step hu hinner hseen) true _ _ (by simp [GatheredWithin])
        (hdrop hfound)
    split
    · next hrun =>
      rw [hrun] at hmembers
      show Fault.Within n (Failure.settle ..).fault
      rw [fault_settle]
      exact hmembers
    · exact hu.tag
    · next hrun =>
      rw [hrun] at hmembers
      intro m hm
      exact hmembers m (List.mem_reverse.1 hm)
  · next hfound => exact ⟨within_foundAt hfound hblank, hu.title⟩

theorem within_resolve (hu : u.Roomy) {i : ι} {content : Content} (hcontent : content.Within n)
    {fault : Fault} (h : u.resolve i content = .error fault) : fault.Within n := by
  cases content with
  | members ms => exact within_ofMembers Kind.within_accept (hu.record i).named hcontent h
  | items items =>
    exact within_ofItems Kind.within_accept (hu.record i) hcontent.1 hcontent.2 h

/-- A union is read within bounds if the values that it gathers are. -/
theorem bounded_reader (hu : u.Roomy) {inner : Reader Json}
    (hinner : inner.Bounded n fun j => j.found.Within n) :
    (u.reader inner).Bounded n fun _ => True := by
  intro s hs
  have hgather := bounded_gather hu hinner s hs
  show Bounded n _ (u.run inner s)
  unfold run
  split
  · next hrun =>
    rw [hrun] at hgather
    exact hgather
  · next hrun =>
    rw [hrun] at hgather
    split
    · next hrefused => exact within_resolve hu hgather hrefused
    · trivial

end Union

/-! ## Documents -/

section Documents

variable {reader : Reader α} {P : α → Prop} {s : Bytes} (h : reader.Bounded s.length P)

include h

/-- The fault of a document names only what stands in the document. -/
theorem Reader.Bounded.document_error {e : Failure} (hrun : document reader s = .error e) :
    e.fault.Within s.length := by
  unfold Json.document at hrun
  split at hrun
  · next hread =>
    cases hrun
    exact h.within (Nat.le_refl _) hread
  · split at hrun
    · cases hrun
    · cases hrun
      trivial

theorem Reader.Bounded.document_ok {v : α} (hrun : document reader s = .ok v) : P v := by
  unfold Json.document at hrun
  split at hrun
  · cases hrun
  · next hread =>
    split at hrun
    · cases hrun
      exact h.holds (Nat.le_refl _) hread
    · cases hrun

end Documents

end Json
end ModelRegistry
