import ModelRegistry.Json.Schema
import ModelRegistry.Proofs.Json.Skipping

/-!
# What records and unions make of members

A record takes each of its fields from the members: a field that occurs once has the value of its
member, one that does not occur its fallback, and one that occurs twice makes the record be refused
(`Field.among?`, `Values.among?`).  Nothing here depends on the order of members of different names,
nor on members of other names.  Both ways of reading a record come to this: straight from a document
(`record_means`) and from gathered members (`toOption_ofMembers`).  Each fills slots, and the fold
that fills all of them falls apart into the folds for the single fields, because field names are
distinct (`foldlM_put_cons`).

A union takes its case from the tag, which has to occur once, and then is the record of the case
(`Union.among?`).
-/

namespace ModelRegistry
namespace Json

/-! ## Values of a name -/

/-- The values that members give to a name, in order. -/
def valuesOf (ms : List (String × Json)) (name : String) : List Json :=
  ms.filterMap fun m => if m.1 = name then some m.2 else none

@[simp] theorem valuesOf_nil (name : String) : valuesOf [] name = [] := rfl

@[simp] theorem valuesOf_cons (m : String × Json) (ms : List (String × Json)) (name : String) :
    valuesOf (m :: ms) name = if m.1 = name then m.2 :: valuesOf ms name else valuesOf ms name := by
  by_cases h : m.1 = name <;> simp [valuesOf, h]

theorem mem_valuesOf {ms : List (String × Json)} {name : String} {j : Json} :
    j ∈ valuesOf ms name ↔ (name, j) ∈ ms := by
  induction ms with
  | nil => simp
  | cons m ms ih =>
    obtain ⟨other, value⟩ := m
    by_cases h : other = name
    · simp [h, ih]
    · simp [h, ih, Ne.symm h]

theorem valuesOf_append (ms ms' : List (String × Json)) (name : String) :
    valuesOf (ms ++ ms') name = valuesOf ms name ++ valuesOf ms' name := List.filterMap_append

theorem valuesOf_perm {ms ms' : List (String × Json)} (h : ms.Perm ms') (name : String) :
    (valuesOf ms name).Perm (valuesOf ms' name) := h.filterMap _

/-- The values of a name in other members: these members in some order, with more of other names. -/
theorem valuesOf_perm_of_extra {ms ms' extra : List (String × Json)} (h : ms'.Perm (ms ++ extra))
    {name : String} (hextra : valuesOf extra name = []) :
    (valuesOf ms name).Perm (valuesOf ms' name) := by
  have hname := valuesOf_perm h name
  rw [valuesOf_append, hextra, List.append_nil] at hname
  exact hname.symm

theorem valuesOf_of_notMem {ms : List (String × Json)} {name : String}
    (h : name ∉ ms.map Prod.fst) : valuesOf ms name = [] :=
  List.filterMap_eq_nil_iff.2 fun m hm =>
    if_neg fun hname : m.1 = name => h (hname ▸ List.mem_map_of_mem hm)

/-- Where no name is repeated, a member has the only value of its name. -/
theorem valuesOf_of_mem {ms : List (String × Json)} (hnodup : (ms.map Prod.fst).Nodup)
    {name : String} {j : Json} (h : (name, j) ∈ ms) : valuesOf ms name = [j] := by
  induction ms with
  | nil => cases h
  | cons m ms ih =>
    obtain ⟨hm, hms⟩ := List.nodup_cons.1 hnodup
    rcases List.mem_cons.1 h with rfl | h
    · rw [valuesOf_cons, if_pos rfl, valuesOf_of_notMem hm]
    · have hne : m.1 ≠ name := fun hname => hm (hname ▸ List.mem_map_of_mem h)
      rw [valuesOf_cons, if_neg hne, ih hms h]

/-- Members of other names do not matter. -/
theorem valuesOf_filter {ms : List (String × Json)} {tag name : String} (hne : name ≠ tag) :
    valuesOf (ms.filter fun m => m.1 ≠ tag) name = valuesOf ms name := by
  induction ms with
  | nil => rfl
  | cons m ms ih =>
    by_cases htag : m.1 = tag
    · have hname : ¬ m.1 = name := fun h => hne (h.symm.trans htag)
      rw [List.filter_cons_of_neg (by simpa using htag), ih, valuesOf_cons, if_neg hname]
    · rw [List.filter_cons_of_pos (by simpa using htag), valuesOf_cons, valuesOf_cons, ih]

section Records

variable {κ : Type} {V : κ → Type} (meaning : (k : κ) → Json → Option (V k))

/-! ## The values of a record -/

/-- The value that a field has among members: that of the only member of its name, or its fallback
if there is none. -/
def Field.among? (f : Field κ V) (ms : List (String × Json)) : Option (V f.kind) :=
  match valuesOf ms f.name with
  | [] => f.fallback
  | [j] => meaning f.kind j
  | _ => none

/-- The values that fields have among members, if all of them have one. -/
def Values.among? : (fs : List (Field κ V)) → List (String × Json) → Option (Values fs)
  | [], _ => some ()
  | f :: fs, ms =>
    (f.among? meaning ms).bind fun v => (Values.among? fs ms).map fun vs => (v, vs)

variable {meaning}

theorem Values.among?_congr {fs : List (Field κ V)} {ms ms' : List (String × Json)}
    (h : ∀ f ∈ fs, valuesOf ms f.name = valuesOf ms' f.name) :
    Values.among? meaning fs ms = Values.among? meaning fs ms' := by
  induction fs with
  | nil => rfl
  | cons f fs ih =>
    obtain ⟨hf, hfs⟩ := List.forall_mem_cons.1 h
    rw [Values.among?, Values.among?, Field.among?, Field.among?, hf, ih hfs]

/-! ## Slots -/

variable (meaning)

/-- What a member makes of the slot of a field: a field is filled once. -/
def Field.fill (f : Field κ V) (slot : Option (V f.kind)) (m : String × Json) :
    Option (Option (V f.kind)) :=
  if m.1 = f.name then
    match slot with
    | some _ => none
    | none => (meaning f.kind m.2).map some
  else some slot

/-- What a member makes of slots. -/
def Slots.put : (fs : List (Field κ V)) → Slots fs → String × Json → Option (Slots fs)
  | [], (), _ => some ()
  | f :: fs, (slot, slots), m =>
    if m.1 = f.name then (f.fill meaning slot m).map fun slot => (slot, slots)
    else (Slots.put fs slots m).map fun slots => (slot, slots)

variable {meaning}

theorem Field.fill_none {f : Field κ V} {m : String × Json} (hm : m.1 = f.name) :
    f.fill meaning none m = (meaning f.kind m.2).map some :=
  if_pos hm

theorem Field.fill_some {f : Field κ V} {m : String × Json} (hm : m.1 = f.name) (v : V f.kind) :
    f.fill meaning (some v) m = none :=
  if_pos hm

theorem Field.fill_of_ne {f : Field κ V} {m : String × Json} (hm : m.1 ≠ f.name)
    (slot : Option (V f.kind)) : f.fill meaning slot m = some slot := by
  cases slot <;> exact if_neg hm

theorem Field.foldlM_fill_some (f : Field κ V) (v : V f.kind) (ms : List (String × Json)) :
    ms.foldlM (f.fill meaning) (some v) =
      match valuesOf ms f.name with
      | [] => some (some v)
      | _ => none := by
  induction ms with
  | nil => rfl
  | cons m ms ih =>
    rw [List.foldlM_cons, valuesOf_cons]
    by_cases hm : m.1 = f.name
    · rw [Field.fill_some hm, if_pos hm]
      rfl
    · rw [Field.fill_of_ne hm, if_neg hm]
      exact ih

/-- A slot ends up with what its field has among the members. -/
theorem Field.foldlM_fill (f : Field κ V) (ms : List (String × Json)) :
    (ms.foldlM (f.fill meaning) none).bind (fun slot => slot.or f.fallback) =
      f.among? meaning ms := by
  induction ms with
  | nil => rfl
  | cons m ms ih =>
    rw [List.foldlM_cons, Field.among?, valuesOf_cons]
    by_cases hm : m.1 = f.name
    · rw [Field.fill_none hm, if_pos hm]
      cases hv : meaning f.kind m.2 with
      | none =>
        cases valuesOf ms f.name with
        | nil => exact hv.symm
        | cons j js => rfl
      | some v =>
        show (ms.foldlM (f.fill meaning) (some v)).bind _ = _
        rw [f.foldlM_fill_some v ms]
        cases valuesOf ms f.name with
        | nil => exact hv.symm
        | cons j js => rfl
    · rw [Field.fill_of_ne hm, if_neg hm]
      exact ih

/-- A member of another name leaves slots as they are. -/
theorem Slots.put_of_notMem {fs : List (Field κ V)} {m : String × Json}
    (hm : m.1 ∉ fs.map Field.name) (slots : Slots fs) :
    Slots.put meaning fs slots m = some slots := by
  induction fs with
  | nil => rfl
  | cons f fs ih =>
    obtain ⟨slot, slots⟩ := slots
    obtain ⟨hf, hfs⟩ := not_or.1 (mt List.mem_cons.2 hm)
    rw [Slots.put, if_neg hf, ih hfs]
    rfl

theorem Slots.put_cons {f : Field κ V} {fs : List (Field κ V)}
    (hf : f.name ∉ fs.map Field.name) (slot : Option (V f.kind)) (slots : Slots fs)
    (m : String × Json) :
    Slots.put meaning (f :: fs) (slot, slots) m =
      (f.fill meaning slot m).bind fun slot =>
        (Slots.put meaning fs slots m).map fun slots => (slot, slots) := by
  rw [Slots.put]
  by_cases hm : m.1 = f.name
  · rw [if_pos hm, Slots.put_of_notMem (by rwa [hm])]
    cases f.fill meaning slot m <;> rfl
  · rw [if_neg hm, Field.fill_of_ne hm]
    rfl

/-- Slots are filled one by one. -/
theorem Slots.foldlM_put_cons {f : Field κ V} {fs : List (Field κ V)}
    (hf : f.name ∉ fs.map Field.name) (slot : Option (V f.kind)) (slots : Slots fs)
    (ms : List (String × Json)) :
    ms.foldlM (Slots.put meaning (f :: fs)) (slot, slots) =
      (ms.foldlM (f.fill meaning) slot).bind fun slot =>
        (ms.foldlM (Slots.put meaning fs) slots).map fun slots => (slot, slots) := by
  induction ms generalizing slot slots with
  | nil => rfl
  | cons m ms ih =>
    have hfirst : (m :: ms).foldlM (Slots.put meaning (f :: fs)) (slot, slots) =
        (Slots.put meaning (f :: fs) (slot, slots) m).bind
          (ms.foldlM (Slots.put meaning (f :: fs))) := rfl
    rw [hfirst, Slots.put_cons hf, List.foldlM_cons, List.foldlM_cons]
    cases f.fill meaning slot m with
    | none => rfl
    | some slot' =>
      cases Slots.put meaning fs slots m with
      | none =>
        show none = (ms.foldlM (f.fill meaning) slot').bind fun _ => none
        cases ms.foldlM (f.fill meaning) slot' <;> rfl
      | some slots' => exact ih slot' slots'

theorem Slots.finish_cons (f : Field κ V) (fs : List (Field κ V)) (slot : Option (V f.kind))
    (slots : Slots fs) :
    (Slots.finish (f :: fs) (slot, slots)).toOption =
      (slot.or f.fallback).bind fun v =>
        (Slots.finish fs slots).toOption.map fun vs => (v, vs) := by
  rw [Slots.finish]
  cases slot.or f.fallback with
  | none => rfl
  | some v =>
    simp only [Option.bind_some]
    cases Slots.finish fs slots <;> rfl

/-- Slots that have been filled are what the record has among the members. -/
theorem Slots.foldlM_put {fs : List (Field κ V)} (hnodup : (fs.map Field.name).Nodup)
    (ms : List (String × Json)) :
    (ms.foldlM (Slots.put meaning fs) (Slots.empty fs)).bind
        (fun slots => (Slots.finish fs slots).toOption) = Values.among? meaning fs ms := by
  induction fs with
  | nil =>
    have hfold : ms.foldlM (Slots.put meaning []) () = some () := by
      induction ms with
      | nil => rfl
      | cons m ms ih => exact ih
    rw [Slots.empty, hfold]
    rfl
  | cons f fs ih =>
    obtain ⟨hf, hfs⟩ := List.nodup_cons.1 hnodup
    rw [Slots.empty, Slots.foldlM_put_cons hf, Values.among?, ← f.foldlM_fill, ← ih hfs]
    cases ms.foldlM (f.fill meaning) none with
    | none => rfl
    | some slot =>
      simp only [Option.bind_some]
      cases ms.foldlM (Slots.put meaning fs) (Slots.empty fs) with
      | none => cases slot.or f.fallback <;> rfl
      | some slots =>
        simp only [Option.map_some, Option.bind_some]
        exact Slots.finish_cons f fs slot slots

/-! ## Records in a document -/

variable {read : (k : κ) → Reader (V k)}

theorem Slots.interprets_step {fs : List (Field κ V)} {m : String × Json}
    (hm : ∀ f ∈ fs, f.name = m.1 → (read f.kind).Means m.2 (meaning f.kind m.2)) :
    Interprets (Slots.step read fs) (Slots.put meaning fs) m := by
  induction fs with
  | nil =>
    intro slots
    exact skip_means m.2
  | cons f fs ih =>
    obtain ⟨hf, hfs⟩ := List.forall_mem_cons.1 hm
    intro slots
    obtain ⟨slot, slots⟩ := slots
    by_cases hname : m.1 = f.name
    · cases slot with
      | some v =>
        simp only [Slots.step, Slots.put, if_pos hname, Field.fill_some hname]
        rfl
      | none =>
        have hvalue := (hf hname.symm).map fun v => ((some v, slots) : Slots (f :: fs))
        simp only [Slots.step, Slots.put, if_pos hname, Field.fill_none hname]
        exact (Option.map_map _ _ _).symm ▸ hvalue
    · have hlater := ih hfs slots
      simp only [Slots.step, Slots.put, if_neg hname]
      cases hstep : Slots.step read fs slots m.1 with
      | error fault =>
        simp only [hstep] at hlater
        simp only [hlater]
        rfl
      | ok reader =>
        simp only [hstep] at hlater
        exact hlater.map fun slots => ((slot, slots) : Slots (f :: fs))

/-- A record is read as what it has among the members of the object. -/
theorem record_means (name : String) {fs : List (Field κ V)} (hnodup : (fs.map Field.name).Nodup)
    {ms : List (String × Json)}
    (hms : ∀ m ∈ ms, ∀ f ∈ fs, f.name = m.1 → (read f.kind).Means m.2 (meaning f.kind m.2)) :
    (recordReader read name fs).Means (.object ms) (Values.among? meaning fs ms) := by
  intro w s rest hw hs hrest
  cases hs with
  | object hs =>
    have hfound := foundAt_object hw hs rest
    have hsteps : ∀ m ∈ ms, Interprets (Slots.step read fs) (Slots.put meaning fs) m :=
      fun m hm => Slots.interprets_step (hms m hm)
    have hrun := members_run hsteps hs (Slots.empty fs) rest
    rw [← Slots.foldlM_put hnodup]
    simp only [recordReader, recordRun, hfound, List.drop_succ_cons, List.drop_zero]
    cases hfold : ms.foldlM (Slots.put meaning fs) (Slots.empty fs) with
    | none =>
      rw [hfold] at hrun
      obtain ⟨failure, hrun⟩ := exists_error_of_toOption hrun
      simp only [hrun]
      rfl
    | some slots =>
      rw [hfold] at hrun
      have hrun := eq_ok_of_toOption hrun
      simp only [hrun, Option.bind_some]
      cases hfinish : Slots.finish fs slots with
      | error fault => rfl
      | ok vs => rfl

/-- A list is read as what its items are read as. -/
theorem list_means {α : Type} {item : Reader α} {items : List Json} {vs : List α}
    (hitems : List.Forall₂ (fun j v => item.Means j (some v)) items vs) :
    (listReader item).Means (.array items) (some vs) := by
  intro w s rest hw hs hrest
  have hfound : foundAt (skipBlank (w ++ (s ++ rest))) = .ok ((array items).found, s ++ rest) := by
    rw [skipBlank_written hw hs]
    exact foundAt_compound id hs rest
  simp only [listReader, listRun, hfound]
  cases hs with
  | array hs =>
    have hrun := itemsFrom_written hitems .first hs (fun _ => rfl) [] rest
    rw [List.nil_append] at hrun
    simp only [found, List.cons_append, List.append_assoc, List.nil_append, List.drop_succ_cons,
      List.drop_zero, Reader.items, hrun]
    rfl

/-! ## Records among gathered members -/

variable {accept : (k : κ) → Found → Except Fault (V k)}

/-- What is accepted of a gathered value. -/
def accepted (accept : (k : κ) → Found → Except Fault (V k)) (k : κ) (j : Json) : Option (V k) :=
  (accept k j.found).toOption

theorem toOption_take (fs : List (Field κ V)) (slots : Slots fs) (m : String × Json) :
    (Slots.take accept fs slots m).toOption = Slots.put (accepted accept) fs slots m := by
  induction fs with
  | nil => rfl
  | cons f fs ih =>
    obtain ⟨slot, slots⟩ := slots
    obtain ⟨name, value⟩ := m
    by_cases hname : name = f.name
    · cases slot with
      | some v =>
        simp only [Slots.take, Slots.put, if_pos hname,
          Field.fill_some (m := (name, value)) hname]
        rfl
      | none =>
        simp only [Slots.take, Slots.put, if_pos hname,
          Field.fill_none (m := (name, value)) hname, accepted]
        cases accept f.kind value.found <;> rfl
    · simp only [Slots.take, Slots.put, if_neg hname, ← ih slots]
      cases Slots.take accept fs slots (name, value) <;> rfl

theorem toOption_takeAll (fs : List (Field κ V)) (slots : Slots fs) (ms : List (String × Json)) :
    (Slots.takeAll accept fs slots ms).toOption =
      ms.foldlM (Slots.put (accepted accept) fs) slots := by
  induction ms generalizing slots with
  | nil => rfl
  | cons m ms ih =>
    rw [Slots.takeAll, List.foldlM_cons, ← toOption_take]
    cases Slots.take accept fs slots m with
    | error fault => rfl
    | ok slots' => exact ih slots'

theorem toOption_ofMembers {fs : List (Field κ V)} (hnodup : (fs.map Field.name).Nodup)
    (ms : List (String × Json)) :
    (ofMembers accept fs ms).toOption = Values.among? (accepted accept) fs ms := by
  rw [← Slots.foldlM_put hnodup, ← toOption_takeAll, ofMembers]
  cases Slots.takeAll accept fs (Slots.empty fs) ms <;> rfl

end Records

/-! ## Kinds of scalar -/

namespace Kind

/-- What a kind accepts is what it writes. -/
theorem accepted_eq_some_iff {k : Kind} {j : Json} {v : k.Value} :
    accepted accept k j = some v ↔ j = k.toJson v := by
  have hrange (n : Nat) (h : (n : Int) < UInt32.size) : (UInt32.ofNat n).toNat = n :=
    UInt32.toNat_ofNat_of_lt' (Int.ofNat_lt.1 h)
  constructor
  · intro h
    have hok := eq_ok_of_toOption h
    cases k with
    | text =>
      cases j <;> cases hok
      rfl
    | flag =>
      cases j <;> cases hok
      rfl
    | version =>
      cases j with
      | number n =>
        cases n with
        | integer z =>
          simp only [found, accept] at hok
          split at hok
          · next hz =>
            cases hok
            have htoNat := hrange z.toNat (by omega)
            simp only [toJson, htoNat, Int.toNat_of_nonneg hz.1]
          · cases hok
        | real => cases hok
      | _ => cases hok
    | status =>
      cases j with
      | number n =>
        cases n with
        | integer z =>
          simp only [found, accept] at hok
          split at hok
          · next hz =>
            cases hok
            have htoInt : (Int32.ofInt z).toInt = z := Int32.toInt_ofInt_of_le hz.1 hz.2
            simp only [toJson, htoInt]
          · cases hok
        | real => cases hok
      | _ => cases hok
  · rintro rfl
    cases k with
    | text => rfl
    | flag => rfl
    | version =>
      have hlt : (v.toNat : Int) < (UInt32.size : Int) := Int.ofNat_lt.2 (UInt32.toNat_lt v)
      simp only [accepted, toJson, found, accept]
      rw [if_pos ⟨Int.natCast_nonneg _, hlt⟩, Int.toNat_natCast, UInt32.ofNat_toNat]
      rfl
    | status =>
      have hlow := Int32.le_toInt v
      have hhigh := Int32.toInt_lt v
      simp only [accepted, toJson, found, accept]
      rw [if_pos ⟨by omega, by omega⟩, Int32.ofInt_toInt]
      rfl

theorem read_means (k : Kind) (j : Json) : k.read.Means j (accepted accept k j) := by
  apply scalar_means
  · cases k <;> rfl
  · cases k <;> rfl

end Kind

/-! ## Plain records -/

/-- A field holds a value: one member has its name, and the value, or none has its name and the
value is its fallback. -/
def PlainField.Holds (f : PlainField) (ms : List (String × Json)) (v : f.kind.Value) : Prop :=
  valuesOf ms f.name = [f.kind.toJson v] ∨ valuesOf ms f.name = [] ∧ f.fallback = some v

/-- Every field holds its value. -/
def Values.Held (ms : List (String × Json)) : (fs : List PlainField) → Values fs → Prop
  | [], () => True
  | f :: fs, (v, vs) => PlainField.Holds f ms v ∧ Values.Held ms fs vs

theorem PlainField.among?_eq_some_iff {f : PlainField} {ms : List (String × Json)}
    {v : f.kind.Value} :
    Field.among? (accepted Kind.accept) f ms = some v ↔ PlainField.Holds f ms v := by
  unfold Field.among? PlainField.Holds
  rcases valuesOf ms f.name with _ | ⟨j, _ | ⟨j', js⟩⟩
  · simp
  · simp [Kind.accepted_eq_some_iff]
  · simp

/-- The values that a record has among members are those that its fields hold. -/
theorem Values.among?_eq_some_iff {fs : List PlainField} {ms : List (String × Json)}
    {vs : Values fs} :
    Values.among? (accepted Kind.accept) fs ms = some vs ↔ Values.Held ms fs vs := by
  induction fs with
  | nil => exact iff_of_true rfl trivial
  | cons f fs ih =>
    obtain ⟨v, vs⟩ := vs
    rw [Values.among?, Values.Held, ← PlainField.among?_eq_some_iff, ← ih]
    constructor
    · intro h
      obtain ⟨v', hv, h⟩ := Option.bind_eq_some_iff.1 h
      obtain ⟨vs', hvs, heq⟩ := Option.map_eq_some_iff.1 h
      cases heq
      exact ⟨hv, hvs⟩
    · rintro ⟨hv, hvs⟩
      rw [hv, Option.bind_some, hvs]
      rfl

theorem PlainField.Holds.of_perm {f : PlainField} {ms ms' : List (String × Json)}
    {v : f.kind.Value} (h : PlainField.Holds f ms v)
    (hms : (valuesOf ms f.name).Perm (valuesOf ms' f.name)) : PlainField.Holds f ms' v := by
  rcases h with hone | ⟨hnone, hfallback⟩
  · rw [hone] at hms
    exact .inl (List.singleton_perm.1 hms).symm
  · rw [hnone] at hms
    exact .inr ⟨List.nil_perm.1 hms, hfallback⟩

/-- What is held only depends on the values of the field's names. -/
theorem Values.Held.of_perm {fs : List PlainField} {ms ms' : List (String × Json)} {vs : Values fs}
    (h : Values.Held ms fs vs)
    (hms : ∀ f ∈ fs, (valuesOf ms f.name).Perm (valuesOf ms' f.name)) : Values.Held ms' fs vs := by
  induction fs with
  | nil => trivial
  | cons f fs ih =>
    obtain ⟨v, vs⟩ := vs
    obtain ⟨hf, hfs⟩ := List.forall_mem_cons.1 hms
    obtain ⟨hv, hvs⟩ := h
    exact ⟨hv.of_perm hf, ih hvs hfs⟩

/-- A field whose only member holds its fallback is as well without the member. -/
theorem PlainField.holds_iff_of_fallback {f : PlainField} {ms ms' : List (String × Json)}
    {v fallback : f.kind.Value} (hfallback : f.fallback = some fallback)
    (hone : valuesOf ms f.name = [f.kind.toJson fallback]) (hnone : valuesOf ms' f.name = []) :
    PlainField.Holds f ms v ↔ PlainField.Holds f ms' v := by
  have hinj : f.kind.toJson fallback = f.kind.toJson v ↔ fallback = v := by
    rw [← Kind.accepted_eq_some_iff, Kind.accepted_eq_some_iff.2 rfl, Option.some.injEq]
  simp [PlainField.Holds, hone, hnone, hfallback, hinj]

/-- Members that hold fallbacks may be left out, if nothing else has their names. -/
theorem Values.held_iff_of_left {fs : List PlainField} {ms ms' left : List (String × Json)}
    {vs : Values fs} (hperm : ms.Perm (ms' ++ left))
    (hleft : ∀ f ∈ fs, valuesOf left f.name = [] ∨
      valuesOf ms' f.name = [] ∧
        ∃ v, f.fallback = some v ∧ valuesOf left f.name = [f.kind.toJson v]) :
    Values.Held ms fs vs ↔ Values.Held ms' fs vs := by
  induction fs with
  | nil => exact iff_of_true trivial trivial
  | cons f fs ih =>
    obtain ⟨v, vs⟩ := vs
    obtain ⟨hf, hfs⟩ := List.forall_mem_cons.1 hleft
    rw [Values.Held, Values.Held, ih hfs]
    refine and_congr_left' ?_
    rcases hf with hnone | ⟨hnone, fallback, hfallback, hone⟩
    · have hname := valuesOf_perm_of_extra hperm hnone
      exact ⟨fun h => h.of_perm hname.symm, fun h => h.of_perm hname⟩
    · have hname := valuesOf_perm hperm f.name
      rw [valuesOf_append, hnone, hone, List.nil_append, List.perm_singleton] at hname
      exact PlainField.holds_iff_of_fallback hfallback hname hnone

/-- The values of a record do not depend on the order of the members, nor on members that hold
fallbacks. -/
theorem Values.among?_eq_of_left {fs : List PlainField} {ms ms' left : List (String × Json)}
    (hperm : ms.Perm (ms' ++ left)) (honce : (left.map Prod.fst).Nodup)
    (hother : ∀ m ∈ left, m.1 ∉ ms'.map Prod.fst)
    (hleft : ∀ m ∈ left, ∀ f ∈ fs, f.name = m.1 →
      ∃ v, f.fallback = some v ∧ m.2 = f.kind.toJson v) :
    Values.among? (accepted Kind.accept) fs ms = Values.among? (accepted Kind.accept) fs ms' := by
  refine Option.ext fun vs => ?_
  rw [among?_eq_some_iff, among?_eq_some_iff]
  refine held_iff_of_left hperm fun f hf => ?_
  by_cases hmem : f.name ∈ left.map Prod.fst
  · obtain ⟨⟨name, j⟩, hm, rfl⟩ := List.mem_map.1 hmem
    obtain ⟨v, hfallback, rfl⟩ := hleft _ hm f hf rfl
    exact .inr ⟨valuesOf_of_notMem (hother _ hm), v, hfallback, valuesOf_of_mem honce hm⟩
  · exact .inl (valuesOf_of_notMem hmem)

/-! ## Tagged unions -/

namespace Union

variable {ι : Type} (u : Union ι)

/-- What a union has among members: the only value of the tag gives the case, and the values of the
case are those of its record. -/
def among? (ms : List (String × Json)) : Option u.Choice :=
  match valuesOf ms u.tag with
  | [j] =>
    (u.acceptTag j.found).toOption.bind fun i =>
      (Values.among? (accepted Kind.accept) (u.fields i) ms).map fun vs => ⟨i, vs⟩
  | _ => none

/-- Every case is found by its tag, and the tag and the fields have different names. -/
structure Lawful : Prop where
  case?_name : ∀ i, u.case? (u.name i) = some i
  nodup : ∀ i, ((u.fields i).map Field.name).Nodup
  tag_notMem : ∀ i, u.tag ∉ (u.fields i).map Field.name

variable {u}

/-- A tag is accepted for the case that has it. -/
theorem acceptTag_eq_some_iff (hu : u.Lawful) {j : Json} {i : ι} :
    (u.acceptTag j.found).toOption = some i ↔ j = .text (u.name i) := by
  constructor
  · intro h
    have hok := eq_ok_of_toOption h
    cases j with
    | text t =>
      simp only [found, acceptTag] at hok
      split at hok
      · next i' hcase =>
        cases hok
        have hname := List.find?_some hcase
        simp only [decide_eq_true_eq] at hname
        rw [hname]
      · cases hok
    | _ => cases hok
  · rintro rfl
    simp only [found, acceptTag, hu.case?_name]
    rfl

/-- A union has a case among members when the tag occurs once and names the case, and the fields of
the case hold its values. -/
theorem among?_eq_some_iff (hu : u.Lawful) {ms : List (String × Json)} {i : ι}
    {vs : Values (u.fields i)} :
    u.among? ms = some ⟨i, vs⟩ ↔
      valuesOf ms u.tag = [.text (u.name i)] ∧ Values.Held ms (u.fields i) vs := by
  rw [among?, ← Values.among?_eq_some_iff]
  rcases valuesOf ms u.tag with _ | ⟨j, _ | ⟨j', js⟩⟩
  · simp
  · rw [List.cons_eq_cons, and_iff_left rfl, ← acceptTag_eq_some_iff hu]
    constructor
    · intro h
      obtain ⟨i', htag, h⟩ := Option.bind_eq_some_iff.1 h
      obtain ⟨vs', hvs, heq⟩ := Option.map_eq_some_iff.1 h
      cases heq
      exact ⟨htag, hvs⟩
    · rintro ⟨htag, hvs⟩
      simp only [htag, Option.bind_some, hvs, Option.map_some]
  · simp

theorem readTag_means (j : Json) : u.readTag.Means j (u.acceptTag j.found).toOption :=
  scalar_means rfl rfl j

/-! ### Gathering -/

/-- What a member makes of what has been gathered. -/
def put (u : Union ι) (seen : Gathered ι) (m : String × Json) : Option (Gathered ι) :=
  if m.1 = u.tag then
    match seen.1 with
    | some _ => none
    | none => (u.acceptTag m.2.found).toOption.map fun i => (some i, seen.2)
  else some (seen.1, m :: seen.2)

theorem interprets_step {inner : Reader Json} {m : String × Json}
    (hm : inner.Means m.2 (some m.2)) : Interprets (u.step inner) u.put m := by
  intro seen
  rw [step, put]
  by_cases htag : m.1 = u.tag
  · rw [if_pos htag, if_pos htag]
    cases seen.1 with
    | some i => rfl
    | none => exact (readTag_means m.2).map fun i => (some i, seen.2)
  · rw [if_neg htag, if_neg htag]
    exact hm.map fun v => (seen.1, (m.1, v) :: seen.2)

/-- Behind the tag everything else is gathered. -/
theorem foldlM_put_some (i : ι) (seen ms : List (String × Json)) :
    ms.foldlM u.put (some i, seen) =
      match valuesOf ms u.tag with
      | [] => some (some i, (ms.filter fun m => m.1 ≠ u.tag).reverse ++ seen)
      | _ => none := by
  induction ms generalizing seen with
  | nil => rfl
  | cons m ms ih =>
    rw [List.foldlM_cons, put, valuesOf_cons]
    by_cases htag : m.1 = u.tag
    · rw [if_pos htag, if_pos htag]
      rfl
    · rw [if_neg htag, if_neg htag, List.filter_cons_of_pos (by simpa using htag),
        List.reverse_cons, List.append_assoc]
      exact ih (m :: seen)

/-- The tag is taken once, everything else is gathered. -/
theorem foldlM_put (seen ms : List (String × Json)) :
    ms.foldlM u.put (none, seen) =
      match valuesOf ms u.tag with
      | [] => some (none, (ms.filter fun m => m.1 ≠ u.tag).reverse ++ seen)
      | [j] => (u.acceptTag j.found).toOption.map fun i =>
          (some i, (ms.filter fun m => m.1 ≠ u.tag).reverse ++ seen)
      | _ => none := by
  induction ms generalizing seen with
  | nil => rfl
  | cons m ms ih =>
    rw [List.foldlM_cons, put, valuesOf_cons]
    by_cases htag : m.1 = u.tag
    · rw [if_pos htag, if_pos htag, List.filter_cons_of_neg (by simpa using htag)]
      simp only
      cases htoOption : (u.acceptTag m.2.found).toOption with
      | none =>
        cases hvalues : valuesOf ms u.tag with
        | nil => simp [htoOption]
        | cons j js => rfl
      | some i =>
        have hlater := foldlM_put_some (u := u) i seen ms
        rw [Option.map_some]
        show ms.foldlM u.put (some i, seen) = _
        rw [hlater]
        cases hvalues : valuesOf ms u.tag with
        | nil => simp [htoOption]
        | cons j js => rfl
    · rw [if_neg htag, if_neg htag, List.filter_cons_of_pos (by simpa using htag),
        List.reverse_cons, List.append_assoc]
      exact ih (m :: seen)

/-- A union is read as what it has among the members of the object. -/
theorem reader_means (hu : u.Lawful) {inner : Reader Json} {ms : List (String × Json)}
    (hms : ∀ m ∈ ms, inner.Means m.2 (some m.2)) :
    (u.reader inner).Means (.object ms) (u.among? ms) := by
  intro w s rest hw hs hrest
  cases hs with
  | object hs =>
    have hfound := foundAt_object hw hs rest
    have hrun := members_run (fun m hm => interprets_step (u := u) (hms m hm)) hs (none, []) rest
    have hresolve (i : ι) :
        (u.resolve i (.members (ms.filter fun m => m.1 ≠ u.tag))).toOption =
          Values.among? (accepted Kind.accept) (u.fields i) ms := by
      rw [resolve, toOption_ofMembers (hu.nodup i)]
      apply Values.among?_congr
      intro f hf
      apply valuesOf_filter
      intro htag
      exact hu.tag_notMem i (htag ▸ List.mem_map_of_mem hf)
    rw [foldlM_put, List.append_nil] at hrun
    rw [among?]
    simp only [reader, run, gather, hfound, List.drop_succ_cons, List.drop_zero]
    rcases hvalues : valuesOf ms u.tag with _ | ⟨j, _ | ⟨j', js⟩⟩
    · rw [hvalues] at hrun
      simp only [eq_ok_of_toOption hrun]
      rfl
    · rw [hvalues] at hrun
      simp only at hrun ⊢
      cases htag : (u.acceptTag j.found).toOption with
      | none =>
        rw [htag] at hrun
        obtain ⟨failure, hrun⟩ := exists_error_of_toOption hrun
        simp only [hrun]
        rfl
      | some i =>
        rw [htag] at hrun
        simp only [eq_ok_of_toOption hrun, List.reverse_reverse, Option.bind_some, ← hresolve i]
        cases u.resolve i (.members (ms.filter fun m => m.1 ≠ u.tag)) <;> rfl
    · rw [hvalues] at hrun
      obtain ⟨failure, hrun⟩ := exists_error_of_toOption hrun
      simp only [hrun]
      rfl

end Union
end Json
end ModelRegistry
