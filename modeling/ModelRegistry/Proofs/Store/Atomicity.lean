import ModelRegistry.Proofs.Store.OneName

/-!
# A call does all of its work or none

A call that is refused leaves the whole store as it was, and so does every lookup.  A version is
refused as not found when it is not there, and only then; deletion is refused as busy when the
version is the active one and no force is used, and only then.

What a call about one version does when it is accepted stays inside the versions of one model
(`DiffersIn`): activation changes their flags, and a new description and a deletion leave every
record of another number as it is (`DiffersAt`).  These two go by the number of the version.  They
meet one record (`EditsOne`) because no two records of a name have the same number, as long as the
numbers of 32 bits last (`nodup_versions_run`).
-/

namespace ModelRegistry

/-- A call was refused with a status. -/
def RefusedWith (status : Status) {α : Type} (answer : Except Refusal α) : Prop :=
  ∃ message, answer = .error ⟨status, message⟩

theorem not_refusedWith_ok {status : Status} {α : Type} {result : α} :
    ¬ RefusedWith status (.ok result : Except Refusal α) := by
  rintro ⟨message, hrefused⟩
  cases hrefused

theorem refusedWith_error_iff {status : Status} {α : Type} {refusal : Refusal} :
    RefusedWith status (.error refusal : Except Refusal α) ↔ refusal.code = status := by
  constructor
  · rintro ⟨message, hrefused⟩
    rw [Except.error.inj hrefused]
  · rintro rfl
    exact ⟨refusal.message, rfl⟩

/-- Turning a result into a text does not change what is refused. -/
theorem refusedWith_map_iff {status : Status} {α β : Type} {f : α → β}
    {answer : Except Refusal α} : RefusedWith status (answer.map f) ↔ RefusedWith status answer := by
  cases answer with
  | ok result => exact iff_of_false not_refusedWith_ok not_refusedWith_ok
  | error refusal => exact refusedWith_error_iff.trans refusedWith_error_iff.symm

namespace Store

/-! ## When a version is not found -/

/-- A version of a model is there. -/
def Holds (s : Store) (name : String) (version : UInt32) : Prop :=
  ∃ m ∈ s.versions name, m.version = version

/-- A version of a model is there and is the active one. -/
def HoldsActive (s : Store) (name : String) (version : UInt32) : Prop :=
  ∃ m, s.get name version = .ok m ∧ m.active = true

section NotFound

variable {s : Store} {name : String} {version : UInt32}

theorem version?_eq_none_iff : s.version? name version = none ↔ ¬ s.Holds name version := by
  simp [version?, Holds, versions]

/-- The record of a version is looked up where every other call looks for it. -/
theorem get_eq_ok_iff_version? {m : ModelRecord} :
    s.get name version = .ok m ↔ s.version? name version = some m := by
  unfold get
  split
  · next hempty => simp [version?, hempty]
  · cases s.version? name version <;> simp

theorem describe_notFound_iff (hname : name ≠ "") (description : String) :
    RefusedWith .notFound (s.describe name version description).1 ↔ ¬ s.Holds name version := by
  rw [← version?_eq_none_iff, describe, if_neg hname]
  cases s.version? name version with
  | none => exact iff_of_true ⟨_, rfl⟩ rfl
  | some m => exact iff_of_false not_refusedWith_ok (Option.some_ne_none m)

theorem activate_notFound_iff (hname : name ≠ "") :
    RefusedWith .notFound (s.activate name version).1 ↔ ¬ s.Holds name version := by
  rw [← version?_eq_none_iff, activate, if_neg hname]
  cases s.version? name version with
  | none => exact iff_of_true ⟨_, rfl⟩ rfl
  | some m => exact iff_of_false not_refusedWith_ok (Option.some_ne_none m)

theorem get_notFound_iff :
    RefusedWith .notFound (s.get name version) ↔ ¬ s.Holds name version := by
  rw [← version?_eq_none_iff]
  cases hfound : s.version? name version with
  | some m =>
    rw [get_eq_ok_iff_version?.2 hfound]
    exact iff_of_false not_refusedWith_ok (Option.some_ne_none m)
  | none =>
    refine iff_of_true ?_ rfl
    unfold get
    split
    · exact ⟨_, rfl⟩
    · rw [hfound]
      exact ⟨_, rfl⟩

theorem delete_notFound_iff (force : Bool) :
    RefusedWith .notFound (s.delete name version force).1 ↔ ¬ s.Holds name version := by
  rw [← version?_eq_none_iff, delete]
  cases s.version? name version with
  | none => exact iff_of_true ⟨_, rfl⟩ rfl
  | some m =>
    refine iff_of_false ?_ (Option.some_ne_none m)
    simp only
    split
    · intro hrefused
      have hcode : Status.busy = .notFound := refusedWith_error_iff.1 hrefused
      exact absurd hcode (by decide)
    · exact not_refusedWith_ok

/-- Only an active version is busy, and only while no force is used. -/
theorem delete_busy_iff (force : Bool) :
    RefusedWith .busy (s.delete name version force).1 ↔
      s.HoldsActive name version ∧ force = false := by
  simp only [HoldsActive, get_eq_ok_iff_version?]
  unfold delete
  cases s.version? name version with
  | none =>
    refine iff_of_false ?_ (by simp)
    intro hrefused
    have hcode : Status.notFound = .busy := refusedWith_error_iff.1 hrefused
    exact absurd hcode (by decide)
  | some m =>
    simp only
    split
    · next hbusy => exact iff_of_true ⟨_, rfl⟩ (by simpa using hbusy)
    · next hfree => exact iff_of_false not_refusedWith_ok (by simpa using hfree)

end NotFound

/-! ## What is left alone -/

/-- Two stores differ in the versions of one model, if at all. -/
structure DiffersIn (name : String) (s s' : Store) : Prop where
  models : ∀ other, other ≠ name → s'.models.find? other = s.models.find? other
  lastVersion : s'.lastVersion = s.lastVersion
  pipelines : s'.pipelines = s.pipelines
  resources : s'.resources = s.resources

theorem differsIn_keep (s : Store) (name : String) (ms : List ModelRecord) :
    DiffersIn name s (s.keep name ms) where
  models other hother := by rw [find?_models_keep, if_neg (Ne.symm hother)]
  lastVersion := rfl
  pipelines := rfl
  resources := rfl

/-- Two stores differ in the records of one number of one model, if at all. -/
structure DiffersAt (name : String) (version : UInt32) (s s' : Store) : Prop
    extends DiffersIn name s s' where
  others : (s'.versions name).filter (fun m => m.version ≠ version) =
    (s.versions name).filter fun m => m.version ≠ version

/-- A refused call is a step that goes nowhere. -/
theorem Step.eq_of_error {s s' : Store} {c : Call} {refusal : Refusal}
    (hstep : Step s ⟨c, .error refusal⟩ s') : s' = s := by
  cases hstep
  rfl

/-- So is a lookup, whatever comes of it. -/
theorem Step.eq_of_lookup {s s' : Store} {e : Exchange} (hstep : Step s e s')
    (hlookup : e.call.method ∈ [Method.get, .getActive, .getAll]) : s' = s := by
  cases hstep with
  | refused | got | gotActive | gotAll => rfl
  | registered | described | activated | deleted | pipelineSet | resourceAdded =>
    simp [Call.method] at hlookup

/-! ## The edits -/

section Edits

variable {s s' : Store} {name : String} {version : UInt32}

theorem versions_keep (s : Store) (name : String) (ms : List ModelRecord) :
    (s.keep name ms).versions name = ms.reverse := by
  rw [versions, newestFirst_keep, if_pos rfl]

/-- One record is of the version, and it alone is replaced, by the records that `edit` makes of it;
those before and behind it keep their order and their content. -/
def EditsOne (name : String) (version : UInt32) (edit : ModelRecord → List ModelRecord)
    (s s' : Store) : Prop :=
  ∃ before m after, s.versions name = before ++ m :: after ∧ m.version = version ∧
    (∀ other ∈ before ++ after, other.version ≠ version) ∧
    s'.versions name = before ++ edit m ++ after

/-- Where no number is there twice, an edit that goes by the number edits one record. -/
theorem Holds.editsOne {edit : ModelRecord → List ModelRecord} (h : s.Holds name version)
    (hnodup : ((s.versions name).map (·.version)).Nodup)
    (hedit : s'.versions name =
      (s.versions name).flatMap fun m => if m.version = version then edit m else [m]) :
    EditsOne name version edit s s' := by
  obtain ⟨m, hm, rfl⟩ := h
  obtain ⟨before, after, hsplit⟩ := List.append_of_mem hm
  rw [hsplit] at hedit hnodup
  rw [List.map_append, List.map_cons, List.nodup_middle, ← List.map_append] at hnodup
  obtain ⟨hnew, -⟩ := List.nodup_cons.1 hnodup
  have hothers (other : ModelRecord) (hother : other ∈ before ++ after) :
      other.version ≠ m.version := fun heq => hnew (heq ▸ List.mem_map_of_mem hother)
  have hkeeps {ms : List ModelRecord} (hsub : ms ⊆ before ++ after) :
      (ms.flatMap fun other => if other.version = m.version then edit other else [other]) = ms := by
    have hsingle : ∀ other ∈ ms,
        (if other.version = m.version then edit other else [other]) = [other] :=
      fun other hother => if_neg (hothers other (hsub hother))
    rw [List.flatMap_congr hsingle, List.flatMap_singleton']
  refine ⟨before, m, after, hsplit, rfl, hothers, ?_⟩
  rw [hedit, List.flatMap_append, List.flatMap_cons, if_pos rfl,
    hkeeps (List.subset_append_left before after), hkeeps (List.subset_append_right before after),
    List.append_assoc]

/-- A change of one version leaves the records of other numbers alone. -/
theorem filter_change {f : ModelRecord → ModelRecord} (hnumber : ∀ m, (f m).version = m.version)
    (ms : List ModelRecord) :
    (change version f ms).filter (fun m => m.version ≠ version) =
      ms.filter fun m => m.version ≠ version := by
  induction ms with
  | nil => rfl
  | cons m ms ih =>
    rw [change]
    split
    · next hversion => simp [hnumber, hversion]
    · rw [List.filter_cons, List.filter_cons, ih]

/-- Activation changes which records are flagged as active, and nothing else. -/
theorem Step.of_activated (hstep : Step s ⟨.activate name version, .ok ()⟩ s') :
    DiffersIn name s s' ∧ s'.versions name =
      (s.versions name).map fun m => { m with active := m.version = version } := by
  cases hstep with
  | activated hname hm =>
    refine ⟨differsIn_keep _ _ _, ?_⟩
    rw [versions_keep, versions, List.map_reverse]

/-- A description changes in the record of its version. -/
theorem Step.of_described {description : String}
    (hstep : Step s ⟨.describe name version description, .ok ()⟩ s') :
    DiffersAt name version s s' ∧ (((s.versions name).map (·.version)).Nodup →
      EditsOne name version (fun m => [{ m with description }]) s s') := by
  cases hstep with
  | described hname hm =>
    obtain ⟨hmem, hversion⟩ := version?_eq_some hm
    refine ⟨⟨differsIn_keep _ _ _, ?_⟩, fun hnodup => ?_⟩
    · rw [versions_keep, List.reverse_reverse, filter_change]
      intro m
      rfl
    · refine Holds.editsOne ⟨_, mem_versions.2 hmem, hversion⟩ hnodup ?_
      rw [versions_keep, List.reverse_reverse, change_eq_map hnodup, List.map_eq_flatMap]
      refine List.flatMap_congr fun m _ => ?_
      rw [apply_ite fun m : ModelRecord => [m]]

/-- Deletion takes out the record of its version. -/
theorem Step.of_deleted {force : Bool}
    (hstep : Step s ⟨.delete name version force, .ok ()⟩ s') :
    DiffersAt name version s s' ∧ (((s.versions name).map (·.version)).Nodup →
      EditsOne name version (fun _ => []) s s') := by
  cases hstep with
  | deleted hm hforce =>
    obtain ⟨hmem, hversion⟩ := version?_eq_some hm
    have hleft := versions_keep s name ((s.newestFirst name).filter fun m => m.version ≠ version)
    rw [← List.filter_reverse, ← versions] at hleft
    refine ⟨⟨differsIn_keep _ _ _, ?_⟩, fun hnodup => ?_⟩
    · rw [hleft, List.filter_filter]
      simp only [Bool.and_self]
    · refine Holds.editsOne ⟨_, mem_versions.2 hmem, hversion⟩ hnodup ?_
      rw [hleft, ← List.filterMap_eq_filter, List.filterMap_eq_flatMap_toList]
      refine List.flatMap_congr fun m _ => ?_
      by_cases hsame : m.version = version <;> simp [Option.guard, hsame]

end Edits

/-- **A call does all of its work or none.**  Whatever has been called before, a refused call
changes nothing, and neither does a lookup.  Under a name that is not empty, a version is said not
to be found exactly if it is not there, and deletion finds it busy exactly if it is the active one
and no force is used.  A call about one version that is accepted leaves the numbers, the pipelines,
the resources and all other models as they are.  Under its own name activation changes the flags
alone.  A new description and a deletion leave the records of other numbers alone, and as long as
the numbers of the name last, the description changes in one record and the deletion takes out one
record. -/
theorem calls_do_all_or_nothing (cs : List Call) :
    let s := (run cs).2
    (∀ (c : Call) refusal, (backend c s).1 = .error refusal → (backend c s).2 = s) ∧
    (∀ c : Call, c.method ∈ [Method.get, .getActive, .getAll] → (backend c s).2 = s) ∧
    (∀ name version, name ≠ "" →
      (∀ description, RefusedWith .notFound (backend (.describe name version description) s).1 ↔
        ¬ s.Holds name version) ∧
      (RefusedWith .notFound (backend (.activate name version) s).1 ↔ ¬ s.Holds name version) ∧
      (RefusedWith .notFound (backend (.get name version) s).1 ↔ ¬ s.Holds name version) ∧
      ∀ force,
        (RefusedWith .notFound (backend (.delete name version force) s).1 ↔
          ¬ s.Holds name version) ∧
        (RefusedWith .busy (backend (.delete name version force) s).1 ↔
          s.HoldsActive name version ∧ force = false)) ∧
    (∀ name version,
      let s' := (backend (.activate name version) s).2
      (backend (.activate name version) s).1 = .ok () → DiffersIn name s s' ∧
        s'.versions name = (s.versions name).map fun m => { m with active := m.version = version }) ∧
    (∀ name version description,
      let s' := (backend (.describe name version description) s).2
      (backend (.describe name version description) s).1 = .ok () → DiffersAt name version s s' ∧
        ((run cs).1.registrations name < UInt32.size →
          EditsOne name version (fun m => [{ m with description }]) s s')) ∧
    (∀ name version force,
      let s' := (backend (.delete name version force) s).2
      (backend (.delete name version force) s).1 = .ok () → DiffersAt name version s s' ∧
        ((run cs).1.registrations name < UInt32.size →
          EditsOne name version (fun _ => []) s s')) := by
  intro s
  refine ⟨?_, ?_, ?_, ?_, ?_, ?_⟩
  · intro c refusal hrefused
    have hstep := step_backend c s
    rw [hrefused] at hstep
    exact hstep.eq_of_error
  · intro c hlookup
    exact (step_backend c s).eq_of_lookup hlookup
  · intro name version hname
    exact ⟨describe_notFound_iff hname, activate_notFound_iff hname,
      refusedWith_map_iff.trans get_notFound_iff,
      fun force => ⟨delete_notFound_iff force, delete_busy_iff force⟩⟩
  · intro name version s' hok
    have hstep := step_backend (.activate name version) s
    rw [hok] at hstep
    exact hstep.of_activated
  · intro name version description s' hok
    have hstep := step_backend (.describe name version description) s
    rw [hok] at hstep
    obtain ⟨hdiffers, hedits⟩ := hstep.of_described
    exact ⟨hdiffers, fun hcount => hedits (nodup_versions_run hcount)⟩
  · intro name version force s' hok
    have hstep := step_backend (.delete name version force) s
    rw [hok] at hstep
    obtain ⟨hdiffers, hedits⟩ := hstep.of_deleted
    exact ⟨hdiffers, fun hcount => hedits (nodup_versions_run hcount)⟩

/-- Five calls on one store with an active version: without force it is not deleted, with force it
is, another version may be activated or described, and one that was never there is not found. -/
theorem calls_do_all_or_nothing_around_deletion :
    let cs : List Call :=
      [.register "m" "/a" false "" "", .register "m" "/b" true "" "", .register "n" "/a" true "" ""]
    let s := (run cs).2
    "m" ≠ "" ∧ (run cs).1.registrations "m" < UInt32.size ∧
      RefusedWith .busy (backend (.delete "m" 2 false) s).1 ∧
      (backend (.delete "m" 2 false) s).2 = s ∧
      RefusedWith .notFound (backend (.activate "m" 3) s).1 ∧
      (backend (.get "m" 2) s).2 = s ∧
      DiffersIn "m" s (backend (.activate "m" 1) s).2 ∧
      EditsOne "m" 1 (fun m => [{ m with description := "new" }]) s
        (backend (.describe "m" 1 "new") s).2 ∧
      EditsOne "m" 2 (fun _ => []) s (backend (.delete "m" 2 true) s).2 := by
  intro cs s
  have hcount : (run cs).1.registrations "m" < UInt32.size :=
    Nat.lt_of_le_of_lt (registrations_run_le cs "m") (by decide)
  obtain ⟨hrefused, hlookup, hfound, hactivate, hdescribe, hdelete⟩ := calls_do_all_or_nothing cs
  obtain ⟨-, -, -, hforce⟩ := hfound "m" 2 (by decide)
  obtain ⟨-, hactivated, -, -⟩ := hfound "m" 3 (by decide)
  refine ⟨by decide, hcount, (hforce false).2.2 ⟨⟨_, rfl, rfl⟩, rfl⟩, hrefused _ _ rfl,
    hactivated.2 ?_, hlookup _ (by decide), (hactivate "m" 1 rfl).1,
    (hdescribe "m" 1 "new" rfl).2 hcount, (hdelete "m" 2 true rfl).2 hcount⟩
  rw [← version?_eq_none_iff]
  rfl

end Store
end ModelRegistry
