import ModelRegistry.Proofs.Store.Atomicity

/-!
# Strings that must not be empty

Every call requires a name, and some a path or a description besides.  Five of the nine methods look
at them (`Method.Demands`): such a call is some work behind a `demand` of its strings, and the work
is never refused for the sake of a string (`exists_work`).

The four others, the lookups and the deletion, do not look.  They find nothing under the empty name,
since nothing is ever registered under it (`versions_empty_of_reaches`), and so they refuse it as
not found.
-/

namespace ModelRegistry

namespace Call

/-- The strings that a call requires, each behind the word for it, in the order in which they are
looked at. -/
def required : Call → List (String × String)
  | register name path .. | addResource name path .. => [("name", name), ("path", path)]
  | setPipeline name description => [("name", name), ("description", description)]
  | describe name .. | activate name .. | get name .. | getActive name | getAll name
  | delete name .. => [("name", name)]

/-- The word for the first required string that is empty. -/
def missing? (c : Call) : Option String := (c.required.find? (·.2 = "")).map (·.1)

/-- Some string that the call requires is empty. -/
def LacksString (c : Call) : Prop := ∃ string ∈ c.required, string.2 = ""

theorem lacksString_iff {c : Call} : c.LacksString ↔ ∃ field, c.missing? = some field := by
  rw [← Option.isSome_iff_exists, missing?, Option.isSome_map, List.find?_isSome]
  simp [LacksString]

end Call

/-- The methods that look at the strings that their calls require. -/
def Method.Demands (m : Method) : Prop :=
  m ∈ [Method.register, .describe, .activate, .setPipeline, .addResource]

instance (m : Method) : Decidable m.Demands := inferInstanceAs (Decidable (m ∈ _))

/-- The other methods require a name alone. -/
theorem Call.name_of_lacksString {c : Call} (h : ¬ c.method.Demands) (hlacks : c.LacksString) :
    c.name = "" := by
  cases c with
  | get | getActive | getAll | delete => simpa [LacksString, required, name] using hlacks
  | register | describe | activate | setPipeline | addResource =>
    simp [method, Method.Demands] at h

/-- What is not found is not refused for the sake of a string. -/
theorem not_invalidParameter_notFound {α : Type} {message : String} :
    ¬ RefusedWith .invalidParameter (.error (.notFound message) : Except Refusal α) :=
  mt refusedWith_error_iff.1 (show Status.notFound ≠ Status.invalidParameter by decide)

namespace Store

/-! ## The methods that look -/

/-- Do some work, unless one of some strings is empty. -/
def demand {α : Type} (s : Store) (work : Except Refusal α × Store) :
    List (String × String) → Except Refusal α × Store
  | [] => work
  | (field, string) :: strings =>
    if string = "" then (.error (emptyArgument field), s) else demand s work strings

theorem demand_eq {α : Type} (s : Store) (work : Except Refusal α × Store)
    (strings : List (String × String)) :
    demand s work strings =
      match (strings.find? (·.2 = "")).map (·.1) with
      | some field => (.error (emptyArgument field), s)
      | none => work := by
  induction strings with
  | nil => rfl
  | cons string strings ih =>
    by_cases hempty : string.2 = ""
    · simp [demand, hempty]
    · simp [demand, hempty, ih]

/-- To look whether a version is there refuses nothing for the sake of a string. -/
theorem not_invalidParameter_unlessGone (s : Store) (name : String) (version : UInt32)
    {work : Except Refusal Unit × Store} (h : ¬ RefusedWith .invalidParameter work.1) :
    ¬ RefusedWith .invalidParameter
      (if (s.version? name version).isNone then (.error (noVersion name version), s)
        else work).1 := by
  split
  · exact not_invalidParameter_notFound
  · exact h

/-- A call of a method that looks is its work behind a demand of its strings. -/
theorem exists_work (s : Store) {c : Call} (h : c.method.Demands) :
    ∃ work : Answer c × Store, backend c s = demand s work c.required ∧
      ¬ RefusedWith .invalidParameter work.1 := by
  cases c with
  | register => exact ⟨_, rfl, not_refusedWith_ok⟩
  | setPipeline => exact ⟨_, rfl, not_refusedWith_ok⟩
  | addResource => exact ⟨_, rfl, not_refusedWith_ok⟩
  | describe name version =>
    exact ⟨ite ((s.version? name version).isNone = true) _ _, rfl,
      not_invalidParameter_unlessGone s name version not_refusedWith_ok⟩
  | activate name version =>
    exact ⟨ite ((s.version? name version).isNone = true) _ _, rfl,
      not_invalidParameter_unlessGone s name version not_refusedWith_ok⟩
  | get | getActive | getAll | delete => simp [Call.method, Method.Demands] at h

/-- The first string that is empty is named in the refusal. -/
theorem backend_of_missing (s : Store) {c : Call} (h : c.method.Demands) {field : String}
    (hmissing : c.missing? = some field) : backend c s = (.error (emptyArgument field), s) := by
  obtain ⟨work, hwork, -⟩ := exists_work s h
  rw [hwork, demand_eq, ← Call.missing?, hmissing]

theorem not_invalidParameter_of_missing?_eq_none (s : Store) {c : Call} (h : c.method.Demands)
    (hpresent : c.missing? = none) : ¬ RefusedWith .invalidParameter (backend c s).1 := by
  obtain ⟨work, hwork, hrefused⟩ := exists_work s h
  rwa [hwork, demand_eq, ← Call.missing?, hpresent]

/-! ## The methods that do not look -/

/-- No step registers anything under the empty name. -/
theorem Step.newestFirst_empty {s s' : Store} {e : Exchange} (hstep : Step s e s')
    (h : s.newestFirst "" = []) : s'.newestFirst "" = [] := by
  cases hstep with
  | refused | got | gotActive | gotAll | pipelineSet | resourceAdded => exact h
  | registered hname => rwa [newestFirst_keep, if_neg hname, newestFirst_handOut]
  | described hname => rwa [newestFirst_keep, if_neg hname]
  | activated hname => rwa [newestFirst_keep, if_neg hname]
  | deleted hm =>
    -- What is deleted was there, so it was under another name.
    rw [newestFirst_keep, if_neg, h]
    rintro rfl
    obtain ⟨hmem, -⟩ := version?_eq_some hm
    simp [h] at hmem

theorem newestFirst_empty_of_reaches {h : History} {s : Store} (hreaches : Reaches h s) :
    s.newestFirst "" = [] := by
  induction hreaches with
  | start => rfl
  | step _ hstep ih => exact hstep.newestFirst_empty ih

theorem versions_empty_of_reaches {h : History} {s : Store} (hreaches : Reaches h s) :
    s.versions "" = [] := by
  rw [versions, newestFirst_empty_of_reaches hreaches, List.reverse_nil]

section Unchecked

variable (s : Store) (name : String) (version : UInt32)

theorem not_invalidParameter_get : ¬ RefusedWith .invalidParameter (s.get name version) := by
  unfold get
  split
  · exact not_invalidParameter_notFound
  · split
    · exact not_invalidParameter_notFound
    · exact not_refusedWith_ok

theorem not_invalidParameter_getActive : ¬ RefusedWith .invalidParameter (s.getActive name) := by
  unfold getActive
  split
  · exact not_invalidParameter_notFound
  · split
    · exact not_invalidParameter_notFound
    · exact not_refusedWith_ok

theorem not_invalidParameter_getAll : ¬ RefusedWith .invalidParameter (s.getAll name) := by
  unfold getAll
  split
  · exact not_invalidParameter_notFound
  · exact not_refusedWith_ok

theorem not_invalidParameter_delete (force : Bool) :
    ¬ RefusedWith .invalidParameter (s.delete name version force).1 := by
  unfold delete
  split
  · exact not_invalidParameter_notFound
  · split
    · exact mt refusedWith_error_iff.1 (show Status.busy ≠ Status.invalidParameter by decide)
    · exact not_refusedWith_ok

variable {s} (hempty : s.versions "" = [])
include hempty

theorem get_empty : s.get "" version = .error (noModel "") := if_pos hempty

theorem getActive_empty : s.getActive "" = .error (noModel "") := if_pos hempty

theorem getAll_empty : s.getAll "" = .error (noModel "") := if_pos hempty

theorem delete_empty (force : Bool) :
    s.delete "" version force = (.error (noVersion "" version), s) := by
  rw [delete, version?, hempty]
  rfl

end Unchecked

/-- A lookup or a deletion is never refused for the sake of a string. -/
theorem not_invalidParameter_of_not_demands (s : Store) {c : Call} (h : ¬ c.method.Demands) :
    ¬ RefusedWith .invalidParameter (backend c s).1 := by
  cases c with
  | get => exact mt refusedWith_map_iff.1 (not_invalidParameter_get s _ _)
  | getActive => exact mt refusedWith_map_iff.1 (not_invalidParameter_getActive s _)
  | getAll => exact mt refusedWith_map_iff.1 (not_invalidParameter_getAll s _)
  | delete => exact not_invalidParameter_delete s _ _ _
  | register | describe | activate | setPipeline | addResource =>
    simp [Call.method, Method.Demands] at h

/-- Under the empty name it finds nothing. -/
theorem notFound_of_lacksString {s : Store} (hempty : s.versions "" = []) {c : Call}
    (h : ¬ c.method.Demands) (hlacks : c.LacksString) :
    RefusedWith .notFound (backend c s).1 ∧ (backend c s).2 = s := by
  have hname := Call.name_of_lacksString h hlacks
  cases c with
  | get name version =>
    obtain rfl : name = "" := hname
    exact ⟨refusedWith_map_iff.2 ⟨_, get_empty version hempty⟩, rfl⟩
  | getActive name =>
    obtain rfl : name = "" := hname
    exact ⟨refusedWith_map_iff.2 ⟨_, getActive_empty hempty⟩, rfl⟩
  | getAll name =>
    obtain rfl : name = "" := hname
    exact ⟨refusedWith_map_iff.2 ⟨_, getAll_empty hempty⟩, rfl⟩
  | delete name version force =>
    obtain rfl : name = "" := hname
    have hrun := delete_empty version hempty force
    exact ⟨⟨_, congrArg Prod.fst hrun⟩, congrArg Prod.snd hrun⟩
  | register | describe | activate | setPipeline | addResource =>
    simp [Call.method, Method.Demands] at h

/-! ## All calls -/

theorem invalidParameter_iff (s : Store) (c : Call) :
    RefusedWith .invalidParameter (backend c s).1 ↔ c.method.Demands ∧ c.LacksString := by
  by_cases h : c.method.Demands
  · rw [Call.lacksString_iff]
    cases hmissing : c.missing? with
    | none =>
      exact iff_of_false (not_invalidParameter_of_missing?_eq_none s h hmissing) (by simp)
    | some field =>
      exact iff_of_true ⟨_, congrArg Prod.fst (backend_of_missing s h hmissing)⟩ ⟨h, field, rfl⟩
  · exact iff_of_false (not_invalidParameter_of_not_demands s h) fun hboth => h hboth.1

/-- **Five methods refuse an empty string as an invalid parameter, and no call is so refused for
another reason.**  Whatever has been called before: a call is refused as an invalid parameter
exactly if its method looks at the required strings and one of them is empty.  The refusal then
names the first such string.  A lookup or a deletion with an empty name is refused as not found.
Either way the store stays as it is. -/
theorem empty_strings_refused_by_five (cs : List Call) (c : Call) :
    let s := (run cs).2
    let o := backend c s
    (RefusedWith .invalidParameter o.1 ↔ c.method.Demands ∧ c.LacksString) ∧
    ∀ field, c.missing? = some field →
      if c.method.Demands then o = (.error (emptyArgument field), s)
      else RefusedWith .notFound o.1 ∧ o.2 = s := by
  intro s o
  refine ⟨invalidParameter_iff s c, fun field hmissing => ?_⟩
  by_cases h : c.method.Demands
  · rw [if_pos h]
    exact backend_of_missing s h hmissing
  · rw [if_neg h]
    exact notFound_of_lacksString (versions_empty_of_reaches (reaches_run cs)) h
      (Call.lacksString_iff.2 ⟨field, hmissing⟩)

/-- A call is refused as an invalid parameter exactly if one of its required strings is empty. -/
def RefusesEmptyStrings : Prop :=
  ∀ (cs : List Call) (c : Call),
    RefusedWith .invalidParameter (backend c (run cs).2).1 ↔ c.LacksString

/-- A version of a model without a name is said not to be found. -/
theorem not_refusesEmptyStrings : ¬ RefusesEmptyStrings := by
  intro h
  have hrefused := (h [] (.get "" 1)).2 ⟨("name", ""), List.mem_singleton.2 rfl, rfl⟩
  exact absurd ((invalidParameter_iff _ _).1 hrefused).1 (by decide)

end Store
end ModelRegistry
