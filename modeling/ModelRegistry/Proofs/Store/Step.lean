import ModelRegistry.Proofs.Store.History

/-!
# What a call does to a store

`Store.Step s e s'` lists all that can come of one call: it is refused and changes nothing, it is a
lookup and changes nothing, or it is one of six changes.  `Store.step_backend` says that the store
does exactly this, and `Store.Reaches` chains steps from the empty store into a history.

All changes to the versions of a model go through `Store.keep`, which forgets a name that has no
versions left, so that every fact about the versions after a step is one rewrite with
`newestFirst_keep`.
-/

namespace ModelRegistry
namespace Store

/-- The last version handed out for a name; zero before the first. -/
def last (s : Store) (name : String) : UInt32 := (s.lastVersion.find? name).getD 0

/-- The version that the next registration of a name gets. -/
def next (s : Store) (name : String) : UInt32 := s.last name + 1

/-- Keep the versions of a model, the latest first.  A name without versions is forgotten. -/
def keep (s : Store) (name : String) (ms : List ModelRecord) : Store :=
  { s with models := if ms = [] then s.models.erase name else s.models.set name ms }

/-- Hand out a version. -/
def handOut (s : Store) (name : String) (version : UInt32) : Store :=
  { s with lastVersion := s.lastVersion.set name version }

/-- None of the versions is the active one. -/
def deactivate (ms : List ModelRecord) : List ModelRecord :=
  ms.map fun m => { m with active := false }

/-- The versions besides a new one. -/
def besides (active : Bool) (ms : List ModelRecord) : List ModelRecord :=
  if active then deactivate ms else ms

section Keep

variable (s : Store) (name other : String) (ms : List ModelRecord) (version : UInt32)

@[simp] theorem newestFirst_keep :
    (s.keep name ms).newestFirst other = if name = other then ms else s.newestFirst other := by
  by_cases hms : ms = [] <;> by_cases h : name = other <;> simp [keep, newestFirst, hms, h]

@[simp] theorem last_keep : (s.keep name ms).last other = s.last other := rfl

@[simp] theorem lastVersion_keep : (s.keep name ms).lastVersion = s.lastVersion := rfl

@[simp] theorem pipelines_keep : (s.keep name ms).pipelines = s.pipelines := rfl

@[simp] theorem resources_keep : (s.keep name ms).resources = s.resources := rfl

@[simp] theorem newestFirst_handOut :
    (s.handOut name version).newestFirst other = s.newestFirst other := rfl

@[simp] theorem last_handOut :
    (s.handOut name version).last other = if name = other then version else s.last other := by
  by_cases h : name = other <;> simp [handOut, last, h]

@[simp] theorem models_handOut : (s.handOut name version).models = s.models := rfl

@[simp] theorem pipelines_handOut : (s.handOut name version).pipelines = s.pipelines := rfl

@[simp] theorem resources_handOut : (s.handOut name version).resources = s.resources := rfl

end Keep

theorem mem_versions {s : Store} {name : String} {m : ModelRecord} :
    m ∈ s.versions name ↔ m ∈ s.newestFirst name := List.mem_reverse

/-- A version that is found is one of the versions. -/
theorem version?_eq_some {s : Store} {name : String} {version : UInt32} {m : ModelRecord}
    (h : s.version? name version = some m) : m ∈ s.newestFirst name ∧ m.version = version :=
  ⟨mem_versions.1 (List.mem_of_find?_eq_some h), by simpa using List.find?_some h⟩

theorem exists_version?_of_not_isNone {s : Store} {name : String} {version : UInt32}
    (h : ¬ (s.version? name version).isNone = true) : ∃ m, s.version? name version = some m :=
  Option.isSome_iff_exists.1 (by simpa [Option.isSome_iff_ne_none] using h)

theorem change_eq_nil_iff {version : UInt32} {f : ModelRecord → ModelRecord}
    {ms : List ModelRecord} : change version f ms = [] ↔ ms = [] := by
  cases ms with
  | nil => rfl
  | cons m ms =>
    rw [change]
    split <;> simp

/-! ## Steps -/

/-- All that can come of one call. -/
inductive Step : Store → Exchange → Store → Prop
  | refused {s : Store} {c : Call} {refusal : Refusal} : Step s ⟨c, .error refusal⟩ s
  | got {s : Store} {name : String} {version : UInt32} {m : ModelRecord}
      (hm : s.version? name version = some m) : Step s ⟨.get name version, .ok m.text⟩ s
  | gotActive {s : Store} {name : String} {m : ModelRecord}
      (hm : (s.versions name).find? (·.active) = some m) : Step s ⟨.getActive name, .ok m.text⟩ s
  | gotAll {s : Store} {name : String} (hms : s.versions name ≠ []) :
      Step s ⟨.getAll name, .ok (ModelRecord.listText (s.versions name))⟩ s
  | registered {s : Store} {name path : String} {active : Bool} {description appInfo : String}
      (hname : name ≠ "") (hpath : path ≠ "") :
      Step s ⟨.register name path active description appInfo, .ok (s.next name)⟩
        ((s.handOut name (s.next name)).keep name
          (⟨name, path, s.next name, active, description, appInfo⟩ ::
            besides active (s.newestFirst name)))
  | described {s : Store} {name : String} {version : UInt32} {description : String}
      {m : ModelRecord} (hname : name ≠ "") (hm : s.version? name version = some m) :
      Step s ⟨.describe name version description, .ok ()⟩
        (s.keep name (change version (fun m => { m with description }) (s.versions name)).reverse)
  | activated {s : Store} {name : String} {version : UInt32} {m : ModelRecord}
      (hname : name ≠ "") (hm : s.version? name version = some m) :
      Step s ⟨.activate name version, .ok ()⟩
        (s.keep name
          ((s.newestFirst name).map fun m => { m with active := m.version = version }))
  | deleted {s : Store} {name : String} {version : UInt32} {force : Bool} {m : ModelRecord}
      (hm : s.version? name version = some m) (hforce : m.active = true → force = true) :
      Step s ⟨.delete name version force, .ok ()⟩
        (s.keep name ((s.newestFirst name).filter fun m => m.version ≠ version))
  | pipelineSet {s : Store} {name description : String}
      (hname : name ≠ "") (hdescription : description ≠ "") :
      Step s ⟨.setPipeline name description, .ok ()⟩
        { s with pipelines := s.pipelines.set name { name, description } }
  | resourceAdded {s : Store} {name path description appInfo : String}
      (hname : name ≠ "") (hpath : path ≠ "") :
      Step s ⟨.addResource name path description appInfo, .ok ()⟩
        { s with resources := { name, path, description, appInfo } :: s.resources }

/-- Versions that are kept are not forgotten. -/
theorem keep_of_ne_nil {s : Store} {name : String} {ms : List ModelRecord} (h : ms ≠ []) :
    s.keep name ms = { s with models := s.models.set name ms } := by
  rw [keep, if_neg h]

theorem step_register (s : Store) (name path : String) (active : Bool)
    (description appInfo : String) :
    Step s
      ⟨.register name path active description appInfo,
        (s.register name path active description appInfo).1⟩
      (s.register name path active description appInfo).2 := by
  unfold register
  split
  · exact .refused
  · next hname =>
    split
    · exact .refused
    · next hpath =>
      have h := @Step.registered s name path active description appInfo hname hpath
      rwa [keep_of_ne_nil (List.cons_ne_nil _ _)] at h

theorem step_describe (s : Store) (name : String) (version : UInt32) (description : String) :
    Step s ⟨.describe name version description, (s.describe name version description).1⟩
      (s.describe name version description).2 := by
  unfold describe
  split
  · exact .refused
  · next hname =>
    split
    · exact .refused
    · next hsome =>
      obtain ⟨m, hm⟩ := exists_version?_of_not_isNone hsome
      have hne : s.newestFirst name ≠ [] := List.ne_nil_of_mem (version?_eq_some hm).1
      have h := @Step.described s name version description m hname hm
      rwa [keep_of_ne_nil (by simpa [change_eq_nil_iff, versions] using hne)] at h

theorem step_activate (s : Store) (name : String) (version : UInt32) :
    Step s ⟨.activate name version, (s.activate name version).1⟩
      (s.activate name version).2 := by
  unfold activate
  split
  · exact .refused
  · next hname =>
    split
    · exact .refused
    · next hsome =>
      obtain ⟨m, hm⟩ := exists_version?_of_not_isNone hsome
      have hne : s.newestFirst name ≠ [] := List.ne_nil_of_mem (version?_eq_some hm).1
      have h := Step.activated hname hm
      rwa [keep_of_ne_nil (by simpa using hne)] at h

theorem step_get (s : Store) (name : String) (version : UInt32) :
    Step s ⟨.get name version, (s.get name version).map ModelRecord.text⟩ s := by
  unfold get
  split
  · exact .refused
  · split
    · exact .refused
    · next m hm => exact .got hm

theorem step_getActive (s : Store) (name : String) :
    Step s ⟨.getActive name, (s.getActive name).map ModelRecord.text⟩ s := by
  unfold getActive
  split
  · exact .refused
  · split
    · exact .refused
    · next m hm => exact .gotActive hm

theorem step_getAll (s : Store) (name : String) :
    Step s ⟨.getAll name, (s.getAll name).map ModelRecord.listText⟩ s := by
  unfold getAll
  split
  · exact .refused
  · next hms => exact .gotAll hms

theorem step_delete (s : Store) (name : String) (version : UInt32) (force : Bool) :
    Step s ⟨.delete name version force, (s.delete name version force).1⟩
      (s.delete name version force).2 := by
  unfold delete
  split
  · exact .refused
  · next m hm =>
    split
    · exact .refused
    · next hbusy =>
      exact .deleted hm (by simpa using hbusy)

theorem step_setPipeline (s : Store) (name description : String) :
    Step s ⟨.setPipeline name description, (s.setPipeline name description).1⟩
      (s.setPipeline name description).2 := by
  unfold setPipeline
  split
  · exact .refused
  · next hname =>
    split
    · exact .refused
    · next hdescription => exact .pipelineSet hname hdescription

theorem step_addResource (s : Store) (name path description appInfo : String) :
    Step s
      ⟨.addResource name path description appInfo,
        (s.addResource name path description appInfo).1⟩
      (s.addResource name path description appInfo).2 := by
  unfold addResource
  split
  · exact .refused
  · next hname =>
    split
    · exact .refused
    · next hpath => exact .resourceAdded hname hpath

/-- A store answers every call with a step. -/
theorem step_backend (c : Call) (s : Store) : Step s ⟨c, (backend c s).1⟩ (backend c s).2 := by
  cases c with
  | register => exact step_register s _ _ _ _ _
  | describe => exact step_describe s _ _ _
  | activate => exact step_activate s _ _
  | get => exact step_get s _ _
  | getActive => exact step_getActive s _
  | getAll => exact step_getAll s _
  | delete => exact step_delete s _ _ _
  | setPipeline => exact step_setPipeline s _ _
  | addResource => exact step_addResource s _ _ _ _

/-! ## Reachable stores -/

/-- The stores that steps lead to from the empty one, with their histories. -/
inductive Reaches : History → Store → Prop
  | start : Reaches [] .empty
  | step {h : History} {s s' : Store} {e : Exchange} (before : Reaches h s) (hstep : Step s e s') :
      Reaches (h ++ [e]) s'

/-- Put calls in order to the empty store. -/
def run (cs : List Call) : History × Store := Backend.run backend cs .empty

/-- A run is a chain of steps. -/
theorem reaches_run (cs : List Call) : Reaches (run cs).1 (run cs).2 := by
  rw [← cs.reverse_reverse]
  induction cs.reverse with
  | nil => exact .start
  | cons c cs ih =>
    rw [List.reverse_cons, run, Backend.run_concat]
    exact .step ih (step_backend c _)

/-- A run registers no more versions than there are calls. -/
theorem registrations_run_le (cs : List Call) (name : String) :
    (run cs).1.registrations name ≤ cs.length := by
  rw [← Backend.length_run backend cs .empty]
  exact List.length_filterMap_le _ _

end Store
end ModelRegistry
