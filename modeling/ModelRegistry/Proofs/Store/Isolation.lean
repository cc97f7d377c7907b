import ModelRegistry.Proofs.Store.Step

/-!
# Names do not interfere

A `Scope` chooses records by their kind and their name, and `Store.restrict` keeps what a scope
chooses and forgets the rest.  A call inside a scope cannot tell a store from its restriction, and
does the same to both (`backend_restrict`); a call outside it changes nothing that the restriction
keeps (`restrict_of_not_covers`).  So a run, seen through a scope, is the run of the calls inside
the scope alone (`run_restrict`).

A name with all that is kept under it is a scope, and so are its models alone and its pipelines and
resources alone.
-/

namespace ModelRegistry

/-! ## Tables restricted to some names -/

namespace Table

variable {α : Type}

/-- The values under some names alone. -/
def restrict (t : Table α) (keeps : String → Bool) : Table α :=
  ⟨t.entries.filter fun e => keeps e.1⟩

theorem find?_restrict {t : Table α} {keeps : String → Bool} {name : String}
    (h : keeps name = true) : (t.restrict keeps).find? name = t.find? name := by
  obtain ⟨es⟩ := t
  simp only [find?, restrict, List.find?_filter]
  congr 2
  funext e
  by_cases he : e.1 = name
  · simp [he, h]
  · simp [he]

theorem filter_setIn (keeps : String → Bool) (name : String) (value : α) (es : List (String × α)) :
    (setIn name value es).filter (fun e => keeps e.1) =
      if keeps name then setIn name value (es.filter fun e => keeps e.1)
      else es.filter fun e => keeps e.1 := by
  induction es with
  | nil => cases h : keeps name <;> simp [setIn, h]
  | cons e es ih =>
    obtain ⟨key, held⟩ := e
    by_cases hkey : key = name
    · subst hkey
      cases h : keeps key <;> simp [setIn, h]
    · rw [setIn, if_neg hkey, List.filter_cons, List.filter_cons, ih]
      cases h : keeps name <;> cases hk : keeps key <;> simp [setIn, hkey]

theorem restrict_set (t : Table α) (keeps : String → Bool) (name : String) (value : α) :
    (t.set name value).restrict keeps =
      if keeps name then (t.restrict keeps).set name value else t.restrict keeps := by
  simp only [restrict, set, filter_setIn]
  split <;> rfl

theorem restrict_erase (t : Table α) (keeps : String → Bool) (name : String) :
    (t.erase name).restrict keeps = (t.restrict keeps).erase name := by
  simp only [restrict, erase, List.filter_filter, Bool.and_comm]

/-- A name that is not kept need not be forgotten. -/
theorem erase_restrict {t : Table α} {keeps : String → Bool} {name : String}
    (h : keeps name = false) : (t.restrict keeps).erase name = t.restrict keeps := by
  simp only [restrict, erase, List.filter_filter]
  congr 1
  refine List.filter_congr fun e _ => ?_
  by_cases he : e.1 = name
  · simp [he, h]
  · simp [he]

end Table

/-! ## What a call is about -/

/-- The kinds of records. -/
inductive RecordKind
  | model
  | pipeline
  | resource
  deriving DecidableEq, Repr

/-- What kind of record a call is about. -/
def Call.kind : Call → RecordKind
  | .register .. | .describe .. | .activate .. | .get .. | .getActive .. | .getAll ..
  | .delete .. => .model
  | .setPipeline .. => .pipeline
  | .addResource .. => .resource

/-- Some of the records, by kind and name. -/
abbrev Scope := RecordKind → String → Bool

/-- A call is about records inside the scope. -/
def Scope.covers (scope : Scope) (c : Call) : Bool := scope c.kind c.name

namespace Store

variable {scope : Scope}

/-- The records inside a scope, with the numbers handed out for its models. -/
def restrict (s : Store) (scope : Scope) : Store where
  models := s.models.restrict (scope .model)
  lastVersion := s.lastVersion.restrict (scope .model)
  pipelines := s.pipelines.restrict (scope .pipeline)
  resources := s.resources.filter fun r => scope .resource r.name

section Reads

variable {s : Store} {name : String}

theorem newestFirst_restrict (h : scope .model name = true) :
    (s.restrict scope).newestFirst name = s.newestFirst name := by
  simp only [newestFirst, restrict, Table.find?_restrict h]

theorem versions_restrict (h : scope .model name = true) :
    (s.restrict scope).versions name = s.versions name := by
  simp only [versions, newestFirst_restrict h]

theorem version?_restrict (h : scope .model name = true) (version : UInt32) :
    (s.restrict scope).version? name version = s.version? name version := by
  simp only [version?, versions_restrict h]

theorem last_restrict (h : scope .model name = true) :
    (s.restrict scope).last name = s.last name := by
  simp only [last, restrict, Table.find?_restrict h]

theorem pipeline?_restrict (h : scope .pipeline name = true) :
    (s.restrict scope).pipeline? name = s.pipeline? name := by
  simp only [pipeline?, restrict, Table.find?_restrict h]

theorem resourcesOf_restrict (h : scope .resource name = true) :
    (s.restrict scope).resourcesOf name = s.resourcesOf name := by
  simp only [resourcesOf, restrict, List.filter_filter]
  congr 1
  refine List.filter_congr fun r _ => ?_
  by_cases hr : r.name = name
  · simp [hr, h]
  · simp [hr]

end Reads

/-! ## Calls outside the scope -/

theorem restrict_keep (s : Store) (name : String) (ms : List ModelRecord) :
    (s.keep name ms).restrict scope =
      if scope .model name then (s.restrict scope).keep name ms else s.restrict scope := by
  cases h : scope .model name <;> by_cases hms : ms = [] <;>
    simp [keep, restrict, Table.restrict_set, Table.restrict_erase, Table.erase_restrict, h, hms]

theorem restrict_handOut (s : Store) (name : String) (version : UInt32) :
    (s.handOut name version).restrict scope =
      if scope .model name then (s.restrict scope).handOut name version else s.restrict scope := by
  cases h : scope .model name <;> simp [handOut, restrict, Table.restrict_set, h]

/-- A call outside the scope changes nothing inside it. -/
theorem restrict_of_not_covers {s s' : Store} {e : Exchange} (hstep : Step s e s')
    (h : scope.covers e.call = false) : s'.restrict scope = s.restrict scope := by
  cases hstep with
  | refused => rfl
  | got => rfl
  | gotActive => rfl
  | gotAll => rfl
  | @registered name =>
    have hname : scope .model name = false := h
    rw [restrict_keep, restrict_handOut, hname]
    rfl
  | @described name =>
    have hname : scope .model name = false := h
    rw [restrict_keep, hname]
    rfl
  | @activated name =>
    have hname : scope .model name = false := h
    rw [restrict_keep, hname]
    rfl
  | @deleted name =>
    have hname : scope .model name = false := h
    rw [restrict_keep, hname]
    rfl
  | @pipelineSet name =>
    have hname : scope .pipeline name = false := h
    simp [restrict, Table.restrict_set, hname]
  | @resourceAdded name =>
    have hname : scope .resource name = false := h
    simp [restrict, hname]

/-! ## Calls inside the scope -/

section Inside

variable (s : Store) {name : String}

theorem register_restrict (h : scope .model name = true) (path : String) (active : Bool)
    (description appInfo : String) :
    (s.restrict scope).register name path active description appInfo =
      ((s.register name path active description appInfo).1,
        (s.register name path active description appInfo).2.restrict scope) := by
  unfold register
  rw [newestFirst_restrict h]
  split
  · rfl
  · split
    · rfl
    · simp [restrict, Table.find?_restrict h, Table.restrict_set, h]

/-- Replacing the versions of a model inside the scope. -/
theorem models_set_restrict (h : scope .model name = true) (ms : List ModelRecord) :
    ({ s.restrict scope with models := (s.restrict scope).models.set name ms } : Store) =
      ({ s with models := s.models.set name ms } : Store).restrict scope := by
  simp [restrict, Table.restrict_set, h]

theorem describe_restrict (h : scope .model name = true) (version : UInt32) (description : String) :
    (s.restrict scope).describe name version description =
      ((s.describe name version description).1,
        (s.describe name version description).2.restrict scope) := by
  unfold describe
  rw [versions_restrict h, version?_restrict h]
  split
  · rfl
  · split
    · rfl
    · simp only [models_set_restrict s h]

theorem activate_restrict (h : scope .model name = true) (version : UInt32) :
    (s.restrict scope).activate name version =
      ((s.activate name version).1, (s.activate name version).2.restrict scope) := by
  unfold activate
  rw [newestFirst_restrict h, version?_restrict h]
  split
  · rfl
  · split
    · rfl
    · simp only [models_set_restrict s h]

theorem delete_restrict (h : scope .model name = true) (version : UInt32) (force : Bool) :
    (s.restrict scope).delete name version force =
      ((s.delete name version force).1, (s.delete name version force).2.restrict scope) := by
  unfold delete
  rw [newestFirst_restrict h, version?_restrict h]
  split
  · rfl
  · split
    · rfl
    · let left := (s.newestFirst name).filter fun m => m.version ≠ version
      have hkeep : (s.keep name left).restrict scope = (s.restrict scope).keep name left := by
        rw [restrict_keep, if_pos h]
      exact congrArg (Prod.mk _) hkeep.symm

theorem get_restrict (h : scope .model name = true) (version : UInt32) :
    (s.restrict scope).get name version = s.get name version := by
  simp only [get, versions_restrict h, version?_restrict h]

theorem getActive_restrict (h : scope .model name = true) :
    (s.restrict scope).getActive name = s.getActive name := by
  simp only [getActive, versions_restrict h]

theorem getAll_restrict (h : scope .model name = true) :
    (s.restrict scope).getAll name = s.getAll name := by
  simp only [getAll, versions_restrict h]

theorem setPipeline_restrict (h : scope .pipeline name = true) (description : String) :
    (s.restrict scope).setPipeline name description =
      ((s.setPipeline name description).1, (s.setPipeline name description).2.restrict scope) := by
  unfold setPipeline
  split
  · rfl
  · split
    · rfl
    · simp [restrict, Table.restrict_set, h]

theorem addResource_restrict (h : scope .resource name = true)
    (path description appInfo : String) :
    (s.restrict scope).addResource name path description appInfo =
      ((s.addResource name path description appInfo).1,
        (s.addResource name path description appInfo).2.restrict scope) := by
  unfold addResource
  split
  · rfl
  · split
    · rfl
    · simp [restrict, h]

/-- A call inside the scope is answered as from the whole store, and does the same to it. -/
theorem backend_restrict {c : Call} (h : scope.covers c = true) :
    backend c (s.restrict scope) = ((backend c s).1, (backend c s).2.restrict scope) := by
  cases c with
  | register => exact register_restrict s h _ _ _ _
  | describe => exact describe_restrict s h _ _
  | activate => exact activate_restrict s h _
  | get => exact congrArg (·.map ModelRecord.text, _) (get_restrict s h _)
  | getActive => exact congrArg (·.map ModelRecord.text, _) (getActive_restrict s h)
  | getAll => exact congrArg (·.map ModelRecord.listText, _) (getAll_restrict s h)
  | delete => exact delete_restrict s h _ _
  | setPipeline => exact setPipeline_restrict s h _
  | addResource => exact addResource_restrict s h _ _ _

end Inside

/-! ## Runs -/

/-- A run, seen through a scope, is the run of the calls inside the scope. -/
theorem run_restrict (scope : Scope) (cs : List Call) (s : Store) :
    Backend.run backend (cs.filter scope.covers) (s.restrict scope) =
      ((Backend.run backend cs s).1.filter fun e => scope.covers e.call,
        (Backend.run backend cs s).2.restrict scope) := by
  induction cs generalizing s with
  | nil => rfl
  | cons c cs ih =>
    cases h : scope.covers c with
    | true => simp [Backend.run, h, backend_restrict s h, ih]
    | false =>
      -- The call is not in the shorter run, and the restriction does not notice it in the longer.
      have hsame := restrict_of_not_covers (step_backend c s) h
      simp [Backend.run, h, ← hsame, ih]

/-- The same for the runs of a store that begins empty. -/
theorem run_filter (scope : Scope) (cs : List Call) :
    run (cs.filter scope.covers) =
      ((run cs).1.filter fun e => scope.covers e.call, (run cs).2.restrict scope) :=
  run_restrict scope cs .empty

/-- **Names do not interfere.**  Take the calls about one name out of any run, and put them to a
store of their own: each is answered as it was among all the others, and in the end there are the
same versions, the same pipeline and the same resources under the name.  Of these calls again, those
about models are answered as if there were no others, and so are those about pipelines and
resources. -/
theorem names_do_not_interfere (cs : List Call) (name : String) :
    let own := cs.filter fun c => c.name = name
    ((run own).1 = (run cs).1.filter fun e => e.call.name = name) ∧
    (backend (.getAll name) (run own).2).1 = (backend (.getAll name) (run cs).2).1 ∧
    (run own).2.pipeline? name = (run cs).2.pipeline? name ∧
    (run own).2.resourcesOf name = (run cs).2.resourcesOf name ∧
    ((run (own.filter fun c => c.kind = .model)).1 =
      (run own).1.filter fun e => e.call.kind = .model) ∧
    ((run (own.filter fun c => c.kind ≠ .model)).1 =
      (run own).1.filter fun e => e.call.kind ≠ .model) := by
  intro own
  -- All kinds of one name are a scope, and so are some kinds of all names.
  let named : Scope := fun _ n => decide (n = name)
  have hown : run own =
      ((run cs).1.filter fun e => named.covers e.call, (run cs).2.restrict named) :=
    run_filter named cs
  have hname (kind : RecordKind) : named kind name = true := decide_eq_true rfl
  have hmodels := run_filter (fun kind _ => kind = .model) own
  have hothers := run_filter (fun kind _ => kind ≠ .model) own
  refine ⟨congrArg Prod.fst hown, ?_, ?_, ?_, congrArg Prod.fst hmodels, congrArg Prod.fst hothers⟩
  · rw [hown]
    exact congrArg (Except.map ModelRecord.listText) (getAll_restrict _ (hname .model))
  · rw [hown]
    exact pipeline?_restrict (hname .pipeline)
  · rw [hown]
    exact resourcesOf_restrict (hname .resource)

end Store
end ModelRegistry
