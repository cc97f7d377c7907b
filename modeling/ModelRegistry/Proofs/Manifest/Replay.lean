import ModelRegistry.Manifest.Registration
import ModelRegistry.Proofs.Json.Members
import ModelRegistry.Proofs.Store.History
import ModelRegistry.Recorder

/-!
# Replaying a manifest

Which calls a manifest leads to is settled before the first one is made.  The first part says so for
any backend: carrying out tasks leaves the state that their calls leave (`runTasks_state`), whatever
the answers.  The second part reads the calls off the document a second time, without tasks, plans
or loops: `replay` goes through the sections of the root, in each through its entries, and looks
fields up by their last member.  `register_replays` says that the two agree.
-/

namespace ModelRegistry

/-- What a recorded backend is left with: the calls are those made, and the state is the one that
they leave. -/
theorem Backend.run_recorded {σ : Type} (backend : Backend σ) (cs : List Call) (r : Recorded σ) :
    (backend.recorded.run cs r).2 = ⟨(backend.run cs r.state).2, r.calls ++ cs⟩ := by
  induction cs generalizing r with
  | nil => simp
  | cons c cs ih => simp [Backend.run, Backend.recorded_apply, ih]

namespace Manifest

variable {σ : Type}

/-! ## Carrying out tasks -/

/-- A task leaves the state that its call leaves, whatever is answered. -/
theorem Task.run_state (backend : Backend σ) (appInfo : String) (task : Task) (report : Report)
    (s : σ) :
    ((task.run backend appInfo report).run s).state =
      (backend.run (task.call? appInfo).toList s).2 := by
  cases task with
  | model name path active description =>
    simp only [Task.run, Action.run_bind]
    split <;> rfl
  | pipeline name description =>
    simp only [Task.run, Action.run_bind]
    split <;> rfl
  | resource name path description =>
    simp only [Task.run, Action.run_bind]
    split <;> rfl
  | skipEntry category fault => rfl
  | skipPath name index => rfl

theorem runTasks_state (backend : Backend σ) (appInfo : String) (tasks : List Task)
    (report : Report) (s : σ) :
    ((runTasks backend appInfo tasks report).run s).state =
      (backend.run (tasks.filterMap (Task.call? appInfo)) s).2 := by
  induction tasks generalizing report s with
  | nil => rfl
  | cons task tasks ih =>
    have hcalls : (task :: tasks).filterMap (Task.call? appInfo) =
        (task.call? appInfo).toList ++ tasks.filterMap (Task.call? appInfo) := by
      cases h : task.call? appInfo <;> simp [h]
    rw [runTasks, Action.run_bind, hcalls, Backend.run_append, ih, Task.run_state]

theorem Plan.run_state (backend : Backend σ) (appInfo : String) (plan : Plan) (s : σ) :
    ((plan.run backend appInfo).run s).state = (backend.run (plan.calls appInfo) s).2 := by
  rw [Plan.run, Action.run_bind]
  have htasks := runTasks_state backend appInfo plan.tasks .empty s
  cases hkey : plan.unknownKey with
  | some key => exact htasks
  | none => exact htasks

/-- How a plan ends: only an unknown key ends it with an error. -/
def Plan.outcome (plan : Plan) : Except ManifestError Unit :=
  match plan.unknownKey with
  | some key => .error (.unknownCategory key)
  | none => .ok ()

theorem Plan.run_outcome (backend : Backend σ) (appInfo : String) (plan : Plan) (s : σ) :
    ((plan.run backend appInfo).run s).value.map (fun _ => ()) = plan.outcome := by
  rw [Plan.run, Plan.outcome, Action.run_bind]
  cases plan.unknownKey with
  | some key => rfl
  | none => rfl

/-! ## The calls of a document -/

/-- The category that a key spells, whatever the case of its letters. -/
def categoryOf? (key : String) : Option Category :=
  match Text.lower key with
  | "model" | "models" => some .model
  | "pipeline" | "pipelines" => some .pipeline
  | "resource" | "resources" => some .resource
  | _ => none

/-- The text in the last member of a name, if that holds one. -/
def lastText? (fields : List (String × Json)) (name : String) : Option String :=
  match fields.reverse.lookup name with
  | some (.text s) => some s
  | _ => none

/-- The paths in the value of `path`. -/
def pathTexts : Option Json → List String
  | some (.array items) => items.filterMap Json.text?
  | some (.text path) => [path]
  | _ => []

/-- The calls for an entry.  One that is not an object, or lacks a text that it must have, leads to
none. -/
def entryCalls (appInfo : String) : Category → Json → List Call
  | .model, .object fields =>
    match lastText? fields "name", lastText? fields "model" with
    | some name, some path =>
      let active := ((lastText? fields "activate").map Text.lower) == some "true"
      [.register name path active ((lastText? fields "description").getD "") appInfo]
    | _, _ => []
  | .pipeline, .object fields =>
    match lastText? fields "name", lastText? fields "pipeline" with
    | some name, some description => [.setPipeline name description]
    | _, _ => []
  | .resource, .object fields =>
    match lastText? fields "name" with
    | some name =>
      (pathTexts (fields.reverse.lookup "path")).map fun path =>
        .addResource name path ((lastText? fields "description").getD "") appInfo
    | none => []
  | _, _ => []

/-- The sections of a root: its names in the order of first mention, each with its last value. -/
def sections (members : List (String × Json)) : List (String × Json) :=
  (members.map Prod.fst).eraseDups.filterMap fun key =>
    (members.reverse.lookup key).map fun value => (key, value)

/-- The calls for the entries of a section, which are the items of an array or one value. -/
def sectionCalls (appInfo : String) (s : String × Json) : List Call :=
  match categoryOf? s.1, s.2 with
  | some category, .array items => items.flatMap (entryCalls appInfo category)
  | some category, value => entryCalls appInfo category value
  | none, _ => []

/-- The calls that a manifest leads to, and how it ends. -/
structure Replay where
  calls : List Call
  outcome : Except ManifestError Unit

/-- What becomes of a manifest: the calls of the sections before the first one whose key spells no
category, and that key as the error. -/
def replay (appInfo text : String) : Replay :=
  match Json.parse (Text.bytes text) with
  | .error failure => ⟨[], .error (.malformed (Text.bytes text) failure)⟩
  | .ok (.object members) =>
    let known := (sections members).takeWhile fun s => (categoryOf? s.1).isSome
    let unknown := (sections members).find? fun s => (categoryOf? s.1).isNone
    ⟨known.flatMap (sectionCalls appInfo),
      match unknown with
      | some s => .error (.unknownCategory s.1)
      | none => .ok ()⟩
  | .ok _ => ⟨[], .error .notAnObject⟩

/-! ## Agreement of the plan with the calls -/

theorem ofKey?_eq_find? (key : String) :
    Category.ofKey? key = Category.all.find? fun c => decide (Text.lower key ∈ c.spellings) := by
  unfold Category.ofKey?
  congr 1
  funext c
  have hlower : c.spellings.map Text.lower = c.spellings := by cases c <;> decide
  rw [Bool.eq_iff_iff, List.any_eq_true, decide_eq_true_eq, ← hlower, List.mem_map, hlower]
  simp only [Text.sameLetters, beq_iff_eq]

theorem ofKey?_eq_categoryOf? (key : String) : Category.ofKey? key = categoryOf? key := by
  rw [ofKey?_eq_find?, categoryOf?]
  split <;> simp_all [Category.all, Category.spellings, Category.name]

theorem textField?_eq_lastText? (fields : List (String × Json)) (name : String) :
    textField? fields name = lastText? fields name := by
  rw [textField?, lastText?, Json.field?_eq_lookup]
  rcases fields.reverse.lookup name with _ | value
  · rfl
  · cases value <;> rfl

theorem isActive_eq (fields : List (String × Json)) :
    isActive fields = (((lastText? fields "activate").map Text.lower) == some "true") := by
  rw [isActive, textField?_eq_lastText?]
  cases lastText? fields "activate" with
  | none => rfl
  | some s => exact Option.some_beq_some.symm

theorem modelTask_calls (appInfo : String) (fields : List (String × Json)) :
    (entryTasks .model (.object fields)).filterMap (Task.call? appInfo) =
      entryCalls appInfo .model (.object fields) := by
  simp only [entryTasks, entryTasks?, Json.members?, modelTask, required, entryCalls,
    textField?_eq_lastText?]
  cases lastText? fields "name" with
  | none => rfl
  | some name =>
    cases lastText? fields "model" with
    | none => rfl
    | some path =>
      rw [← isActive_eq, ← textField?_eq_lastText?]
      rfl

theorem pipelineTask_calls (appInfo : String) (fields : List (String × Json)) :
    (entryTasks .pipeline (.object fields)).filterMap (Task.call? appInfo) =
      entryCalls appInfo .pipeline (.object fields) := by
  simp only [entryTasks, entryTasks?, Json.members?, pipelineTask, required, entryCalls,
    textField?_eq_lastText?]
  cases lastText? fields "name" with
  | none => rfl
  | some name => cases lastText? fields "pipeline" <;> rfl

/-- Every path that is a text leads to a call, at whatever place it stands. -/
theorem pathTasks_calls (appInfo name description : String) (index : Nat)
    (ps : List (Option String)) :
    (pathTasks name description index ps).filterMap (Task.call? appInfo) =
      (ps.filterMap id).map fun path => .addResource name path description appInfo := by
  induction ps generalizing index with
  | nil => rfl
  | cons p ps ih =>
    cases p with
    | none => simpa [pathTasks, List.filterMap_cons, Task.call?] using ih (index + 1)
    | some path => simpa [pathTasks, List.filterMap_cons, Task.call?] using ih (index + 1)

theorem filterMap_paths (fields : List (String × Json)) :
    (paths fields).filterMap id = pathTexts (fields.reverse.lookup "path") := by
  rw [paths, Json.field?_eq_lookup]
  rcases fields.reverse.lookup "path" with _ | value
  · rfl
  · cases value with
    | array items => simp [pathTexts]
    | _ => rfl

theorem resourceTasks_calls (appInfo : String) (fields : List (String × Json)) :
    (entryTasks .resource (.object fields)).filterMap (Task.call? appInfo) =
      entryCalls appInfo .resource (.object fields) := by
  simp only [entryTasks, entryTasks?, Json.members?, resourceTasks, required, entryCalls,
    textField?_eq_lastText?]
  cases lastText? fields "name" with
  | none => rfl
  | some name =>
    show _ = List.map _ (pathTexts (fields.reverse.lookup "path"))
    rw [← filterMap_paths, ← textField?_eq_lastText?]
    by_cases hpaths : paths fields = []
    · simp [hpaths, bind, Except.bind, throw, throwThe, MonadExceptOf.throw, Task.call?]
    · rw [← description, ← pathTasks_calls appInfo name (description fields) 0 (paths fields)]
      simp [hpaths, bind, Except.bind, pure, Except.pure]

theorem entryTasks_calls (appInfo : String) (category : Category) (entry : Json) :
    (entryTasks category entry).filterMap (Task.call? appInfo) =
      entryCalls appInfo category entry := by
  cases entry with
  | object fields =>
    cases category with
    | model => exact modelTask_calls appInfo fields
    | pipeline => exact pipelineTask_calls appInfo fields
    | resource => exact resourceTasks_calls appInfo fields
  | _ => cases category <;> rfl

theorem entries_calls (appInfo : String) {key : String} {category : Category}
    (hkey : categoryOf? key = some category) (value : Json) :
    ((entries value).flatMap (entryTasks category)).filterMap (Task.call? appInfo) =
      sectionCalls appInfo (key, value) := by
  rw [List.filterMap_flatMap]
  simp only [entryTasks_calls, sectionCalls, hkey]
  cases value <;> simp [entries]

theorem ofMembers_calls (appInfo : String) (members : List (String × Json)) :
    (Plan.ofMembers members).calls appInfo =
      (members.takeWhile fun s => (categoryOf? s.1).isSome).flatMap (sectionCalls appInfo) := by
  induction members with
  | nil => rfl
  | cons m members ih =>
    obtain ⟨key, value⟩ := m
    rw [Plan.ofMembers, ofKey?_eq_categoryOf?]
    cases hkey : categoryOf? key with
    | none => simp [Plan.calls, hkey]
    | some category =>
      rw [List.takeWhile_cons_of_pos (by simp [hkey]), List.flatMap_cons, ← ih,
        ← entries_calls appInfo hkey, Plan.calls, List.filterMap_append]
      rfl

theorem ofMembers_unknownKey (members : List (String × Json)) :
    (Plan.ofMembers members).unknownKey =
      (members.find? fun s => (categoryOf? s.1).isNone).map Prod.fst := by
  induction members with
  | nil => rfl
  | cons m members ih =>
    obtain ⟨key, value⟩ := m
    rw [Plan.ofMembers, ofKey?_eq_categoryOf?]
    cases hkey : categoryOf? key with
    | none => simp [hkey]
    | some category => simpa [hkey] using ih

theorem distinct_eq_sections (members : List (String × Json)) :
    Json.distinct members = sections members := by
  rw [Json.distinct_eq, Json.valued, sections]
  simp only [Json.field?_eq_lookup]

/-- Planning a manifest and reading it a second time agree. -/
theorem replay_eq (appInfo text : String) :
    replay appInfo text =
      match Plan.ofDocument (Text.bytes text) with
      | .error e => ⟨[], .error e⟩
      | .ok plan => ⟨plan.calls appInfo, plan.outcome⟩ := by
  rw [replay, Plan.ofDocument]
  cases Json.parse (Text.bytes text) with
  | error failure => rfl
  | ok root =>
    cases root with
    | object members =>
      simp only [Json.members?, distinct_eq_sections, ofMembers_calls, Plan.outcome,
        ofMembers_unknownKey]
      cases (sections members).find? fun s => (categoryOf? s.1).isNone <;> rfl
    | _ => rfl

/-- Registering leaves what the calls of the manifest leave. -/
theorem replay_state (backend : Backend σ) (s : σ) (appInfo text : String) :
    ((register backend appInfo (Text.bytes text)).run s).state =
      (backend.run (replay appInfo text).calls s).2 := by
  rw [register, replay_eq]
  cases Plan.ofDocument (Text.bytes text) with
  | error e => rfl
  | ok plan => exact Plan.run_state backend appInfo plan s

/-- It ends as the manifest ends, whatever the backend answers. -/
theorem replay_outcome (backend : Backend σ) (s : σ) (appInfo text : String) :
    ((register backend appInfo (Text.bytes text)).run s).value.map (fun _ => ()) =
      (replay appInfo text).outcome := by
  rw [register, replay_eq]
  cases Plan.ofDocument (Text.bytes text) with
  | error e => rfl
  | ok plan => exact Plan.run_outcome backend appInfo plan s

/-- **What a manifest asks of a backend is settled by its text.**  Whatever backend it is, in
whatever state, and whatever it answers: the calls that reach it, and whether and how the manifest
ends with an error, are those that the text and `appInfo` alone determine. -/
theorem register_replays (backend : Backend σ) (s : σ) (appInfo text : String) :
    let o := (register backend.recorded appInfo (Text.bytes text)).run (.new s)
    o.state.calls = (replay appInfo text).calls ∧
      o.value.map (fun _ => ()) = (replay appInfo text).outcome := by
  intro o
  have hstate : o.state = ⟨_, [] ++ (replay appInfo text).calls⟩ :=
    (replay_state backend.recorded (.new s) appInfo text).trans
      (Backend.run_recorded backend _ (.new s))
  exact ⟨congrArg Recorded.calls hstate, replay_outcome backend.recorded (.new s) appInfo text⟩

end Manifest
end ModelRegistry
