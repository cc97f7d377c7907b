import Mathlib.Data.List.Forall2
import ModelRegistry.Proofs.Manifest.Replay

/-!
# The units of a manifest

A manifest falls into units, each of which is either dropped or leads to one call.  Every entry is
one unit, except that a named resource with a list of paths is as many units as the list has items.
`units` reads them off the document, as `replay` does with the calls.

What becomes of a unit is its `Fate`.  Carrying out a task counts that fate once and reports it in
one event (`Task.run_fate`); by induction along the tasks a whole manifest counts and reports the
fates of its units in order.

The calls are not in the outcome of a registration.  They are in the transcript of a backend that
writes down every exchange, which leaves everything else as it is (`register_transcribed`).
-/

namespace ModelRegistry

variable {σ : Type}

/-! ## Transcripts -/

/-- A state with all that has been asked and answered on the way to it. -/
structure Transcript (σ : Type) where
  state : σ
  history : History

/-- A state in which nothing has been asked yet. -/
def Transcript.new (state : σ) : Transcript σ := ⟨state, []⟩

/-- The same backend, with every exchange written down. -/
def Backend.transcribed (backend : Backend σ) : Backend (Transcript σ) := fun c t =>
  let (answer, state) := backend c t.state
  (answer, ⟨state, t.history ++ [⟨c, answer⟩]⟩)

/-- Writing exchanges down changes neither answers nor states. -/
theorem Backend.run_transcribed (backend : Backend σ) (cs : List Call) (t : Transcript σ) :
    backend.transcribed.run cs t =
      ((backend.run cs t.state).1,
        ⟨(backend.run cs t.state).2, t.history ++ (backend.run cs t.state).1⟩) := by
  induction cs generalizing t with
  | nil => simp
  | cons c cs ih => simp [Backend.run, Backend.transcribed, ih]

/-- The method that registers what a category holds. -/
def Category.method : Category → Method
  | model => .register
  | pipeline => .setPipeline
  | resource => .addResource

namespace Manifest

/-! ## Marks -/

/-- What a report makes of a unit. -/
inductive Mark
  | skipped
  | refused
  | accepted (m : Method)
  deriving DecidableEq, Repr

/-- A call that was made is accepted or refused. -/
def mark (e : Exchange) : Mark :=
  match e.answer with
  | .ok _ => .accepted e.call.method
  | .error _ => .refused

/-- Count one more unit.  A manifest registers models, pipelines and resources; other calls have no
count. -/
def Report.count (report : Report) : Mark → Report
  | .skipped => report.skip
  | .refused => report.refuse
  | .accepted .register => report.accept .model
  | .accepted .setPipeline => report.accept .pipeline
  | .accepted .addResource => report.accept .resource
  | .accepted _ => report

/-- Counting one mark after the other comes to the number of marks of each sort. -/
theorem Report.foldl_count (marks : List Mark) (report : Report) :
    marks.foldl Report.count report =
      { models := report.models + marks.count (.accepted .register)
        pipelines := report.pipelines + marks.count (.accepted .setPipeline)
        resources := report.resources + marks.count (.accepted .addResource)
        skipped := report.skipped + marks.count .skipped
        failed := report.failed + marks.count .refused } := by
  induction marks generalizing report with
  | nil => rfl
  | cons m marks ih =>
    rw [List.foldl_cons, ih]
    cases m with
    | skipped => simp [Report.count, Report.skip, Nat.add_assoc, Nat.add_comm 1]
    | refused => simp [Report.count, Report.refuse, Nat.add_assoc, Nat.add_comm 1]
    | accepted m =>
      cases m <;> simp [Report.count, Report.accept, Nat.add_assoc, Nat.add_comm 1]

/-! ## Fates -/

/-- What became of a unit: it was dropped, or its call was put to the backend. -/
inductive Fate
  | dropped
  | called (e : Exchange)

namespace Fate

@[simp] def call? : Fate → Option Call
  | dropped => none
  | called e => some e.call

@[simp] def exchange? : Fate → Option Exchange
  | dropped => none
  | called e => some e

@[simp] def mark : Fate → Mark
  | dropped => .skipped
  | called e => Manifest.mark e

/-- An event tells what became of a unit: a warning that it was dropped, or that its call was
accepted, or an error with the code of the refusal. -/
def ToldBy (fate : Fate) (event : Event) : Prop :=
  match fate with
  | dropped => event.level = .warn
  | called ⟨c, .ok _⟩ => event.level = .info ∧ ("name", .text c.name) ∈ event.fields
  | called ⟨_, .error refusal⟩ =>
    event.level = .error ∧ ("code", .number refusal.code.toInt) ∈ event.fields

end Fate

/-- What becomes of a unit in a state of a backend. -/
def fate (backend : Backend σ) (unit : Option Call) (s : σ) : Fate :=
  match unit with
  | none => .dropped
  | some c => .called ⟨c, (backend c s).1⟩

/-- What becomes of units, one after the other. -/
def fates (backend : Backend σ) : List (Option Call) → σ → List Fate
  | [], _ => []
  | unit :: units, s => fate backend unit s :: fates backend units (backend.run unit.toList s).2

section Fates

variable (backend : Backend σ) (appInfo : String)

theorem fates_calls (units : List (Option Call)) (s : σ) :
    (fates backend units s).map Fate.call? = units := by
  induction units generalizing s with
  | nil => rfl
  | cons unit units ih =>
    rw [fates, List.map_cons, ih]
    cases unit <;> rfl

/-- The exchanges that units lead to are those of their calls. -/
theorem fates_exchanges (units : List (Option Call)) (s : σ) :
    (fates backend units s).filterMap Fate.exchange? =
      (backend.run (units.filterMap id) s).1 := by
  induction units generalizing s with
  | nil => rfl
  | cons unit units ih =>
    cases unit with
    | none => exact ih s
    | some c => exact congrArg (⟨c, (backend c s).1⟩ :: ·) (ih (backend c s).2)

/-! ## Carrying out tasks -/

/-- What follows a call is told the answer. -/
theorem run_ask_bind {α : Type} (c : Call) (next : Answer c → Action σ α) (s : σ) :
    (backend.ask c >>= next).run s = (next (backend c s).1).run (backend c s).2 := rfl

/-- A task counts what became of its unit and reports it in one event. -/
theorem Task.run_fate (task : Task) (report : Report) (s : σ) :
    let o := (task.run backend appInfo report).run s
    let fate := fate backend (task.call? appInfo) s
    o.value = report.count fate.mark ∧ ∃ event, o.events = [event] ∧ fate.ToldBy event := by
  cases task with
  | model name path active description =>
    simp only [Task.run, run_ask_bind, Task.call?, fate]
    cases (backend (.register name path active description appInfo) s).1 with
    | ok version => exact ⟨rfl, _, rfl, rfl, List.mem_cons_self⟩
    | error refusal => exact ⟨rfl, _, rfl, rfl, List.mem_cons_of_mem _ List.mem_cons_self⟩
  | pipeline name description =>
    simp only [Task.run, run_ask_bind, Task.call?, fate]
    cases (backend (.setPipeline name description) s).1 with
    | ok _ => exact ⟨rfl, _, rfl, rfl, List.mem_cons_self⟩
    | error refusal => exact ⟨rfl, _, rfl, rfl, List.mem_cons_of_mem _ List.mem_cons_self⟩
  | resource name path description =>
    simp only [Task.run, run_ask_bind, Task.call?, fate]
    cases (backend (.addResource name path description appInfo) s).1 with
    | ok _ => exact ⟨rfl, _, rfl, rfl, List.mem_cons_self⟩
    | error refusal => exact ⟨rfl, _, rfl, rfl, by simp [Event.fields, Event.code]⟩
  | skipEntry category fault => exact ⟨rfl, _, rfl, rfl⟩
  | skipPath name index => exact ⟨rfl, _, rfl, rfl⟩

/-- Tasks count and report what became of their units, in order. -/
theorem runTasks_fates (tasks : List Task) (report : Report) (s : σ) :
    let o := (runTasks backend appInfo tasks report).run s
    let fates := fates backend (tasks.map (Task.call? appInfo)) s
    o.value = (fates.map Fate.mark).foldl Report.count report ∧
      List.Forall₂ Fate.ToldBy fates o.events := by
  induction tasks generalizing report s with
  | nil => exact ⟨rfl, .nil⟩
  | cons task tasks ih =>
    intro o fates
    obtain ⟨hvalue, event, hevents, htold⟩ := task.run_fate backend appInfo report s
    obtain ⟨hlater, htoldLater⟩ := ih
      (report.count (fate backend (task.call? appInfo) s).mark)
      (backend.run (task.call? appInfo).toList s).2
    have ho : o = _ := Action.run_bind _ _ s
    rw [hvalue, Task.run_state, hevents] at ho
    rw [ho]
    exact ⟨hlater, .cons htold htoldLater⟩

end Fates

/-! ## The units of a document -/

/-- The items of a list of paths; none stands for one that is not a text. -/
def listedPaths : Option Json → List (Option String)
  | some (.array items) => items.map Json.text?
  | _ => []

/-- The units of an entry.  A named resource with a list of paths has one for each item; any other
entry is one unit, whether it leads to a call or not. -/
def entryUnits (appInfo : String) (category : Category) (entry : Json) : List (Option Call) :=
  let single := [(entryCalls appInfo category entry).head?]
  match category, entry with
  | .resource, .object fields =>
    match lastText? fields "name", listedPaths (fields.reverse.lookup "path") with
    | some name, path :: paths =>
      (path :: paths).map fun path => path.map fun path =>
        .addResource name path ((lastText? fields "description").getD "") appInfo
    | _, _ => single
  | _, _ => single

/-- The units of a section. -/
def sectionUnits (appInfo : String) (s : String × Json) : List (Option Call) :=
  match categoryOf? s.1, s.2 with
  | some category, .array items => items.flatMap (entryUnits appInfo category)
  | some category, value => entryUnits appInfo category value
  | none, _ => []

/-- The units of a manifest, up to the first section whose key spells no category. -/
def units (appInfo text : String) : List (Option Call) :=
  match Json.parse (Text.bytes text) with
  | .ok (.object members) =>
    ((sections members).takeWhile fun s => (categoryOf? s.1).isSome).flatMap (sectionUnits appInfo)
  | _ => []

/-! ## Agreement of the tasks with the units -/

/-- One task is one unit. -/
theorem units_of_singleton {appInfo : String} {category : Category} {entry : Json} {task : Task}
    (h : entryTasks category entry = [task]) :
    (entryTasks category entry).map (Task.call? appInfo) =
      [(entryCalls appInfo category entry).head?] := by
  rw [← entryTasks_calls, h]
  cases hcall : task.call? appInfo <;> simp [hcall]

theorem pathTasks_units (appInfo name description : String) (index : Nat)
    (ps : List (Option String)) :
    (pathTasks name description index ps).map (Task.call? appInfo) =
      ps.map fun p => p.map fun path => .addResource name path description appInfo := by
  induction ps generalizing index with
  | nil => rfl
  | cons p ps ih => cases p <;> simp [pathTasks, Task.call?, ih]

/-- An entry for a model or a pipeline has one task. -/
theorem entryTasks_singleton {category : Category} (h : category ≠ .resource)
    (fields : List (String × Json)) :
    ∃ task, entryTasks category (.object fields) = [task] := by
  cases category with
  | model =>
    simp only [entryTasks, entryTasks?, Json.members?, modelTask, required]
    cases textField? fields "name" with
    | none => exact ⟨_, rfl⟩
    | some name => cases textField? fields "model" <;> exact ⟨_, rfl⟩
  | pipeline =>
    simp only [entryTasks, entryTasks?, Json.members?, pipelineTask, required]
    cases textField? fields "name" with
    | none => exact ⟨_, rfl⟩
    | some name => cases textField? fields "pipeline" <;> exact ⟨_, rfl⟩
  | resource => exact absurd rfl h

/-- The tasks of a resource: one for each path, if there is a name and a path. -/
theorem resourceTasks_eq (fields : List (String × Json)) :
    entryTasks .resource (.object fields) =
      match lastText? fields "name" with
      | none => [.skipEntry .resource (.missingField "name")]
      | some name =>
        if paths fields = [] then [.skipEntry .resource .noPath]
        else pathTasks name (description fields) 0 (paths fields) := by
  simp only [entryTasks, entryTasks?, Json.members?, resourceTasks, required,
    textField?_eq_lastText?]
  cases lastText? fields "name" with
  | none => rfl
  | some name =>
    by_cases hpaths : paths fields = []
    · simp [hpaths, bind, Except.bind, throw, throwThe, MonadExceptOf.throw]
    · simp [hpaths, bind, Except.bind, pure, Except.pure]

/-- An entry for a resource is one unit, unless it has a name and a list of paths. -/
theorem resourceTasks_units (appInfo : String) (fields : List (String × Json)) :
    (entryTasks .resource (.object fields)).map (Task.call? appInfo) =
      entryUnits appInfo .resource (.object fields) := by
  have htasks := resourceTasks_eq fields
  rw [paths, Json.field?_eq_lookup] at htasks
  rw [entryUnits]
  cases hname : lastText? fields "name" with
  | none =>
    rw [hname] at htasks
    exact units_of_singleton htasks
  | some name =>
    rw [hname] at htasks
    rcases hpath : fields.reverse.lookup "path" with _ | value
    · rw [hpath] at htasks
      exact units_of_singleton htasks
    · rw [hpath] at htasks
      cases value with
      | array items =>
        cases items with
        | nil => exact units_of_singleton htasks
        | cons item items =>
          rw [htasks]
          dsimp only
          rw [if_neg (by simp), pathTasks_units, description, textField?_eq_lastText?]
          rfl
      | _ => exact units_of_singleton htasks

theorem entryTasks_units (appInfo : String) (category : Category) (entry : Json) :
    (entryTasks category entry).map (Task.call? appInfo) = entryUnits appInfo category entry := by
  cases entry with
  | object fields =>
    cases category with
    | model =>
      have hmodel : Category.model ≠ .resource := nofun
      obtain ⟨task, htask⟩ := entryTasks_singleton hmodel fields
      exact units_of_singleton htask
    | pipeline =>
      have hpipeline : Category.pipeline ≠ .resource := nofun
      obtain ⟨task, htask⟩ := entryTasks_singleton hpipeline fields
      exact units_of_singleton htask
    | resource => exact resourceTasks_units appInfo fields
  | _ => cases category <;> rfl

/-- The units of a section are those of its entries. -/
theorem sectionUnits_eq (appInfo : String) {key : String} {category : Category}
    (hkey : categoryOf? key = some category) (value : Json) :
    sectionUnits appInfo (key, value) =
      (entries value).flatMap (entryUnits appInfo category) := by
  simp only [sectionUnits, hkey]
  cases value <;> simp [entries]

theorem ofMembers_units (appInfo : String) (members : List (String × Json)) :
    (Plan.ofMembers members).tasks.map (Task.call? appInfo) =
      (members.takeWhile fun s => (categoryOf? s.1).isSome).flatMap (sectionUnits appInfo) := by
  induction members with
  | nil => rfl
  | cons m members ih =>
    obtain ⟨key, value⟩ := m
    rw [Plan.ofMembers, ofKey?_eq_categoryOf?]
    cases hkey : categoryOf? key with
    | none => simp [hkey]
    | some category =>
      rw [List.takeWhile_cons_of_pos (by simp [hkey]), List.flatMap_cons, ← ih,
        sectionUnits_eq appInfo hkey, List.map_append, List.map_flatMap]
      simp only [entryTasks_units]

/-! ## The calls of units -/

theorem method_of_mem_entryCalls {appInfo : String} {category : Category} {entry : Json} {c : Call}
    (h : c ∈ entryCalls appInfo category entry) : c.method = category.method := by
  cases entry with
  | object fields =>
    cases category with
    | model =>
      rw [entryCalls] at h
      split at h
      · rw [List.mem_singleton.1 h]
        rfl
      · cases h
    | pipeline =>
      rw [entryCalls] at h
      split at h
      · rw [List.mem_singleton.1 h]
        rfl
      · cases h
    | resource =>
      rw [entryCalls] at h
      split at h
      · obtain ⟨path, -, rfl⟩ := List.mem_map.1 h
        rfl
      · cases h
  | _ => cases category <;> cases h

/-- An entry leads to calls of the method of its category. -/
theorem method_of_mem_entryUnits {appInfo : String} {category : Category} {entry : Json} {c : Call}
    (h : some c ∈ entryUnits appInfo category entry) : c.method = category.method := by
  have hsingle (h : some c ∈ [(entryCalls appInfo category entry).head?]) :
      c.method = category.method :=
    method_of_mem_entryCalls (List.mem_of_mem_head? (List.mem_singleton.1 h).symm)
  unfold entryUnits at h
  split at h
  · split at h
    · obtain ⟨path, -, hpath⟩ := List.mem_map.1 h
      obtain ⟨path, -, rfl⟩ := Option.map_eq_some_iff.1 hpath
      rfl
    · exact hsingle h
  · exact hsingle h

/-- A section leads to calls of the method of its category. -/
theorem method_of_mem_sectionUnits {appInfo key : String} {category : Category} {value : Json}
    {c : Call} (hkey : categoryOf? key = some category)
    (h : some c ∈ sectionUnits appInfo (key, value)) : c.method = category.method := by
  rw [sectionUnits_eq appInfo hkey] at h
  obtain ⟨entry, -, hentry⟩ := List.mem_flatMap.1 h
  exact method_of_mem_entryUnits hentry

/-- A manifest leads to registrations alone. -/
theorem method_of_mem_units {appInfo text : String} {c : Call} (h : some c ∈ units appInfo text) :
    ∃ category : Category, c.method = category.method := by
  unfold units at h
  split at h
  · obtain ⟨⟨key, value⟩, -, hs⟩ := List.mem_flatMap.1 h
    cases hkey : categoryOf? key with
    | none => simp [sectionUnits, hkey] at hs
    | some category => exact ⟨category, method_of_mem_sectionUnits hkey hs⟩
  · cases h

/-! ## Whole manifests -/

/-- How the registration of a manifest ends, with what events, when its units come to these
fates. -/
inductive Ends (fates : List Fate) : Except ManifestError Report → List Event → Prop
  | done {told : List Event} (h : List.Forall₂ Fate.ToldBy fates told) {report : Report}
      (hreport : report = (fates.map Fate.mark).foldl Report.count .empty) :
      Ends fates (.ok report) (told ++ [.manifestDone report])
  | unknownCategory {told : List Event} (h : List.Forall₂ Fate.ToldBy fates told) (key : String) :
      Ends fates (.error (.unknownCategory key)) (told ++ [.unknownCategory key])
  | malformed (document : Bytes) (failure : Json.Failure) (hfates : fates = []) :
      Ends fates (.error (.malformed document failure)) []
  | notAnObject (hfates : fates = []) : Ends fates (.error .notAnObject) []

/-- A report counts the fates of the units. -/
theorem Ends.report_eq {fates : List Fate} {report : Report} {events : List Event}
    (h : Ends fates (.ok report) events) :
    report = (fates.map Fate.mark).foldl Report.count .empty := by
  cases h with
  | done _ hreport => exact hreport

theorem register_ends (backend : Backend σ) (appInfo text : String) (s : σ) :
    let o := (register backend appInfo (Text.bytes text)).run s
    Ends (fates backend (units appInfo text) s) o.value o.events := by
  intro o
  simp only [o, register, Plan.ofDocument, units]
  cases Json.parse (Text.bytes text) with
  | error failure => exact .malformed _ failure rfl
  | ok root =>
    cases root with
    | object members =>
      simp only [Json.members?, distinct_eq_sections]
      rw [← ofMembers_units, Plan.run, Action.run_bind]
      obtain ⟨hvalue, htold⟩ :=
        runTasks_fates backend appInfo (Plan.ofMembers (sections members)).tasks .empty s
      cases (Plan.ofMembers (sections members)).unknownKey with
      | some key => exact .unknownCategory htold key
      | none => exact .done htold hvalue
    | _ => exact .notAnObject rfl

/-- A manifest leaves the state that the calls of its units lead to. -/
theorem register_state (backend : Backend σ) (appInfo text : String) (s : σ) :
    ((register backend appInfo (Text.bytes text)).run s).state =
      (backend.run ((units appInfo text).filterMap id) s).2 := by
  simp only [register, Plan.ofDocument, units]
  cases Json.parse (Text.bytes text) with
  | error failure => rfl
  | ok root =>
    cases root with
    | object members =>
      simp only [Json.members?, distinct_eq_sections]
      rw [Plan.run_state, Plan.calls, ← ofMembers_units, List.filterMap_map]
      rfl
    | _ => rfl

/-! ## Transcripts of manifests -/

/-- What is asked and answered while a manifest is registered. -/
def transcript (backend : Backend σ) (appInfo text : String) (s : σ) : History :=
  ((register backend.transcribed appInfo (Text.bytes text)).run (.new s)).state.history

/-- An outcome without the transcript. -/
def withoutTranscript {α : Type} (o : Outcome (Transcript σ) α) : Outcome σ α :=
  ⟨o.value, o.state.state, o.events⟩

section Transcribed

variable (backend : Backend σ) (appInfo : String)

theorem Task.run_transcribed (task : Task) (report : Report) (t : Transcript σ) :
    withoutTranscript ((task.run backend.transcribed appInfo report).run t) =
      (task.run backend appInfo report).run t.state := by
  cases task with
  | model name path active description =>
    simp only [Task.run, run_ask_bind, Backend.transcribed]
    split <;> rfl
  | pipeline name description =>
    simp only [Task.run, run_ask_bind, Backend.transcribed]
    split <;> rfl
  | resource name path description =>
    simp only [Task.run, run_ask_bind, Backend.transcribed]
    split <;> rfl
  | skipEntry category fault => rfl
  | skipPath name index => rfl

/-- One step without its transcript, and then all that follows without theirs. -/
theorem run_bind_transcribed {α β : Type} {a : Action (Transcript σ) α} {a' : Action σ α}
    {f : α → Action (Transcript σ) β} {f' : α → Action σ β} (t : Transcript σ)
    (ha : withoutTranscript (a.run t) = a'.run t.state)
    (hf : ∀ v t, withoutTranscript ((f v).run t) = (f' v).run t.state) :
    withoutTranscript ((a >>= f).run t) = (a' >>= f').run t.state := by
  rw [Action.run_bind, Action.run_bind, ← ha]
  simp only [withoutTranscript]
  rw [← hf]
  rfl

theorem runTasks_transcribed (tasks : List Task) (report : Report) (t : Transcript σ) :
    withoutTranscript ((runTasks backend.transcribed appInfo tasks report).run t) =
      (runTasks backend appInfo tasks report).run t.state := by
  induction tasks generalizing report t with
  | nil => rfl
  | cons task tasks ih =>
    exact run_bind_transcribed t (task.run_transcribed backend appInfo report t) ih

theorem Plan.run_transcribed (plan : Plan) (t : Transcript σ) :
    withoutTranscript ((plan.run backend.transcribed appInfo).run t) =
      (plan.run backend appInfo).run t.state := by
  refine run_bind_transcribed t (runTasks_transcribed backend appInfo plan.tasks .empty t) ?_
  intro report t
  cases plan.unknownKey <;> rfl

/-- A manifest is registered the same way whether exchanges are written down or not. -/
theorem register_transcribed (document : Bytes) (t : Transcript σ) :
    withoutTranscript ((register backend.transcribed appInfo document).run t) =
      (register backend appInfo document).run t.state := by
  simp only [register]
  cases Plan.ofDocument document with
  | error e => rfl
  | ok plan => exact plan.run_transcribed backend appInfo t

end Transcribed

/-- What was asked and answered are the answers to the calls of the units, in order. -/
theorem transcript_eq (backend : Backend σ) (appInfo text : String) (s : σ) :
    transcript backend appInfo text s =
      (backend.run ((units appInfo text).filterMap id) s).1 := by
  rw [transcript, register_state, Backend.run_transcribed]
  exact List.nil_append _

/-- What was asked and answered is what the units came to, and so are the count and the events. -/
theorem register_fates (backend : Backend σ) (appInfo text : String) (s : σ) :
    let o := (register backend appInfo (Text.bytes text)).run s
    ∃ fates : List Fate, fates.map Fate.call? = units appInfo text ∧
      fates.filterMap Fate.exchange? = transcript backend appInfo text s ∧
      Ends fates o.value o.events := by
  intro o
  refine ⟨_, fates_calls backend _ s, ?_, register_ends backend appInfo text s⟩
  rw [transcript_eq, fates_exchanges]

end Manifest
end ModelRegistry
