import ModelRegistry.Proofs.Manifest.Units

/-!
# The report and the log of a manifest

Every unit of a manifest is counted once, and once only.  The registrations and refusals in a report
are those in the transcript of the backend, and with the units that were dropped they add up to all
units (`report_accounts_for_units`).

The log says the same again, unit by unit and in order, and closes with the report or with the key
that ended the manifest (`log_agrees_with_outcome`).

Both are read off the fates of the units, which `register_ends` lines up with the count and with the
events.
-/

namespace ModelRegistry
namespace Manifest

variable {σ : Type}

/-! ## Counting fates -/

/-- The marks of the calls among fates are those of the exchanges. -/
theorem count_mark {m : Mark} (hm : m ≠ .skipped) (fates : List Fate) :
    (fates.map Fate.mark).count m = ((fates.filterMap Fate.exchange?).map mark).count m := by
  induction fates with
  | nil => rfl
  | cons fate fates ih =>
    cases fate with
    | dropped => simpa [List.filterMap_cons, Ne.symm hm] using ih
    | called e => simp [List.count_cons, ih]

/-- What is skipped are the units without a call. -/
theorem count_skipped (fates : List Fate) :
    (fates.map Fate.mark).count .skipped = (fates.map Fate.call?).countP Option.isNone := by
  induction fates with
  | nil => rfl
  | cons fate fates ih =>
    cases fate with
    | dropped => simp [ih]
    | called e =>
      have hmark : mark e ≠ .skipped := by
        unfold mark
        split <;> simp
      simp [ih, hmark]

/-- All marks that a report counts add up to its total. -/
theorem total_foldl_count {marks : List Mark}
    (h : ∀ m, .accepted m ∈ marks → ∃ category : Category, m = category.method) :
    (marks.foldl Report.count .empty).registered + (marks.foldl Report.count .empty).skipped +
      (marks.foldl Report.count .empty).failed = marks.length := by
  simp only [Report.foldl_count, Report.registered, Report.empty, Nat.zero_add]
  induction marks with
  | nil => rfl
  | cons m marks ih =>
    have hlater := ih fun m hm => h m (List.mem_cons_of_mem _ hm)
    cases m with
    | skipped => simp; omega
    | refused => simp; omega
    | accepted m =>
      obtain ⟨category, rfl⟩ := h m List.mem_cons_self
      cases category <;> simp [Category.method] <;> omega

/-- Only registrations are accepted for the units of a manifest. -/
theorem accepted_mem_fates {fates : List Fate} {appInfo text : String}
    (hunits : fates.map Fate.call? = units appInfo text) {m : Method}
    (h : .accepted m ∈ fates.map Fate.mark) : ∃ category : Category, m = category.method := by
  obtain ⟨fate, hfate, hmark⟩ := List.mem_map.1 h
  have hunit : fate.call? ∈ units appInfo text := hunits ▸ List.mem_map_of_mem hfate
  cases fate with
  | dropped => cases hmark
  | called e =>
    obtain ⟨category, hmethod⟩ := method_of_mem_units hunit
    refine ⟨category, ?_⟩
    rw [← hmethod]
    simp only [Fate.mark, mark] at hmark
    split at hmark
    · exact (Mark.accepted.inj hmark).symm
    · cases hmark

/-- What is counted of fates is in the exchanges and in the dropped units. -/
theorem count_fates (fates : List Fate) :
    let marks := (fates.filterMap Fate.exchange?).map mark
    (fates.map Fate.mark).foldl Report.count .empty =
      { models := marks.count (.accepted .register)
        pipelines := marks.count (.accepted .setPipeline)
        resources := marks.count (.accepted .addResource)
        skipped := (fates.map Fate.call?).countP Option.isNone
        failed := marks.count .refused } := by
  intro marks
  have haccepted (m : Method) := count_mark (m := .accepted m) nofun fates
  have hrefused := count_mark (m := .refused) nofun fates
  rw [Report.foldl_count, haccepted, haccepted, haccepted, hrefused, count_skipped]
  simp only [Report.empty, Nat.zero_add, marks]

/-- The exchanges among fates are about the calls of their units. -/
theorem exchanged_calls (fates : List Fate) :
    (fates.filterMap Fate.exchange?).map (·.call) = (fates.map Fate.call?).filterMap id := by
  rw [List.map_filterMap, List.filterMap_map]
  refine List.filterMap_congr fun fate _ => ?_
  cases fate <;> rfl

/-- A unit has a call, or is dropped. -/
theorem length_units (units : List (Option Call)) :
    (units.filterMap id).length + units.countP Option.isNone = units.length := by
  induction units with
  | nil => rfl
  | cons unit units ih =>
    cases unit with
    | none =>
      rw [List.filterMap_cons_none rfl, List.countP_cons_of_pos rfl, List.length_cons]
      omega
    | some c =>
      rw [List.filterMap_cons_some (f := id) rfl, List.countP_cons_of_neg (by simp),
        List.length_cons, List.length_cons]
      omega

/-- **Every unit is counted once.**  When a manifest ends well, its report counts the registrations
of each kind and the refusals in the transcript of the backend, and the units that were dropped.
The calls in the transcript are those of the other units, so that the five numbers add up to the
number of units. -/
theorem report_accounts_for_units (backend : Backend σ) (s : σ) (appInfo text : String)
    {report : Report} :
    let o := (register backend appInfo (Text.bytes text)).run s
    let history := transcript backend appInfo text s
    let marks := history.map mark
    o.value = .ok report →
    (report.models = marks.count (.accepted .register) ∧
      report.pipelines = marks.count (.accepted .setPipeline) ∧
      report.resources = marks.count (.accepted .addResource)) ∧
    report.failed = marks.count .refused ∧
    report.registered + report.failed = history.length ∧
    history.map (·.call) = (units appInfo text).filterMap id ∧
    report.skipped = (units appInfo text).countP Option.isNone ∧
    report.models + report.pipelines + report.resources + report.skipped + report.failed =
      (units appInfo text).length := by
  intro o history marks h
  obtain ⟨fates, hunits, (hhistory : _ = history), hends⟩ := register_fates backend appInfo text s
  rw [show _ = Except.ok report from h] at hends
  -- Each number of the report is a count over the transcript or over the units.
  have hreport := hends.report_eq
  rw [count_fates, hhistory, hunits] at hreport
  -- All five together count the fates.
  have htotal := total_foldl_count fun m => accepted_mem_fates hunits (m := m)
  rw [← hends.report_eq, List.length_map] at htotal
  have hlength : fates.length = (units appInfo text).length := by
    rw [← hunits, List.length_map]
  have hcalls : history.map (·.call) = (units appInfo text).filterMap id := by
    rw [← hhistory, ← hunits]
    exact exchanged_calls fates
  have hcalled : history.length = ((units appInfo text).filterMap id).length := by
    rw [← hcalls, List.length_map]
  have hskipped : report.skipped = (units appInfo text).countP Option.isNone := by rw [hreport]
  have hsplit := length_units (units appInfo text)
  refine ⟨by rw [hreport]; exact ⟨rfl, rfl, rfl⟩, by rw [hreport], ?_, hcalls, hskipped, ?_⟩
  · omega
  · rw [Report.registered] at htotal
    omega

/-- A backend refuses the one model; the other entry for a model is no object, and one of three
paths is no text. -/
theorem report_accounts_for_units_of_refused_model :
    let text := "\x7b\"resources\": \x7b\"name\": \"r\", \"path\": [\"/a\", 1, \"/b\"]\x7d, " ++
      "\"Model\": [\x7b\"name\": \"m\", \"model\": \"/m\"\x7d, 7]\x7d"
    let backend : Backend Unit := .refusing [("m", ⟨.busy, "in use"⟩)]
    let o := (register backend "" (Text.bytes text)).run ()
    o.value = .ok ⟨0, 0, 2, 2, 1⟩ ∧ (transcript backend "" text ()).length = 3 ∧
      (units "" text).countP Option.isNone = 2 ∧ (units "" text).length = 5 := by
  intro text backend o
  have hvalue : o.value = .ok ⟨0, 0, 2, 2, 1⟩ := by decide +kernel
  obtain ⟨-, -, hmade, -, hskipped, hall⟩ := report_accounts_for_units backend () "" text hvalue
  exact ⟨hvalue, hmade.symm, hskipped.symm, hall.symm⟩

/-! ## The log -/

/-- The level at which a mark is reported. -/
def Mark.level : Mark → Level
  | skipped => .warn
  | refused => .error
  | accepted _ => .info

theorem Fate.ToldBy.level_eq {fate : Fate} {event : Event} (h : fate.ToldBy event) :
    event.level = fate.mark.level := by
  obtain _ | ⟨c, _ | _⟩ := fate
  · exact h
  · exact h.1
  · exact h.1

/-- No unit is told by a report: that is an info which names nothing. -/
theorem Fate.ToldBy.ne_manifestDone {fate : Fate} {event : Event} (h : fate.ToldBy event)
    (report : Report) : event ≠ .manifestDone report := by
  rintro rfl
  obtain _ | ⟨c, _ | _⟩ := fate
  · cases h
  · exact nomatch h.1
  · exact absurd h.2 (by simp [Event.fields])

/-- Events that tell fates have the levels of their marks. -/
theorem levels_of_told {fates : List Fate} {told : List Event}
    (h : List.Forall₂ Fate.ToldBy fates told) :
    told.map Event.level = (fates.map Fate.mark).map Mark.level := by
  induction h with
  | nil => rfl
  | cons hfate _ ih => simp [hfate.level_eq, ih]

theorem not_mem_told {fates : List Fate} {told : List Event}
    (h : List.Forall₂ Fate.ToldBy fates told) (report : Report) : .manifestDone report ∉ told := by
  induction h with
  | nil => exact List.not_mem_nil
  | cons hfate _ ih =>
    intro hmem
    rcases List.mem_cons.1 hmem with heq | hmem
    · exact hfate.ne_manifestDone report heq.symm
    · exact ih hmem

/-- How many events of a level there are is how many marks are reported at it. -/
theorem count_levels (marks : List Mark) :
    (marks.map Mark.level).count .warn = marks.count .skipped ∧
      (marks.map Mark.level).count .error = marks.count .refused ∧
      (marks.map Mark.level).count .warn + (marks.map Mark.level).count .error +
        (marks.map Mark.level).count .info = marks.length := by
  induction marks with
  | nil => exact ⟨rfl, rfl, rfl⟩
  | cons m marks ih =>
    obtain ⟨hwarn, herror, hall⟩ := ih
    cases m <;> simp [Mark.level] <;> omega

/-- The levels of the events count what a report counts. -/
theorem levels_of_report {fates : List Fate} {appInfo text : String} {told : List Event}
    (hunits : fates.map Fate.call? = units appInfo text)
    (htold : List.Forall₂ Fate.ToldBy fates told) {report : Report}
    (hreport : report = (fates.map Fate.mark).foldl Report.count .empty) :
    (told.map Event.level).count .warn = report.skipped ∧
      (told.map Event.level).count .error = report.failed ∧
      (told.map Event.level).count .info = report.registered := by
  obtain ⟨hwarn, herror, hall⟩ := count_levels (fates.map Fate.mark)
  have htotal := total_foldl_count fun m => accepted_mem_fates hunits (m := m)
  rw [← hreport] at htotal
  rw [levels_of_told htold]
  have hskipped : report.skipped = (fates.map Fate.mark).count .skipped := by
    rw [hreport, Report.foldl_count]
    exact Nat.zero_add _
  have hfailed : report.failed = (fates.map Fate.mark).count .refused := by
    rw [hreport, Report.foldl_count]
    exact Nat.zero_add _
  refine ⟨hwarn.trans hskipped.symm, herror.trans hfailed.symm, ?_⟩
  omega

/-- The events tell what became of the units of a manifest, one event for each and in order: which
calls were made, and what was answered, is in the transcript. -/
def Tells (units : List (Option Call)) (history : History) (told : List Event) : Prop :=
  ∃ fates : List Fate, fates.map Fate.call? = units ∧ fates.filterMap Fate.exchange? = history ∧
    List.Forall₂ Fate.ToldBy fates told

/-- **The log agrees with the outcome.**  The log tells, first and in order, what became of the
units of a manifest, so that every call has its one event, and says nothing of a report.  Then a
manifest that ends well reports the counts as an info, and the levels of the log count what the
report counts; one with an unknown key reports the key as an error, and no counts.  Of any other
manifest nothing is reported, and nothing is asked of the backend: it has no units. -/
theorem log_agrees_with_outcome (backend : Backend σ) (s : σ) (appInfo text : String) :
    let o := (register backend appInfo (Text.bytes text)).run s
    let history := transcript backend appInfo text s
    let levels := o.events.map Event.level
    ∃ told, Tells (units appInfo text) history told ∧ (∀ r, .manifestDone r ∉ told) ∧
      match o.value with
      | .ok report =>
        ∃ last, o.events = told ++ [last] ∧ last.level = .info ∧
          last.fields = [("models", .number report.models), ("pipelines", .number report.pipelines),
            ("resources", .number report.resources), ("skipped", .number report.skipped),
            ("failed", .number report.failed)] ∧
          levels.count .warn = report.skipped ∧ levels.count .error = report.failed ∧
          levels.count .info = report.registered + 1
      | .error (.unknownCategory key) =>
        ∃ last, o.events = told ++ [last] ∧ (∀ r, .manifestDone r ∉ o.events) ∧
          last.level = .error ∧ last.fields = [("key", .text key)]
      | .error _ => o.events = [] ∧ history = [] ∧ units appInfo text = [] := by
  intro o history levels
  obtain ⟨fates, hunits, hhistory, hends⟩ := register_fates backend appInfo text s
  have hends : Ends fates o.value o.events := hends
  have hhistory : fates.filterMap Fate.exchange? = history := hhistory
  have htells {told : List Event} (h : List.Forall₂ Fate.ToldBy fates told) :
      Tells (units appInfo text) history told := ⟨fates, hunits, hhistory, h⟩
  -- Without fates there are neither units nor calls.
  have hnothing (hfates : fates = []) :
      Tells (units appInfo text) history [] ∧ history = [] ∧ units appInfo text = [] := by
    subst hfates
    exact ⟨⟨[], hunits, hhistory, .nil⟩, hhistory.symm, hunits.symm⟩
  simp only [levels]
  generalize o.value = value, o.events = events at hends ⊢
  cases hends with
  | @done told htold report hreport =>
    obtain ⟨hwarn, herror, hinfo⟩ := levels_of_report hunits htold hreport
    refine ⟨told, htells htold, not_mem_told htold, _, rfl, rfl, rfl, ?_⟩
    simp [hwarn, herror, hinfo, Event.level]
  | @unknownCategory told htold key =>
    refine ⟨told, htells htold, not_mem_told htold, _, rfl, ?_, rfl, rfl⟩
    intro r hmem
    rcases List.mem_append.1 hmem with hmem | hmem
    · exact not_mem_told htold r hmem
    · cases List.mem_singleton.1 hmem
  | malformed _ _ hfates | notAnObject hfates =>
    obtain ⟨htold, hempty⟩ := hnothing hfates
    exact ⟨[], htold, fun _ => List.not_mem_nil, rfl, hempty⟩

/-- The backend refuses the one model, and the other entry is no object; a manifest that is a list
leads to nothing. -/
theorem log_agrees_with_outcome_of_refused_model :
    let text := "\x7b\"Models\": [\x7b\"name\": \"m\", \"model\": \"/m\"\x7d, 7], " ++
      "\"pipeline\": \x7b\"name\": \"p\", \"pipeline\": \"\"\x7d\x7d"
    let backend : Backend Unit := .refusing [("m", ⟨.busy, "in use"⟩)]
    let levels := ((register backend "" (Text.bytes text)).run ()).events.map Event.level
    (levels.count .warn = 1 ∧ levels.count .error = 1 ∧ levels.count .info = 2) ∧
      transcript backend "" "[1]" () = [] := by
  intro text backend levels
  have hvalue : ((register backend "" (Text.bytes text)).run ()).value = .ok ⟨0, 1, 0, 1, 1⟩ := by
    decide +kernel
  have hlist : ((register backend "" (Text.bytes "[1]")).run ()).value = .error .notAnObject := by
    decide +kernel
  obtain ⟨told, -, -, hends⟩ := log_agrees_with_outcome backend () "" text
  simp only [hvalue] at hends
  obtain ⟨last, -, -, -, hlevels⟩ := hends
  obtain ⟨told, -, -, hends⟩ := log_agrees_with_outcome backend () "" "[1]"
  simp only [hlist] at hends
  exact ⟨hlevels, hends.2.1⟩

end Manifest
end ModelRegistry
