import ModelRegistry.Proofs.Settings.Loading

/-!
# Blank values

A variable whose value is nothing but blanks should be as good as one that is not set.  This holds
of the variables whose values are read as texts, since their blanks are removed first.  It does not
hold of the three paths: there only the empty value counts as unset, and a path of blanks is set.
-/

namespace ModelRegistry

/-- The variable is set to a text of nothing but blanks. -/
def Environment.Blank (env : Environment) (v : Variable) : Prop :=
  ∃ s, env.Holds v s ∧ ∀ c ∈ s.toList, Text.isBlank c = true

namespace Settings

variable {env : Environment} {v : Variable}

/-- The environment without a value for the variable. -/
abbrev without (env : Environment) (v : Variable) : Environment := Function.update env v none

/-! ## Values that are read as texts -/

/-- A check of a blank value comes out as if there was no value. -/
theorem outcome_without_of_blank (c : Check v) (h : env.Blank v) :
    c.outcome (without env v) = c.outcome env := by
  obtain ⟨s, hs, hblank⟩ := h
  rw [c.outcome_of_unset (Function.update_self v none env),
    c.outcome_of_blank hs (Text.trim_eq_empty_iff.2 hblank)]

/-- Which faults there are does not depend on whether a blank value is there. -/
theorem faults_without_of_blank (h : env.Blank v) :
    (load (without env v)).faults = (load env).faults := by
  rw [faults_load, faults_load]
  refine List.flatMap_congr fun w hw => ?_
  obtain ⟨c, hc⟩ := Check.exists_of_mem_checked hw
  rw [faultsOf_of_check hc, faultsOf_of_check hc]
  by_cases hwv : w = v
  · subst hwv
    rw [outcome_without_of_blank c h]
  · rw [c.outcome_congr (Function.update_of_ne hwv none env)]

/-! ## Paths -/

/-- A path that is not empty is taken as it is. -/
theorem setting_of_path {value : Bytes} (hv : v ∉ Variable.checked) (hvalue : env v = some value)
    (hne : value ≠ []) : (load env).setting v = .path (some ⟨value⟩) := by
  cases v with
  | socketPath | packageDb | logFile =>
    simp only [load, setting, Environment.path?, hvalue, if_neg hne, Option.getD_some]
  | _ => exact absurd (by decide) hv

/-- An empty path is none. -/
theorem setting_without_of_empty (hv : v ∉ Variable.checked) (hvalue : env v = some []) :
    (load (without env v)).setting v = (load env).setting v := by
  cases v with
  | socketPath | packageDb | logFile =>
    simp only [load, setting, Environment.path?, hvalue, Function.update_self, if_true]
  | _ => exact absurd (by decide) hv

/-- The path that stands for no value is not a text of blanks. -/
theorem setting_without_ne_blank {value : Bytes} {s : String} (hs : Text.ofBytes? value = some s)
    (hblank : ∀ c ∈ s.toList, Text.isBlank c = true) :
    (load (without env v)).setting v ≠ .path (some ⟨value⟩) := by
  -- Both defaults have a slash in them.
  have hdefault {t : String} (ht : '/' ∈ t.toList) : some (Path.ofText t) ≠ some ⟨value⟩ := by
    intro heq
    cases heq
    rw [Text.ofBytes?_bytes] at hs
    cases hs
    exact absurd (hblank '/' ht) (by decide)
  cases v with
  | socketPath =>
    simpa [load, setting, Environment.path?] using hdefault (t := defaultSocketPath) (by decide)
  | packageDb =>
    simpa [load, setting, Environment.path?] using hdefault (t := defaultPackageDb) (by decide)
  | _ => simp [load, setting, Environment.path?]

/-! ## What a blank value changes -/

/-- What a blank value is to mean: without it the settings are the same. -/
def IgnoresBlanks : Prop :=
  ∀ (env : Environment) (v : Variable), env.Blank v → load (without env v) = load env

/-- A path of one blank is not the path that stands for no value. -/
theorem not_ignoresBlanks : ¬ IgnoresBlanks := by
  intro h
  let env : Environment := Function.update (fun _ => none) .socketPath (some (Text.bytes " "))
  have hblank : env.Blank .socketPath :=
    ⟨" ", ⟨Text.bytes " ", rfl, Text.ofBytes?_bytes " "⟩, Text.trim_eq_empty_iff.1 rfl⟩
  exact absurd (h env .socketPath hblank) (by decide)

theorem setting_without_of_blank (h : env.Blank v) (hv : v ∈ Variable.checked ∨ env v = some []) :
    (load (without env v)).setting v = (load env).setting v := by
  by_cases hchecked : v ∈ Variable.checked
  · obtain ⟨c, hc⟩ := Check.exists_of_mem_checked hchecked
    rw [setting_of_check hc, setting_of_check hc, outcome_without_of_blank c h]
  · exact setting_without_of_empty hchecked (hv.resolve_left hchecked)

/-- **What a blank value changes.**  It changes nothing, unless the variable sets a path and is not
empty.  Otherwise the blanks are the path; the faults and the settings of all other variables are
even then the same as without the value. -/
theorem blanks_count_as_unset_iff (h : env.Blank v) :
    (load (without env v) = load env ↔ v ∈ Variable.checked ∨ env v = some []) ∧
      (load (without env v)).faults = (load env).faults ∧
      (∀ w, w ≠ v → (load (without env v)).setting w = (load env).setting w) ∧
      ∀ value, v ∉ Variable.checked → env v = some value → value ≠ [] →
        (load env).setting v = .path (some ⟨value⟩) := by
  have hothers (w : Variable) (hw : w ≠ v) :
      (load (without env v)).setting w = (load env).setting w := setting_update_of_ne hw none
  refine ⟨⟨fun heq => ?_, fun hv => ?_⟩, faults_without_of_blank h, hothers,
    fun value hv hvalue hne => setting_of_path hv hvalue hne⟩
  · obtain ⟨s, ⟨value, hvalue, hs⟩, hblank⟩ := h
    by_contra hcases
    obtain ⟨hv, hne⟩ := not_or.1 hcases
    have hpath := setting_of_path hv hvalue fun hnil => hne (hnil ▸ hvalue)
    exact setting_without_ne_blank hs hblank (heq ▸ hpath)
  · refine eq_of_setting (fun w => ?_) (faults_without_of_blank h)
    by_cases hw : w = v
    · subst hw
      exact setting_without_of_blank h hv
    · exact hothers w hw

/-- A tab for a limit is no limit. -/
theorem blanks_count_as_unset_iff_of_limit :
    let env : Environment := fun
      | .frameLimit => some (Text.bytes "\t")
      | .packageDb => some (Text.bytes "/srv/packages")
      | _ => none
    env.Blank .frameLimit ∧ load (without env .frameLimit) = load env := by
  intro env
  have hblank : env.Blank .frameLimit :=
    ⟨"\t", ⟨Text.bytes "\t", rfl, Text.ofBytes?_bytes "\t"⟩, Text.trim_eq_empty_iff.1 rfl⟩
  exact ⟨hblank, (blanks_count_as_unset_iff hblank).1.2 (.inl (by decide))⟩

end Settings

end ModelRegistry
