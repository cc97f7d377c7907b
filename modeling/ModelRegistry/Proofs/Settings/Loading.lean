import Mathlib.Logic.Function.Basic
import ModelRegistry.Proofs.Settings.Numerals
import ModelRegistry.Proofs.Text.Trimming

/-!
# Loading settings

A setting is what its own variable makes it, whatever the other variables hold.  `Variable.Means`
says which texts can be used as the value of a variable and what they set, and
`Environment.Rejected` which values cannot be used; neither mentions how a value is read.  The main
statement is `settings_are_accounted_for`: the settings that are loaded keep their lower bounds,
depend on their own variables only, and are those that the variables mean; and the faults are those
of the variables whose values cannot be used, one for each in a fixed order.

Five variables are read as texts, in the same way but with a reader each.  A `Check` is such a
reader with the proof that it accepts just the texts that mean something, and what is said about one
of the five is said about checks.
-/

namespace ModelRegistry

/-! ## What a value means -/

/-- What one variable sets. -/
inductive Setting
  | path (path : Option Path)
  | number (value : Nat)
  | level (filter : String)
  | format (format : LogFormat)

/-- The setting of a variable. -/
def Settings.setting (s : Settings) : Variable → Setting
  | .socketPath => .path (some s.socketPath)
  | .packageDb => .path (some s.packageDb)
  | .frameLimit => .number s.frameLimit
  | .maxConnections => .number s.maxConnections
  | .shutdownTimeout => .number s.shutdownSeconds
  | .logLevel => .level s.log.level
  | .logFormat => .format s.log.format
  | .logFile => .path s.log.file

/-- Besides the settings of the variables there are only the faults. -/
theorem Settings.eq_of_setting {s s' : Settings} (h : ∀ v, s.setting v = s'.setting v)
    (hfaults : s.faults = s'.faults) : s = s' := by
  have hsocket := h .socketPath
  have hpackages := h .packageDb
  have hlimit := h .frameLimit
  have hconnections := h .maxConnections
  have htimeout := h .shutdownTimeout
  have hlevel := h .logLevel
  have hformat := h .logFormat
  have hfile := h .logFile
  obtain ⟨_, _, _, _, _, ⟨_, _, _⟩, _⟩ := s
  obtain ⟨_, _, _, _, _, ⟨_, _, _⟩, _⟩ := s'
  simp_all [setting]

namespace Variable

/-- The variables whose values are read as texts, in order. -/
def checked : List Variable := [frameLimit, maxConnections, shutdownTimeout, logLevel, logFormat]

/-- The least number that a variable sets. -/
def least? : Variable → Option Nat
  | frameLimit => some 4096
  | maxConnections => some 1
  | shutdownTimeout => some 1
  | _ => none

/-- What a text, without blanks around it, means as the value of a variable. -/
inductive Means : Variable → String → Setting → Prop
  | number {v : Variable} {least n : Nat} {t : String} (hv : v.least? = some least)
      (ht : Numeral t.toList n) : Means v t (.number (max n least))
  | level (t : String) : Means logLevel t (.level t)
  | json {t : String} (ht : Text.lower t = "json") : Means logFormat t (.format .json)
  | pretty {t : String} (ht : Text.lower t = "pretty" ∨ Text.lower t = "text") :
      Means logFormat t (.format .pretty)

theorem Means.mem_checked {v : Variable} {t : String} {x : Setting} (h : v.Means t x) :
    v ∈ checked := by
  cases h with
  | number hv => cases v <;> first | decide | cases hv
  | _ => decide

end Variable

namespace Environment

variable (env : Environment) (v : Variable)

/-- The variable is set to bytes that are no text. -/
def Undecodable : Prop := ∃ value, env v = some value ∧ Text.ofBytes? value = none

/-- The variable is set to a text. -/
def Holds (s : String) : Prop := ∃ value, env v = some value ∧ Text.ofBytes? value = some s

/-- The variable is set, and its value cannot be used: it is no text, or one that means nothing and
is not blank. -/
def Rejected : Prop :=
  env.Undecodable v ∨ ∃ s t, env.Holds v s ∧ Text.Trimmed s.toList t.toList ∧ t ≠ "" ∧
    ∀ x, ¬ v.Means t x

/-- A variable is not set, or to bytes that are no text, or to a text. -/
theorem unset_or_holds : env v = none ∨ env.Undecodable v ∨ ∃ s, env.Holds v s := by
  cases hvalue : env v with
  | none => exact .inl rfl
  | some value =>
    right
    cases htext : Text.ofBytes? value with
    | none => exact .inl ⟨value, hvalue, htext⟩
    | some s => exact .inr ⟨s, value, hvalue, htext⟩

end Environment

/-! ## How a value is read -/

namespace Environment

variable {env : Environment} {v : Variable} {α : Type} {read : String → Except String α} {a : α}

theorem value?_of_unset (h : env v = none) : env.value? v read = .ok none := by
  simp only [value?, text?, h]

theorem value?_of_undecodable (h : env.Undecodable v) : env.value? v read = .error (.notText v) := by
  obtain ⟨value, hvalue, htext⟩ := h
  simp only [value?, text?, hvalue, htext]

theorem value?_of_blank {s : String} (h : env.Holds v s) (hs : Text.trim s = "") :
    env.value? v read = .ok none := by
  obtain ⟨value, hvalue, htext⟩ := h
  simp only [value?, text?, hvalue, htext, if_pos hs]

theorem value?_of_ok {s : String} (h : env.Holds v s) (hs : Text.trim s ≠ "")
    (ha : read (Text.trim s) = .ok a) : env.value? v read = .ok (some a) := by
  obtain ⟨value, hvalue, htext⟩ := h
  simp only [value?, text?, hvalue, htext, if_neg hs, ha]

theorem value?_of_error {s reason : String} (h : env.Holds v s) (hs : Text.trim s ≠ "")
    (he : read (Text.trim s) = .error reason) :
    env.value? v read = .error (.invalidValue v s reason) := by
  obtain ⟨value, hvalue, htext⟩ := h
  simp only [value?, text?, hvalue, htext, if_neg hs, he]

/-- A value is read from a text that is not blank and has a reading, and from nothing else. -/
theorem value?_eq_some_iff : env.value? v read = .ok (some a) ↔
    ∃ s, env.Holds v s ∧ Text.trim s ≠ "" ∧ read (Text.trim s) = .ok a := by
  constructor
  · intro h
    rcases env.unset_or_holds v with hunset | hundecodable | ⟨s, hs⟩
    · simp [value?_of_unset hunset] at h
    · simp [value?_of_undecodable hundecodable] at h
    · by_cases hblank : Text.trim s = ""
      · simp [value?_of_blank hs hblank] at h
      · cases hread : read (Text.trim s) with
        | error reason => simp [value?_of_error hs hblank hread] at h
        | ok b =>
          rw [value?_of_ok hs hblank hread] at h
          cases h
          exact ⟨s, hs, hblank, hread⟩
  · rintro ⟨s, hs, hblank, hread⟩
    exact value?_of_ok hs hblank hread

/-- The value of a variable depends on that variable alone. -/
theorem valueOr_congr {env' : Environment} (h : env' v = env v) (default : α) :
    env'.valueOr v default read = env.valueOr v default read := by
  simp only [valueOr, value?, text?, h]

end Environment

/-- The variable that a fault is about. -/
def SettingFault.source : SettingFault → Variable
  | .invalidValue v _ _ => v
  | .notText v => v

/-- A fault says what the value of its variable is. -/
def SettingFault.Tells (env : Environment) : SettingFault → Prop
  | .invalidValue v s _ => env.Holds v s
  | .notText v => env.Undecodable v

/-- A reader of the values of a variable, and what becomes of the values that it reads.  It accepts
the texts that mean something, and reads them as what they mean. -/
structure Check (v : Variable) where
  Value : Type
  read : String → Except String Value
  default : Value
  setting : Value → Setting
  means_of_read : ∀ {t a}, read t = .ok a → v.Means t (setting a)
  exists_of_means : ∀ {t x}, v.Means t x → ∃ a, read t = .ok a ∧ setting a = x

namespace Check

variable {v : Variable} (c : Check v) (env : Environment)

/-- The value of the variable, or its default, and the fault if there is one. -/
def outcome : c.Value × List SettingFault := env.valueOr v c.default c.read

variable {env}

/-- The outcome depends on the variable alone. -/
theorem outcome_congr {env' : Environment} (h : env' v = env v) : c.outcome env' = c.outcome env :=
  Environment.valueOr_congr h c.default

theorem outcome_of_unset (h : env v = none) : c.outcome env = (c.default, []) := by
  simp only [outcome, Environment.valueOr, Environment.value?_of_unset h, Option.getD_none]

theorem outcome_of_blank {s : String} (h : env.Holds v s) (hs : Text.trim s = "") :
    c.outcome env = (c.default, []) := by
  simp only [outcome, Environment.valueOr, Environment.value?_of_blank h hs, Option.getD_none]

/-- A text that means something sets what it means. -/
theorem outcome_of_means {s : String} (h : env.Holds v s) (hs : Text.trim s ≠ "") {x : Setting}
    (hx : v.Means (Text.trim s) x) : ∃ a, c.outcome env = (a, []) ∧ c.setting a = x := by
  obtain ⟨a, ha, hsetting⟩ := c.exists_of_means hx
  refine ⟨a, ?_, hsetting⟩
  simp only [outcome, Environment.valueOr, Environment.value?_of_ok h hs ha, Option.getD_some]

/-- A value that cannot be used leaves the default and one fault, which tells what the value is. -/
theorem outcome_of_rejected (h : env.Rejected v) :
    ∃ fault : SettingFault, c.outcome env = (c.default, [fault]) ∧ fault.source = v ∧
      fault.Tells env := by
  rcases h with hundecodable | ⟨s, t, hs, ht, hne, hnone⟩
  · refine ⟨.notText v, ?_, rfl, hundecodable⟩
    simp only [outcome, Environment.valueOr, Environment.value?_of_undecodable hundecodable]
  · obtain rfl := Text.trimmed_iff.1 ht
    cases hread : c.read (Text.trim s) with
    | ok a => exact absurd (c.means_of_read hread) (hnone _)
    | error reason =>
      refine ⟨.invalidValue v s reason, ?_, rfl, hs⟩
      simp only [outcome, Environment.valueOr, Environment.value?_of_error hs hne hread]

/-- There is no fault unless the value cannot be used. -/
theorem faults_of_not_rejected (h : ¬ env.Rejected v) : (c.outcome env).2 = [] := by
  rcases env.unset_or_holds v with hunset | hundecodable | ⟨s, hs⟩
  · rw [c.outcome_of_unset hunset]
  · exact absurd (.inl hundecodable) h
  · by_cases hblank : Text.trim s = ""
    · rw [c.outcome_of_blank hs hblank]
    · by_cases hmeans : ∃ x, v.Means (Text.trim s) x
      · obtain ⟨x, hx⟩ := hmeans
        obtain ⟨a, ha, -⟩ := c.outcome_of_means hs hblank hx
        rw [ha]
      · exact absurd (.inr ⟨s, _, hs, Text.trimmed_trim s, hblank, not_exists.1 hmeans⟩) h

end Check

/-! ## The five checks -/

theorem mapError_eq_ok_iff {ε ε' α : Type} {x : Except ε α} {f : ε → ε'} {a : α} :
    x.mapError f = .ok a ↔ x = .ok a := by
  cases x <;> simp [Except.mapError]

theorem Settings.number_eq_ok_iff {t : String} {n : Nat} :
    number t = .ok n ↔ Numeral t.toList n := by
  rw [number, mapError_eq_ok_iff, readNumber_eq_ok_iff]

/-- A text that spells a number is not empty. -/
theorem Numeral.ne_empty {t : String} {n : Nat} (h : Numeral t.toList n) : t ≠ "" := by
  rintro rfl
  exact h.ne_nil rfl

/-- A number is read from a text that spells one when the blanks around it are removed. -/
theorem Environment.value?_number_iff {env : Environment} {v : Variable} {n : Nat} :
    env.value? v Settings.number = .ok (some n) ↔
      ∃ s t : String, env.Holds v s ∧ Text.Trimmed s.toList t.toList ∧ Numeral t.toList n := by
  rw [value?_eq_some_iff]
  constructor
  · rintro ⟨s, hs, -, hn⟩
    exact ⟨s, _, hs, Text.trimmed_trim s, Settings.number_eq_ok_iff.1 hn⟩
  · rintro ⟨s, t, hs, ht, hn⟩
    obtain rfl := Text.trimmed_iff.1 ht
    exact ⟨s, hs, hn.ne_empty, Settings.number_eq_ok_iff.2 hn⟩

theorem LogFormat.ofName_eq_ok_iff {t : String} {f : LogFormat} :
    ofName t = .ok f ↔ Variable.logFormat.Means t (.format f) := by
  constructor
  · intro h
    simp only [ofName] at h
    split at h
    · next hjson =>
      cases h
      exact .json hjson
    · split at h
      · next hpretty =>
        cases h
        exact .pretty hpretty
      · cases h
  · intro h
    cases h with
    | json ht => simp [ofName, ht]
    | pretty ht => rcases ht with ht | ht <;> simp [ofName, ht]

namespace Check

/-- A number is raised to the least one. -/
def number {v : Variable} {least : Nat} (hv : v.least? = some least) (default : Nat) : Check v where
  Value := Nat
  read := Settings.number
  default
  setting n := .number (max n least)
  means_of_read h := .number hv (Settings.number_eq_ok_iff.1 h)
  exists_of_means h := by
    cases h with
    | number hv' ht =>
      obtain rfl := Option.some.inj (hv.symm.trans hv')
      exact ⟨_, Settings.number_eq_ok_iff.2 ht, rfl⟩
    | _ => cases hv

/-- Any text can be a filter. -/
def level : Check .logLevel where
  Value := String
  read := .ok
  default := "info"
  setting := .level
  means_of_read h := by
    cases h
    exact .level _
  exists_of_means h := by
    cases h with
    | number hv => cases hv
    | level => exact ⟨_, rfl, rfl⟩

def format : Check .logFormat where
  Value := LogFormat
  read s := (LogFormat.ofName s).mapError LogError.message
  default := .json
  setting := .format
  means_of_read h := LogFormat.ofName_eq_ok_iff.1 (mapError_eq_ok_iff.1 h)
  exists_of_means h := by
    cases h with
    | number hv => cases hv
    | json ht => exact ⟨_, mapError_eq_ok_iff.2 (LogFormat.ofName_eq_ok_iff.2 (.json ht)), rfl⟩
    | pretty ht => exact ⟨_, mapError_eq_ok_iff.2 (LogFormat.ofName_eq_ok_iff.2 (.pretty ht)), rfl⟩

/-- How the values of a variable are checked; those of paths are not. -/
def of? : (v : Variable) → Option (Check v)
  | .frameLimit => some (number rfl defaultLimit)
  | .maxConnections => some (number rfl 64)
  | .shutdownTimeout => some (number rfl 10)
  | .logLevel => some level
  | .logFormat => some format
  | _ => none

theorem exists_of_mem_checked {v : Variable} (hv : v ∈ Variable.checked) : ∃ c, of? v = some c := by
  cases v with
  | socketPath | packageDb | logFile => exact absurd hv (by decide)
  | _ => exact ⟨_, rfl⟩

end Check

namespace Settings

variable {env env' : Environment} {v : Variable}

/-- The faults of one variable. -/
def faultsOf (env : Environment) (v : Variable) : List SettingFault :=
  match Check.of? v with
  | some c => (c.outcome env).2
  | none => []

theorem faultsOf_of_check {c : Check v} (hc : Check.of? v = some c) :
    faultsOf env v = (c.outcome env).2 := by
  simp only [faultsOf, hc]

theorem setting_of_check {c : Check v} (hc : Check.of? v = some c) :
    (load env).setting v = c.setting (c.outcome env).1 := by
  cases v <;> cases hc <;> rfl

theorem faults_load (env : Environment) :
    (load env).faults = Variable.checked.flatMap (faultsOf env) := by
  simp [load, Variable.checked, faultsOf, Check.of?, Check.outcome, Check.number, Check.level,
    Check.format]

/-! ## Each setting by its own variable -/

theorem setting_congr (h : env' v = env v) : (load env').setting v = (load env).setting v := by
  cases v with
  | socketPath | packageDb | logFile => simp only [load, setting, Environment.path?, h]
  | _ => simp only [load, setting, Environment.valueOr_congr h]

theorem setting_update_of_ne {w : Variable} (h : w ≠ v) (value : Option Bytes) :
    (load (Function.update env v value)).setting w = (load env).setting w :=
  setting_congr (Function.update_of_ne h value env)

/-- A value that means something sets what it means. -/
theorem setting_of_means {s t : String} {x : Setting} (hs : env.Holds v s)
    (ht : Text.Trimmed s.toList t.toList) (hne : t ≠ "") (hx : v.Means t x) :
    (load env).setting v = x := by
  obtain rfl := Text.trimmed_iff.1 ht
  obtain ⟨c, hc⟩ := Check.exists_of_mem_checked hx.mem_checked
  obtain ⟨a, ha, hsetting⟩ := c.outcome_of_means hs hne hx
  rw [setting_of_check hc, ha, hsetting]

/-- A value that cannot be used is as good as none. -/
theorem setting_of_rejected (hv : v ∈ Variable.checked) (h : env.Rejected v) :
    (load env).setting v = (load (Function.update env v none)).setting v := by
  obtain ⟨c, hc⟩ := Check.exists_of_mem_checked hv
  obtain ⟨fault, hfault, -⟩ := c.outcome_of_rejected h
  have hunset := c.outcome_of_unset (Function.update_self v none env)
  rw [setting_of_check hc, setting_of_check hc, hfault, hunset]

/-! ## The faults -/

theorem faultsOf_of_rejected (hv : v ∈ Variable.checked) (h : env.Rejected v) :
    ∃ fault : SettingFault, faultsOf env v = [fault] ∧ fault.source = v ∧ fault.Tells env := by
  obtain ⟨c, hc⟩ := Check.exists_of_mem_checked hv
  obtain ⟨fault, hfault, htells⟩ := c.outcome_of_rejected h
  exact ⟨fault, by rw [faultsOf_of_check hc, hfault], htells⟩

theorem faultsOf_of_not_rejected (hv : v ∈ Variable.checked) (h : ¬ env.Rejected v) :
    faultsOf env v = [] := by
  obtain ⟨c, hc⟩ := Check.exists_of_mem_checked hv
  rw [faultsOf_of_check hc, c.faults_of_not_rejected h]

open scoped Classical in
theorem sources_of_faultsOf {vs : List Variable} (hvs : vs ⊆ Variable.checked) :
    (vs.flatMap (faultsOf env)).map SettingFault.source = vs.filter fun v => env.Rejected v := by
  induction vs with
  | nil => rfl
  | cons v vs ih =>
    obtain ⟨hv, hvs⟩ := List.cons_subset.1 hvs
    rw [List.flatMap_cons, List.map_append, ih hvs]
    by_cases hrejected : env.Rejected v
    · obtain ⟨fault, hfault, hsource, -⟩ := faultsOf_of_rejected hv hrejected
      simp [hfault, hsource, hrejected]
    · simp [faultsOf_of_not_rejected hv hrejected, hrejected]

theorem tells_of_mem_faults {fault : SettingFault} (h : fault ∈ (load env).faults) :
    fault.Tells env := by
  rw [faults_load] at h
  obtain ⟨v, hv, hfault⟩ := List.mem_flatMap.1 h
  by_cases hrejected : env.Rejected v
  · obtain ⟨fault', hfault', -, htells⟩ := faultsOf_of_rejected hv hrejected
    rw [hfault', List.mem_singleton] at hfault
    exact hfault ▸ htells
  · simp [faultsOf_of_not_rejected hv hrejected] at hfault

/-! ## The statement -/

open scoped Classical in
/-- Every environment makes settings.  They keep their lower bounds, and each of them depends on its
own variable: a change of another one does not change it.

A variable that sets a number is accepted if and only if it holds a text that spells one when the
blanks around it are removed, and then the setting is that number raised to the lower bound;
likewise the other texts set what they mean.  There is one fault for each value that cannot be used,
in the order of the variables, and no other; it tells what the value is, and the setting is the one
without the value. -/
theorem settings_are_accounted_for (env : Environment) :
    (4096 ≤ (load env).frameLimit ∧ 1 ≤ (load env).maxConnections ∧
      1 ≤ (load env).shutdownSeconds) ∧
    (∀ (v : Variable) (env' : Environment), env' v = env v →
      (load env').setting v = (load env).setting v) ∧
    (∀ (v w : Variable) (value : Option Bytes), w ≠ v →
      (load (Function.update env v value)).setting w = (load env).setting w) ∧
    (∀ (v : Variable) (least n : Nat), v.least? = some least →
      (env.value? v number = .ok (some n) ↔
        ∃ s t : String, env.Holds v s ∧ Text.Trimmed s.toList t.toList ∧ Numeral t.toList n) ∧
      (env.value? v number = .ok (some n) →
        (load env).setting v = .number (max n least))) ∧
    (∀ (v : Variable) (s t : String) (x : Setting), env.Holds v s →
      Text.Trimmed s.toList t.toList → t ≠ "" → v.Means t x → (load env).setting v = x) ∧
    (load env).faults.map SettingFault.source =
      Variable.checked.filter (fun v => env.Rejected v) ∧
    (∀ fault ∈ (load env).faults, fault.Tells env) ∧
    ∀ v ∈ Variable.checked, env.Rejected v →
      (load env).setting v = (load (Function.update env v none)).setting v := by
  refine ⟨?bounds, ?own, ?others, ?numbers, ?texts, ?sources, ?tells, ?rejected⟩
  case bounds => exact ⟨Nat.le_max_right _ _, Nat.le_max_right _ _, Nat.le_max_right _ _⟩
  case own => exact fun v env' h => setting_congr h
  case others => exact fun v w value h => setting_update_of_ne h value
  case numbers =>
    intro v least n hleast
    refine ⟨Environment.value?_number_iff, fun hvalue => ?_⟩
    obtain ⟨s, t, hs, ht, hn⟩ := Environment.value?_number_iff.1 hvalue
    exact setting_of_means hs ht hn.ne_empty (.number hleast hn)
  case texts => exact fun v s t x => setting_of_means
  case sources => rw [faults_load, sources_of_faultsOf (List.Subset.refl _)]
  case tells => exact fun fault => tells_of_mem_faults
  case rejected => exact fun v => setting_of_rejected

/-- A signed number among blanks is accepted; a word is not. -/
example :
    let s := load fun
      | .frameLimit => some (Text.bytes " +5000 ")
      | .maxConnections => some (Text.bytes "no")
      | _ => none
    s.frameLimit = 5000 ∧ s.maxConnections = 64 ∧
      s.faults = [.invalidValue .maxConnections "no" "invalid digit found in string"] := by
  decide

end Settings

end ModelRegistry
