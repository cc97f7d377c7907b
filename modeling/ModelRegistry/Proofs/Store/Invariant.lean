import Mathlib.Data.List.Nodup
import ModelRegistry.Proofs.Store.Step

/-!
# What holds of every reachable store

`Lineage` says what is true of the versions kept under one name: they count down from the last
version handed out, at most one of them is active, and each carries the name and a path.  The
lists that the calls make of a lineage are lineages again (`Lineage.register`, `Lineage.map`,
`Lineage.filter`), and `WellFormed` is what follows for the store as a whole.

Versions are numbers of 32 bits, so the lineages need that no name has used them up.
`last_eq_registrations` ties the last version of a name to the number of its registrations, which
turns that condition into one about the history.
-/

namespace ModelRegistry
namespace Store

/-! ## Changing one version -/

/-- Where no number is there twice, the first record of a version is all records of it. -/
theorem change_eq_map {version : UInt32} {f : ModelRecord → ModelRecord} {ms : List ModelRecord}
    (hnodup : (ms.map (·.version)).Nodup) :
    change version f ms = ms.map fun m => if m.version = version then f m else m := by
  induction ms with
  | nil => rfl
  | cons m ms ih =>
    obtain ⟨hm, hms⟩ := List.nodup_cons.1 hnodup
    rw [change, List.map_cons]
    split
    · next hversion =>
      have hothers : ∀ other ∈ ms, (if other.version = version then f other else other) = other :=
        fun other hother => if_neg fun hsame =>
          hm (List.mem_map.2 ⟨other, hother, hsame.trans hversion.symm⟩)
      rw [List.map_congr_left hothers, List.map_id']
    · rw [ih hms]

/-- Then it does not matter from which end the record is sought. -/
theorem reverse_change_reverse {version : UInt32} {f : ModelRecord → ModelRecord}
    {ms : List ModelRecord} (hnodup : (ms.map (·.version)).Nodup) :
    (change version f ms.reverse).reverse =
      ms.map fun m => if m.version = version then f m else m := by
  rw [change_eq_map (by rwa [List.map_reverse, List.nodup_reverse]), List.map_reverse,
    List.reverse_reverse]

/-! ## The versions of one name -/

/-- The versions under a name, the latest first, when `last` is the last version handed out. -/
structure Lineage (name : String) (last : UInt32) (ms : List ModelRecord) : Prop where
  decreasing : ms.Pairwise fun a b => b.version < a.version
  oneActive : ms.Pairwise fun a b => ¬ (a.active = true ∧ b.active = true)
  bounds : ∀ m ∈ ms, 1 ≤ m.version ∧ m.version ≤ last
  filed : ∀ m ∈ ms, m.name = name
  named : ∀ m ∈ ms, m.name ≠ "" ∧ m.path ≠ ""

namespace Lineage

variable {name : String} {last : UInt32} {ms : List ModelRecord}

theorem nil : Lineage name last [] := ⟨.nil, .nil, by simp, by simp, by simp⟩

/-- Records may change in everything but name, path and version, as long as one is active. -/
theorem map (h : Lineage name last ms) (f : ModelRecord → ModelRecord)
    (hversion : ∀ m, (f m).version = m.version) (hname : ∀ m, (f m).name = m.name)
    (hpath : ∀ m, (f m).path = m.path)
    (hactive : ms.Pairwise fun a b => ¬ ((f a).active = true ∧ (f b).active = true)) :
    Lineage name last (ms.map f) where
  decreasing := by
    rw [List.pairwise_map]
    simpa only [hversion] using h.decreasing
  oneActive := by rwa [List.pairwise_map]
  bounds := by
    intro m hm
    obtain ⟨m, hmem, rfl⟩ := List.mem_map.1 hm
    rw [hversion]
    exact h.bounds m hmem
  filed := by
    intro m hm
    obtain ⟨m, hmem, rfl⟩ := List.mem_map.1 hm
    rw [hname]
    exact h.filed m hmem
  named := by
    intro m hm
    obtain ⟨m, hmem, rfl⟩ := List.mem_map.1 hm
    rw [hname, hpath]
    exact h.named m hmem

theorem filter (h : Lineage name last ms) (keeps : ModelRecord → Bool) :
    Lineage name last (ms.filter keeps) where
  decreasing := h.decreasing.filter keeps
  oneActive := h.oneActive.filter keeps
  bounds m hm := h.bounds m (List.mem_filter.1 hm).1
  filed m hm := h.filed m (List.mem_filter.1 hm).1
  named m hm := h.named m (List.mem_filter.1 hm).1

theorem nodup_versions (h : Lineage name last ms) : (ms.map (·.version)).Nodup := by
  rw [List.Nodup, List.pairwise_map]
  exact h.decreasing.imp fun hlt => (UInt32.ne_of_lt hlt).symm

/-- Two records of one version are the same record. -/
theorem eq_of_version_eq (h : Lineage name last ms) {a b : ModelRecord} (ha : a ∈ ms)
    (hb : b ∈ ms) (heq : a.version = b.version) : a = b :=
  List.inj_on_of_nodup_map h.nodup_versions ha hb heq

/-- The number after the last one is not there, even when the numbers begin again with it. -/
theorem version_ne_next (h : Lineage name last ms) {m : ModelRecord} (hm : m ∈ ms) :
    m.version ≠ last + 1 := by
  intro hnext
  obtain ⟨hlow, hhigh⟩ := h.bounds m hm
  rw [hnext, UInt32.le_iff_toNat_le, UInt32.toNat_add] at hlow hhigh
  have hone : (1 : UInt32).toNat = 1 := rfl
  have hlast := last.toNat_lt
  omega

theorem change (h : Lineage name last ms) (version : UInt32) (description : String) :
    Lineage name last
      (Store.change version (fun m => { m with description }) ms.reverse).reverse := by
  rw [reverse_change_reverse h.nodup_versions]
  refine h.map _ ?_ ?_ ?_ ?_
  · intro m; split <;> rfl
  · intro m; split <;> rfl
  · intro m; split <;> rfl
  · refine h.oneActive.imp ?_
    intro a b hab
    split <;> split <;> exact hab

theorem activate (h : Lineage name last ms) (version : UInt32) :
    Lineage name last (ms.map fun m => { m with active := m.version = version }) := by
  refine h.map _ (fun _ => rfl) (fun _ => rfl) (fun _ => rfl) ?_
  refine h.decreasing.imp ?_
  rintro a b hlt ⟨ha, hb⟩
  -- Both would have the same version.
  have heq : b.version = a.version := (of_decide_eq_true hb).trans (of_decide_eq_true ha).symm
  exact UInt32.ne_of_lt hlt heq

theorem besides (h : Lineage name last ms) (active : Bool) :
    Lineage name last (Store.besides active ms) := by
  unfold Store.besides
  split
  · refine h.map _ (fun _ => rfl) (fun _ => rfl) (fun _ => rfl) ?_
    exact h.oneActive.imp fun _ => by simp
  · exact h

/-- When the new version is active, the others are not. -/
theorem not_active_of_mem_besides {active : Bool} {m : ModelRecord}
    (hm : m ∈ Store.besides active ms) : ¬ (active = true ∧ m.active = true) := by
  rintro ⟨rfl, hactive⟩
  simp only [Store.besides, deactivate, if_true] at hm
  obtain ⟨m, -, rfl⟩ := List.mem_map.1 hm
  cases hactive

theorem register (h : Lineage name last ms) (hlt : last < last + 1) {path : String}
    (active : Bool) (description appInfo : String) (hname : name ≠ "") (hpath : path ≠ "") :
    Lineage name (last + 1)
      (⟨name, path, last + 1, active, description, appInfo⟩ :: Store.besides active ms) := by
  have hrest := h.besides active
  have hone : 1 ≤ last + 1 := by
    rw [UInt32.le_iff_toNat_le]
    rw [UInt32.lt_iff_toNat_lt] at hlt
    simp only [UInt32.toNat_ofNat]
    omega
  refine ⟨?_, ?_, ?_, ?_, ?_⟩
  · refine List.pairwise_cons.2 ⟨?_, hrest.decreasing⟩
    intro m hm
    exact UInt32.lt_of_le_of_lt (hrest.bounds m hm).2 hlt
  · exact List.pairwise_cons.2 ⟨fun m hm => not_active_of_mem_besides hm, hrest.oneActive⟩
  · intro m hm
    rcases List.mem_cons.1 hm with rfl | hm
    · exact ⟨hone, UInt32.le_refl _⟩
    · obtain ⟨hlow, hhigh⟩ := hrest.bounds m hm
      exact ⟨hlow, UInt32.le_trans hhigh (UInt32.le_of_lt hlt)⟩
  · intro m hm
    rcases List.mem_cons.1 hm with rfl | hm
    · rfl
    · exact hrest.filed m hm
  · intro m hm
    rcases List.mem_cons.1 hm with rfl | hm
    · exact ⟨hname, hpath⟩
    · exact hrest.named m hm

end Lineage

/-! ## The store as a whole -/

/-- What holds of every reachable store. -/
structure WellFormed (s : Store) : Prop where
  modelNames : s.models.names.Nodup
  versionNames : s.lastVersion.names.Nodup
  pipelineNames : s.pipelines.names.Nodup
  /-- A name without versions is absent. -/
  inhabited : ∀ name ms, s.models.find? name = some ms → ms ≠ []
  lineage : ∀ name, Lineage name (s.last name) (s.newestFirst name)
  pipelines : ∀ name p, s.pipelines.find? name = some p →
    p.name = name ∧ p.name ≠ "" ∧ p.description ≠ ""
  resources : ∀ r ∈ s.resources, r.name ≠ "" ∧ r.path ≠ ""

theorem find?_models_keep (s : Store) (name other : String) (ms : List ModelRecord) :
    (s.keep name ms).models.find? other =
      if name = other then (if ms = [] then none else some ms) else s.models.find? other := by
  by_cases hms : ms = [] <;> by_cases h : name = other <;> simp [keep, hms, h]

namespace WellFormed

variable {s : Store}

theorem empty : WellFormed .empty where
  modelNames := .nil
  versionNames := .nil
  pipelineNames := .nil
  inhabited name ms h := by simp [Store.empty] at h
  lineage name := .nil
  pipelines name p h := by simp [Store.empty] at h
  resources r hr := by simp [Store.empty] at hr

/-- The versions of one name may be replaced by another lineage. -/
theorem keep (h : WellFormed s) {name : String} {ms : List ModelRecord}
    (hms : Lineage name (s.last name) ms) : WellFormed (s.keep name ms) where
  modelNames := by
    unfold Store.keep
    split
    · exact Table.nodup_names_erase h.modelNames
    · exact Table.nodup_names_set h.modelNames
  versionNames := h.versionNames
  pipelineNames := h.pipelineNames
  inhabited := by
    intro other found hfound
    rw [find?_models_keep] at hfound
    split at hfound
    · split at hfound
      · cases hfound
      · next hne => cases hfound; exact hne
    · exact h.inhabited other found hfound
  lineage := by
    intro other
    rw [newestFirst_keep, last_keep]
    split
    · next heq => exact heq ▸ hms
    · exact h.lineage other
  pipelines := h.pipelines
  resources := h.resources

/-- A new version in front of the others, with a number that has not been handed out. -/
theorem register (h : WellFormed s) {name path : String} (hroom : s.last name < s.next name)
    (active : Bool) (description appInfo : String) (hname : name ≠ "") (hpath : path ≠ "") :
    WellFormed ((s.handOut name (s.next name)).keep name
      (⟨name, path, s.next name, active, description, appInfo⟩ ::
        besides active (s.newestFirst name))) where
  modelNames := by
    rw [keep_of_ne_nil (List.cons_ne_nil _ _)]
    exact Table.nodup_names_set h.modelNames
  versionNames := Table.nodup_names_set h.versionNames
  pipelineNames := h.pipelineNames
  inhabited := by
    intro other found hfound
    rw [find?_models_keep, if_neg (List.cons_ne_nil _ _)] at hfound
    split at hfound
    · cases hfound
      exact List.cons_ne_nil _ _
    · exact h.inhabited other found hfound
  lineage := by
    intro other
    rw [newestFirst_keep, last_keep, last_handOut]
    split
    · next heq =>
      subst heq
      exact (h.lineage name).register hroom active description appInfo hname hpath
    · exact h.lineage other
  pipelines := h.pipelines
  resources := h.resources

theorem setPipeline (h : WellFormed s) {name description : String} (hname : name ≠ "")
    (hdescription : description ≠ "") :
    WellFormed { s with pipelines := s.pipelines.set name { name, description } } where
  modelNames := h.modelNames
  versionNames := h.versionNames
  pipelineNames := Table.nodup_names_set h.pipelineNames
  inhabited := h.inhabited
  lineage := h.lineage
  pipelines := by
    intro other p hp
    rw [Table.find?_set] at hp
    split at hp
    · next heq =>
      cases hp
      exact ⟨heq, hname, hdescription⟩
    · exact h.pipelines other p hp
  resources := h.resources

theorem addResource (h : WellFormed s) {name path : String} (description appInfo : String)
    (hname : name ≠ "") (hpath : path ≠ "") :
    WellFormed { s with resources := { name, path, description, appInfo } :: s.resources } where
  modelNames := h.modelNames
  versionNames := h.versionNames
  pipelineNames := h.pipelineNames
  inhabited := h.inhabited
  lineage := h.lineage
  pipelines := h.pipelines
  resources := by
    intro r hr
    rcases List.mem_cons.1 hr with rfl | hr
    · exact ⟨hname, hpath⟩
    · exact h.resources r hr

/-- A step keeps a store well formed, as long as a registration finds a number left. -/
theorem step {s' : Store} {e : Exchange} (h : WellFormed s) (hstep : Step s e s')
    (hroom : ∀ name, (e.registered? name).isSome → s.last name < s.next name) :
    WellFormed s' := by
  cases hstep with
  | refused => exact h
  | got => exact h
  | gotActive => exact h
  | gotAll => exact h
  | registered hname hpath =>
    exact h.register (hroom _ (by simp [Exchange.registered?])) _ _ _ hname hpath
  | described => exact h.keep ((h.lineage _).change _ _)
  | activated => exact h.keep ((h.lineage _).activate _)
  | deleted => exact h.keep ((h.lineage _).filter _)
  | pipelineSet hname hdescription => exact h.setPipeline hname hdescription
  | resourceAdded hname hpath => exact h.addResource _ _ hname hpath

end WellFormed

/-! ## Numbers handed out -/

/-- A registration is answered with the number after the last one. -/
theorem Step.registered?_eq {s s' : Store} {e : Exchange} (hstep : Step s e s') {name : String}
    {version : UInt32} (h : e.registered? name = some version) : version = s.next name := by
  cases hstep with
  | registered =>
    simp only [Exchange.registered?, Option.ite_none_right_eq_some, Option.some.injEq] at h
    obtain ⟨rfl, rfl⟩ := h
    rfl
  | _ => simp [Exchange.registered?] at h

/-- The last number of a name counts its registrations. -/
theorem Step.last_eq {s s' : Store} {e : Exchange} (hstep : Step s e s') (name : String) :
    s'.last name = if (e.registered? name).isSome then s.next name else s.last name := by
  cases hstep with
  | @registered other =>
    by_cases heq : other = name
    · subst heq; simp [Exchange.registered?]
    · simp [Exchange.registered?, heq]
  | _ => simp [Exchange.registered?, last]

/-- As long as no name has used up its numbers, the last one counts the registrations. -/
theorem last_eq_registrations {h : History} {s : Store} (hreach : Reaches h s) {name : String}
    (hcount : h.registrations name < UInt32.size) : (s.last name).toNat = h.registrations name := by
  induction hreach with
  | start => rfl
  | @step h s s' e _ hstep ih =>
    have hle := History.registrations_le_append h [e] name
    have hlast := ih (Nat.lt_of_le_of_lt hle hcount)
    rw [History.registrations_concat] at hcount ⊢
    rw [hstep.last_eq]
    split at hcount
    · next hreg =>
      rw [if_pos hreg, if_pos hreg, next, UInt32.toNat_add, hlast]
      exact Nat.mod_eq_of_lt hcount
    · next hreg =>
      rw [if_neg hreg, if_neg hreg, hlast, Nat.add_zero]

/-- There is a number left for a registration that the history has room for. -/
theorem last_lt_next {h : History} {s : Store} (hreach : Reaches h s) {e : Exchange}
    {name : String} (hcount : History.registrations (h ++ [e]) name < UInt32.size)
    (hreg : (e.registered? name).isSome) : s.last name < s.next name := by
  rw [History.registrations_concat, if_pos hreg] at hcount
  have hlast := last_eq_registrations hreach (Nat.lt_of_succ_lt hcount)
  rw [UInt32.lt_iff_toNat_lt, next, UInt32.toNat_add, hlast]
  rw [Nat.mod_eq_of_lt (by simpa using hcount)]
  exact Nat.lt_succ_self _

/-- Every store that is reached without using up the numbers of a name is well formed. -/
theorem wellFormed_of_reaches {h : History} {s : Store} (hreach : Reaches h s)
    (hcount : ∀ name, h.registrations name < UInt32.size) : WellFormed s := by
  induction hreach with
  | start => exact .empty
  | @step h s s' e hbefore hstep ih =>
    have hle (name : String) := History.registrations_le_append h [e] name
    refine (ih fun name => Nat.lt_of_le_of_lt (hle name) (hcount name)).step hstep ?_
    intro name hreg
    exact last_lt_next hbefore (hcount name) hreg

/-! ## In the order of registration -/

/-- Of values of which no two satisfy a predicate, at most one does. -/
theorem length_filter_le_one {α : Type} {p : α → Bool} {xs : List α}
    (h : xs.Pairwise fun a b => ¬ (p a = true ∧ p b = true)) : (xs.filter p).length ≤ 1 := by
  induction xs with
  | nil => simp
  | cons x xs ih =>
    obtain ⟨hx, hxs⟩ := List.pairwise_cons.1 h
    by_cases hp : p x = true
    · have hnone : xs.filter p = [] := List.filter_eq_nil_iff.2 fun y hy hpy => hx y hy ⟨hp, hpy⟩
      simp [hp, hnone]
    · simpa [hp] using ih hxs

/-- **Whatever has been called, a store is in order.**  At most one version of a name is active; a
name with an entry has a version; versions count upwards from one to at most the last number handed
out; every record carries the name that it is kept under; and nothing is kept without the name,
path or description that its registration requires. -/
theorem store_in_order_after_run (cs : List Call)
    (hcount : ∀ name, (run cs).1.registrations name < UInt32.size) :
    let s := (run cs).2
    (s.models.names.Nodup ∧ s.lastVersion.names.Nodup ∧ s.pipelines.names.Nodup) ∧
    (∀ name, ((s.versions name).filter (·.active)).length ≤ 1) ∧
    (∀ name ms, s.models.find? name = some ms → ms ≠ []) ∧
    (∀ name, (s.versions name).Pairwise fun a b => a.version < b.version) ∧
    (∀ name, ∀ m ∈ s.versions name, 1 ≤ m.version ∧
      ∃ last, s.lastVersion.find? name = some last ∧ m.version ≤ last) ∧
    (∀ name, ∀ m ∈ s.versions name, m.name = name ∧ m.name ≠ "" ∧ m.path ≠ "") ∧
    (∀ name p, s.pipelines.find? name = some p →
      p.name = name ∧ p.name ≠ "" ∧ p.description ≠ "") ∧
    (∀ r ∈ s.resources, r.name ≠ "" ∧ r.path ≠ "") := by
  intro s
  have hwf : WellFormed s := wellFormed_of_reaches (reaches_run cs) hcount
  refine ⟨⟨hwf.modelNames, hwf.versionNames, hwf.pipelineNames⟩, ?_, hwf.inhabited, ?_, ?_, ?_,
    hwf.pipelines, hwf.resources⟩
  · intro name
    rw [versions, List.filter_reverse, List.length_reverse]
    exact length_filter_le_one (hwf.lineage name).oneActive
  · intro name
    rw [versions, List.pairwise_reverse]
    exact (hwf.lineage name).decreasing
  · intro name m hm
    obtain ⟨hlow, hhigh⟩ := (hwf.lineage name).bounds m (List.mem_reverse.1 hm)
    refine ⟨hlow, ?_⟩
    cases hlast : s.lastVersion.find? name with
    | some n => exact ⟨n, rfl, by simpa [last, hlast] using hhigh⟩
    | none =>
      -- The last number would be zero, and versions begin at one.
      exfalso
      have hzero : s.last name = 0 := by simp [last, hlast]
      rw [hzero] at hhigh
      have := UInt32.le_iff_toNat_le.1 (UInt32.le_trans hlow hhigh)
      simp at this
  · intro name m hm
    have hmem := List.mem_reverse.1 hm
    exact ⟨(hwf.lineage name).filed m hmem, (hwf.lineage name).named m hmem⟩

/-- An active version is deleted by force, its number is not used again, and another version is made
active afterwards. -/
theorem store_in_order_after_forced_deletion :
    let cs : List Call :=
      [.register "m" "/a" true "" "", .register "m" "/b" true "" "", .delete "m" 2 true,
        .register "m" "/c" false "" "", .activate "m" 1, .setPipeline "p" "src ! sink"]
    (∀ name, (run cs).1.registrations name < UInt32.size) ∧
      (((run cs).2.versions "m").filter (·.active)).length ≤ 1 ∧
      ((run cs).2.versions "m").map (·.version) = [1, 3] := by
  intro cs
  have hcount (name : String) : (run cs).1.registrations name < UInt32.size :=
    Nat.lt_of_le_of_lt (registrations_run_le cs name) (by decide)
  exact ⟨hcount, (store_in_order_after_run cs hcount).2.1 "m", by decide⟩

end Store
end ModelRegistry
