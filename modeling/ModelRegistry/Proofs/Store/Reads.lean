import Mathlib.Data.List.Pairwise
import ModelRegistry.Proofs.Store.Invariant

/-!
# Lookups show the history

`History.Yields h name m` says, in terms of the history alone, that `m` is the record of a live
version of `name`: some registration returned its version, no later deletion of that version
succeeded, the description is the latest one given and the record is active exactly when the latest
activation of the name was for its version.  `Agrees` says that a store holds exactly these records,
the latest pipelines and the resources in order, and it is kept by every step.

The induction goes through one equation, `Step.newestFirst_eq`: the versions after a step are those
before it, without the deleted one and revised by the exchange, behind the one that it registered.
The same three parts describe what an exchange adds to the records that a history yields
(`yields_concat_iff`).
-/

namespace ModelRegistry

namespace Exchange

/-- The record that was registered under a name. -/
def recorded? (name : String) : Exchange → Option ModelRecord
  | ⟨.register n path active description appInfo, .ok version⟩ =>
    if n = name then some ⟨name, path, version, active, description, appInfo⟩ else none
  | _ => none

/-- What becomes of an older record under a name. -/
def revise (name : String) (e : Exchange) (m : ModelRecord) : ModelRecord :=
  { m with
    description := (e.described? name m.version).getD m.description
    active := (e.activated? name).elim m.active fun version => decide (version = m.version) }

/-- An exchange that neither describes nor activates leaves records as they are. -/
theorem revise_eq_self {name : String} {e : Exchange} (m : ModelRecord)
    (hdescribed : e.described? name m.version = none) (hactivated : e.activated? name = none) :
    e.revise name m = m := by
  simp [revise, hdescribed, hactivated]

/-- A record is the revision of one that differs in description and activity alone. -/
theorem revise_eq_of {name : String} {e : Exchange} {m : ModelRecord} {description : String}
    {active : Bool} (hdescription : (e.described? name m.version).getD description = m.description)
    (hactive : (e.activated? name).elim active (fun version => decide (version = m.version)) =
      m.active) : e.revise name { m with description, active } = m := by
  simp only [revise, hdescription, hactive]

end Exchange

namespace Store

/-- The records of a name after an exchange. -/
def revised (e : Exchange) (name : String) (ms : List ModelRecord) : List ModelRecord :=
  (e.recorded? name).toList ++
    (ms.filter fun m => e.deleted? name ≠ some m.version).map (e.revise name)

/-- An exchange that says nothing about the models of a name leaves them as they are. -/
theorem revised_eq_self {e : Exchange} {name : String} (ms : List ModelRecord)
    (hrecorded : e.recorded? name = none) (hdeleted : e.deleted? name = none)
    (hdescribed : ∀ version, e.described? name version = none)
    (hactivated : e.activated? name = none) : revised e name ms = ms := by
  have hrevise (m : ModelRecord) : e.revise name m = m :=
    Exchange.revise_eq_self m (hdescribed _) hactivated
  simp [revised, hrecorded, hdeleted, List.map_id'' hrevise]

/-- Nor does an exchange under another name change anything. -/
theorem revised_eq_self_of_ne {e : Exchange} {name : String} {ms : List ModelRecord}
    (h : e.call.name ≠ name) : revised e name ms = ms := by
  obtain ⟨c, answer⟩ := e
  apply revised_eq_self <;>
    cases c <;> cases answer <;>
    simp_all [Call.name, Exchange.recorded?, Exchange.deleted?, Exchange.described?,
      Exchange.activated?]

theorem besides_eq_map_revise (name path : String) (active : Bool) (description appInfo : String)
    {version : UInt32} {ms : List ModelRecord} (hfresh : ∀ m ∈ ms, m.version ≠ version) :
    besides active ms =
      ms.map (Exchange.revise name
        ⟨.register name path active description appInfo, .ok version⟩) := by
  cases active with
  | false =>
    have hsame (m : ModelRecord) : Exchange.revise name
        ⟨.register name path false description appInfo, .ok version⟩ m = m :=
      Exchange.revise_eq_self m rfl (by simp [Exchange.activated?])
    exact (List.map_id'' hsame ms).symm
  | true =>
    rw [besides, if_pos rfl, deactivate, List.map_inj_left]
    intro m hm
    have hne : ¬ version = m.version := fun heq => hfresh m hm heq.symm
    simp [Exchange.revise, Exchange.described?, Exchange.activated?, hne]

theorem change_eq_map_revise (name description : String) (version : UInt32)
    {ms : List ModelRecord} (hnodup : (ms.map (·.version)).Nodup) :
    (change version (fun m => { m with description }) ms.reverse).reverse =
      ms.map (Exchange.revise name ⟨.describe name version description, .ok ()⟩) := by
  rw [reverse_change_reverse hnodup, List.map_inj_left]
  intro m _
  by_cases hv : m.version = version
  · simp [Exchange.revise, Exchange.described?, Exchange.activated?, hv]
  · have hne : ¬ version = m.version := fun heq => hv heq.symm
    simp [Exchange.revise, Exchange.described?, Exchange.activated?, hv, hne]

/-- The versions of a name after a step. -/
theorem Step.newestFirst_eq {s s' : Store} {e : Exchange} (hstep : Step s e s') (name : String)
    (hnodup : ((s.newestFirst name).map (·.version)).Nodup)
    (hfresh : (e.registered? name).isSome → ∀ m ∈ s.newestFirst name, m.version ≠ s.next name) :
    s'.newestFirst name = revised e name (s.newestFirst name) := by
  cases hstep with
  | @registered other path active description appInfo =>
    rw [newestFirst_keep]
    by_cases heq : other = name
    · subst heq
      have hnew := hfresh (by simp [Exchange.registered?])
      rw [if_pos rfl, besides_eq_map_revise other path active description appInfo hnew]
      simp [revised, Exchange.recorded?, Exchange.deleted?]
    · rw [if_neg heq, newestFirst_handOut]
      symm
      exact revised_eq_self_of_ne heq
  | @described other version description =>
    rw [newestFirst_keep]
    by_cases heq : other = name
    · subst heq
      rw [if_pos rfl, versions, change_eq_map_revise other description version hnodup]
      simp [revised, Exchange.recorded?, Exchange.deleted?]
    · rw [if_neg heq]
      symm
      exact revised_eq_self_of_ne heq
  | @activated other version =>
    rw [newestFirst_keep]
    by_cases heq : other = name
    · subst heq
      simp [revised, Exchange.recorded?, Exchange.deleted?, Exchange.revise, Exchange.described?,
        Exchange.activated?, eq_comm]
    · rw [if_neg heq]
      symm
      exact revised_eq_self_of_ne heq
  | @deleted other version =>
    rw [newestFirst_keep]
    by_cases heq : other = name
    · subst heq
      have hrevise (m : ModelRecord) :
          Exchange.revise other ⟨.delete other version ‹Bool›, .ok ()⟩ m = m :=
        Exchange.revise_eq_self m rfl rfl
      simp [revised, Exchange.recorded?, Exchange.deleted?, List.map_id'' hrevise, eq_comm]
    · rw [if_neg heq]
      symm
      exact revised_eq_self_of_ne heq
  | @refused c => cases c <;> exact (revised_eq_self _ rfl rfl (fun _ => rfl) rfl).symm
  | _ => exact (revised_eq_self _ rfl rfl (fun _ => rfl) rfl).symm

end Store

/-! ## The records that a history yields -/

namespace Exchange

theorem registered?_eq_some_iff {e : Exchange} {name : String} {version : UInt32} :
    e.registered? name = some version ↔ ∃ path active description appInfo,
      e = ⟨.register name path active description appInfo, .ok version⟩ := by
  constructor
  · intro h
    unfold registered? at h
    split at h
    · obtain ⟨rfl, hversion⟩ := Option.ite_none_right_eq_some.1 h
      obtain rfl := Option.some.inj hversion
      exact ⟨_, _, _, _, rfl⟩
    · cases h
  · rintro ⟨path, active, description, appInfo, rfl⟩
    simp [registered?]

theorem recorded?_eq_some_iff {e : Exchange} {name : String} {m : ModelRecord} :
    e.recorded? name = some m ↔ m.name = name ∧
      e = ⟨.register name m.path m.active m.description m.appInfo, .ok m.version⟩ := by
  constructor
  · intro h
    unfold recorded? at h
    split at h
    · obtain ⟨rfl, rfl⟩ := by simpa using h
      exact ⟨rfl, rfl⟩
    · cases h
  · rintro ⟨rfl, rfl⟩
    simp [recorded?]

end Exchange

namespace History

/-- What a history says about a live version of a model. -/
def Yields (h : History) (name : String) (m : ModelRecord) : Prop :=
  ∃ before active description after,
    h = before ++ ⟨.register name m.path active description m.appInfo, .ok m.version⟩ :: after ∧
    (∀ e ∈ after, e.deleted? name ≠ some m.version) ∧
    m.name = name ∧
    m.description = (h.lastDescription? name m.version).getD description ∧
    (m.active = true ↔ h.lastActivated? name = some m.version)

theorem not_yields_nil (name : String) (m : ModelRecord) : ¬ Yields [] name m := by
  rintro ⟨before, active, description, after, heq, -⟩
  simp at heq

/-- A version is live exactly if the history yields a record of it. -/
theorem live_iff_yields (h : History) (name : String) (version : UInt32) :
    h.Live name version ↔ ∃ m, h.Yields name m ∧ m.version = version := by
  constructor
  · rintro ⟨before, e, after, heq, hreg, hdel⟩
    obtain ⟨path, active, description, appInfo, rfl⟩ := Exchange.registered?_eq_some_iff.1 hreg
    refine ⟨⟨name, path, version, decide (h.lastActivated? name = some version),
      (h.lastDescription? name version).getD description, appInfo⟩, ?_, rfl⟩
    exact ⟨before, active, description, after, heq, hdel, rfl, rfl, by simp⟩
  · rintro ⟨m, ⟨before, active, description, after, heq, hdel, -⟩, rfl⟩
    exact ⟨before, _, after, heq, Exchange.registered?_eq_some_iff.2 ⟨_, _, _, _, rfl⟩, hdel⟩

/-- The record of a version that the last exchange registered. -/
theorem yields_concat_of_recorded {h : History} {e : Exchange} {name : String} {m : ModelRecord}
    (hfresh : h.lastDescription? name m.version = none ∧ h.lastActivated? name ≠ some m.version)
    (hm : e.recorded? name = some m) : Yields (h ++ [e]) name m := by
  obtain ⟨hname, rfl⟩ := Exchange.recorded?_eq_some_iff.1 hm
  refine ⟨h, m.active, m.description, [], rfl, by simp, hname, ?_, ?_⟩
  · rw [lastDescription?_concat, hfresh.1]
    rfl
  · rw [lastActivated?_concat]
    cases hactive : m.active <;> simp [Exchange.activated?, hfresh.2]

/-- An older record that the last exchange did not delete, revised by it. -/
theorem yields_concat_of_yields {h : History} {e : Exchange} {name : String} {m : ModelRecord}
    (hm : Yields h name m) (hdel : e.deleted? name ≠ some m.version) :
    Yields (h ++ [e]) name (e.revise name m) := by
  obtain ⟨before, active, description, after, heq, hafter, hname, hdescription, hactive⟩ := hm
  refine ⟨before, active, description, after ++ [e], ?_, ?_, hname, ?_, ?_⟩
  · rw [heq]
    simp [Exchange.revise]
  · intro d hd
    rcases List.mem_append.1 hd with hd | hd
    · exact hafter d hd
    · rw [List.mem_singleton.1 hd]
      exact hdel
  · rw [lastDescription?_concat]
    cases hd : e.described? name m.version <;> simp [Exchange.revise, hd, hdescription]
  · rw [lastActivated?_concat]
    cases ha : e.activated? name <;> simp [Exchange.revise, ha, hactive]

/-- The records after one more exchange, if a version that it registered was not heard of before. -/
theorem yields_concat_iff {h : History} {e : Exchange} {name : String} {m : ModelRecord}
    (hfresh : ∀ version, e.registered? name = some version →
      h.lastDescription? name version = none ∧ h.lastActivated? name ≠ some version) :
    Yields (h ++ [e]) name m ↔ e.recorded? name = some m ∨
      ∃ older, Yields h name older ∧ e.deleted? name ≠ some older.version ∧
        e.revise name older = m := by
  constructor
  · rintro ⟨before, active, description, after, heq, hafter, hname, hdescription, hactive⟩
    rcases List.eq_nil_or_concat after with rfl | ⟨after, last, rfl⟩
    · -- The registration itself came last.
      obtain ⟨rfl, he⟩ := List.append_inj' heq rfl
      obtain rfl : e = _ := by simpa using he
      left
      obtain ⟨hdesc, hact⟩ :=
        hfresh m.version (Exchange.registered?_eq_some_iff.2 ⟨_, _, _, _, rfl⟩)
      rw [lastDescription?_concat, hdesc] at hdescription
      rw [lastActivated?_concat] at hactive
      refine Exchange.recorded?_eq_some_iff.2 ⟨hname, ?_⟩
      obtain rfl : m.description = description := hdescription
      cases active <;> cases hm : m.active <;> simp [Exchange.activated?, hm, hact] at hactive ⊢
    · right
      rw [List.concat_eq_append, ← List.cons_append, ← List.append_assoc] at heq
      obtain ⟨hh, he⟩ := List.append_inj' heq rfl
      obtain rfl : e = last := by simpa using he
      refine ⟨{ m with
        description := (h.lastDescription? name m.version).getD description
        active := decide (h.lastActivated? name = some m.version) }, ?_, ?_, ?_⟩
      · refine ⟨before, active, description, after, hh, ?_, hname, rfl, by simp⟩
        intro d hd
        exact hafter d (by simp [hd])
      · exact hafter e (by simp)
      · rw [lastDescription?_concat, Option.getD_or] at hdescription
        rw [lastActivated?_concat] at hactive
        apply Exchange.revise_eq_of hdescription.symm
        rw [Bool.eq_iff_iff, hactive]
        cases ha : e.activated? name <;> simp
  · rintro (hm | ⟨older, hm, hdel, rfl⟩)
    · obtain ⟨-, he⟩ := Exchange.recorded?_eq_some_iff.1 hm
      refine yields_concat_of_recorded (hfresh m.version ?_) hm
      exact Exchange.registered?_eq_some_iff.2 ⟨_, _, _, _, he⟩
    · exact yields_concat_of_yields hm hdel

end History

namespace Store

/-! ## What a step adds -/

theorem Step.pipeline?_eq {s s' : Store} {e : Exchange} (hstep : Step s e s') (name : String) :
    s'.pipeline? name = (e.pipeline? name).or (s.pipeline? name) := by
  cases hstep with
  | @pipelineSet other description =>
    by_cases heq : other = name
    · subst heq; simp [pipeline?, Exchange.pipeline?]
    · simp [pipeline?, Exchange.pipeline?, heq]
  | @refused c => cases c <;> rfl
  | _ => rfl

theorem Step.resourcesOf_eq {s s' : Store} {e : Exchange} (hstep : Step s e s') (name : String) :
    s'.resourcesOf name = s.resourcesOf name ++ (e.resource? name).toList := by
  cases hstep with
  | @resourceAdded other path description appInfo =>
    by_cases heq : other = name
    · subst heq; simp [resourcesOf, Exchange.resource?]
    · simp [resourcesOf, Exchange.resource?, heq]
  | @refused c => cases c <;> simp [Exchange.resource?]
  | _ => simp [resourcesOf, Exchange.resource?]

/-- Only versions that are there are described. -/
theorem Step.exists_of_described? {s s' : Store} {e : Exchange} (hstep : Step s e s')
    {name : String} {version : UInt32} (h : (e.described? name version).isSome) :
    ∃ m ∈ s.newestFirst name, m.version = version := by
  cases hstep with
  | @described other v description m hname hm =>
    by_cases heq : other = name ∧ v = version
    · obtain ⟨rfl, rfl⟩ := heq
      exact ⟨m, version?_eq_some hm⟩
    · simp [Exchange.described?, heq] at h
  | @refused c => cases c <;> cases h
  | _ => cases h

/-- Only versions that are there, or that are registered at that moment, become active. -/
theorem Step.exists_of_activated? {s s' : Store} {e : Exchange} (hstep : Step s e s')
    {name : String} {version : UInt32} (h : e.activated? name = some version) :
    (∃ m ∈ s.newestFirst name, m.version = version) ∨ e.registered? name = some version := by
  cases hstep with
  | @registered other path active =>
    right
    obtain ⟨⟨rfl, -⟩, hversion⟩ := Option.ite_none_right_eq_some.1 h
    simpa [Exchange.registered?] using hversion
  | @activated other v m hname hm =>
    left
    obtain ⟨rfl, hversion⟩ := Option.ite_none_right_eq_some.1 h
    obtain rfl := Option.some.inj hversion
    exact ⟨m, version?_eq_some hm⟩
  | @refused c => cases c <;> cases h
  | _ => cases h

/-! ## Agreement of store and history -/

/-- A store holds what its history says. -/
structure Agrees (h : History) (s : Store) : Prop where
  records : ∀ name m, m ∈ s.newestFirst name ↔ h.Yields name m
  /-- No number has been heard of that has not been handed out. -/
  heardOf : ∀ name version,
    (h.lastDescription? name version).isSome ∨ h.lastActivated? name = some version →
      version ≤ s.last name
  pipelines : ∀ name, s.pipeline? name = h.lastPipeline? name
  resources : ∀ name, s.resourcesOf name = h.resourcesOf name

namespace Agrees

theorem start : Agrees [] .empty where
  records name m := by
    constructor
    · intro hm
      cases hm
    · intro hm
      exact (History.not_yields_nil name m hm).elim
  heardOf name version h := by simp [History.lastDescription?, History.lastActivated?] at h
  pipelines name := rfl
  resources name := rfl

variable {h : History} {s s' : Store} {e : Exchange}

/-- Numbers that have been heard of stay below those handed out. -/
theorem heardOf_step (ha : Agrees h s) (hwf : WellFormed s) (hstep : Step s e s') {name : String}
    (hroom : (e.registered? name).isSome → s.last name < s.next name) {version : UInt32}
    (hv : (History.lastDescription? (h ++ [e]) name version).isSome ∨
      History.lastActivated? (h ++ [e]) name = some version) : version ≤ s'.last name := by
  have hmono : s.last name ≤ s'.last name := by
    rw [hstep.last_eq]
    split
    · next hreg => exact UInt32.le_of_lt (hroom hreg)
    · exact UInt32.le_refl _
  have hthere (hmem : ∃ m ∈ s.newestFirst name, m.version = version) :
      version ≤ s'.last name := by
    obtain ⟨m, hm, rfl⟩ := hmem
    exact UInt32.le_trans ((hwf.lineage name).bounds m hm).2 hmono
  rw [History.lastDescription?_concat, History.lastActivated?_concat] at hv
  rcases hv with hv | hv
  · rcases hd : e.described? name version with _ | description
    · rw [hd, Option.none_or] at hv
      exact UInt32.le_trans (ha.heardOf name version (.inl hv)) hmono
    · exact hthere (hstep.exists_of_described? (by simp [hd]))
  · rcases hd : e.activated? name with _ | v
    · rw [hd, Option.none_or] at hv
      exact UInt32.le_trans (ha.heardOf name version (.inr hv)) hmono
    · rw [hd, Option.some_or] at hv
      obtain rfl := Option.some.inj hv
      rcases hstep.exists_of_activated? hd with hmem | hreg
      · exact hthere hmem
      · rw [hstep.last_eq, hreg, hstep.registered?_eq hreg]
        exact UInt32.le_refl _

theorem step (ha : Agrees h s) (hwf : WellFormed s) (hstep : Step s e s')
    (hroom : ∀ name, (e.registered? name).isSome → s.last name < s.next name) :
    Agrees (h ++ [e]) s' where
  records := by
    intro name m
    have hfresh (hreg : (e.registered? name).isSome) : ∀ m ∈ s.newestFirst name,
        m.version ≠ s.next name := by
      intro m hm
      have hle := ((hwf.lineage name).bounds m hm).2
      exact UInt32.ne_of_lt (UInt32.lt_of_le_of_lt hle (hroom name hreg))
    have hunheard (version : UInt32) (hreg : e.registered? name = some version) :
        h.lastDescription? name version = none ∧ h.lastActivated? name ≠ some version := by
      have hlt := hroom name (by simp [hreg])
      rw [← hstep.registered?_eq hreg] at hlt
      have hnot (hv : version ≤ s.last name) : False :=
        UInt32.lt_irrefl _ (UInt32.lt_of_le_of_lt hv hlt)
      refine ⟨?_, fun hact => hnot (ha.heardOf name version (.inr hact))⟩
      rw [← Option.not_isSome_iff_eq_none]
      exact fun hdesc => hnot (ha.heardOf name version (.inl hdesc))
    rw [History.yields_concat_iff hunheard,
      hstep.newestFirst_eq name (hwf.lineage name).nodup_versions hfresh, revised]
    simp only [List.mem_append, Option.mem_toList, List.mem_map, List.mem_filter,
      ha.records name, decide_eq_true_eq, and_assoc]
  heardOf name version hv := ha.heardOf_step hwf hstep (hroom name) hv
  pipelines name := by
    rw [hstep.pipeline?_eq, ha.pipelines, History.lastPipeline?_concat]
  resources name := by
    rw [hstep.resourcesOf_eq, ha.resources, History.resourcesOf_concat]

end Agrees

/-- Every store that is reached without using up the numbers of a name agrees with its history. -/
theorem agrees_of_reaches {h : History} {s : Store} (hreach : Reaches h s)
    (hcount : ∀ name, h.registrations name < UInt32.size) : Agrees h s := by
  induction hreach with
  | start => exact .start
  | @step h s s' e hbefore hstep ih =>
    have hle (name : String) := History.registrations_le_append h [e] name
    have hcount' (name : String) := Nat.lt_of_le_of_lt (hle name) (hcount name)
    refine (ih hcount').step (wellFormed_of_reaches hbefore hcount') hstep ?_
    intro name hreg
    exact last_lt_next hbefore (hcount name) hreg

/-! ## Answers to lookups -/

/-- Two active records of a lineage are the same record. -/
theorem Lineage.eq_of_active {name : String} {last : UInt32} {ms : List ModelRecord}
    (h : Lineage name last ms) {a b : ModelRecord} (ha : a ∈ ms) (hb : b ∈ ms)
    (hactive : a.active = true ∧ b.active = true) : a = b := by
  have hsymm : Std.Symm fun a b : ModelRecord => ¬ (a.active = true ∧ b.active = true) :=
    ⟨fun _ _ hne hba => hne hba.symm⟩
  by_contra hne
  exact h.oneActive.forall ha hb hne hactive

/-- A search for what at most one member has finds every member that has it. -/
theorem find?_eq_some_iff_of_unique {α : Type} {p : α → Bool} {xs : List α} {x : α}
    (hunique : ∀ y ∈ xs, p y = true → p x = true → x ∈ xs → y = x) :
    xs.find? p = some x ↔ x ∈ xs ∧ p x = true := by
  constructor
  · intro h
    exact ⟨List.mem_of_find?_eq_some h, List.find?_some h⟩
  · rintro ⟨hx, hp⟩
    obtain ⟨y, hy⟩ := Option.isSome_iff_exists.1 (List.find?_isSome.2 ⟨x, hx, hp⟩)
    have heq := hunique y (List.mem_of_find?_eq_some hy) (List.find?_some hy) hp hx
    rw [hy, heq]

/-- A lookup finds the text of the record that it seeks, if there is one. -/
theorem lookup_eq_ok_iff {ms : List ModelRecord} {p : ModelRecord → Bool} {empty missing : Refusal}
    {text : String} (hunique : ∀ a ∈ ms, ∀ b ∈ ms, p a = true → p b = true → a = b) :
    Except.map ModelRecord.text
        (if ms = [] then .error empty
        else
          match ms.find? p with
          | none => .error missing
          | some m => .ok m) = .ok text ↔
      ∃ m ∈ ms, p m = true ∧ text = m.text := by
  have hfind (m : ModelRecord) : ms.find? p = some m ↔ m ∈ ms ∧ p m = true :=
    find?_eq_some_iff_of_unique fun y hy hpy hpm hm => hunique y hy m hm hpy hpm
  split
  · next hempty => simp [Except.map, hempty]
  · cases hsought : ms.find? p with
    | none =>
      constructor
      · intro hok
        cases hok
      · rintro ⟨m, hm, hpm, -⟩
        rw [(hfind m).2 ⟨hm, hpm⟩] at hsought
        cases hsought
    | some found =>
      constructor
      · intro hok
        obtain rfl := Except.ok.inj hok
        obtain ⟨hm, hpm⟩ := (hfind found).1 hsought
        exact ⟨found, hm, hpm, rfl⟩
      · rintro ⟨m, hm, hpm, rfl⟩
        rw [(hfind m).2 ⟨hm, hpm⟩] at hsought
        obtain rfl := Option.some.inj hsought
        rfl

section Answers

variable {s : Store} {name : String} {last : UInt32}
  (hlineage : Lineage name last (s.newestFirst name))

include hlineage

theorem get_eq_ok_iff (version : UInt32) (text : String) :
    (backend (.get name version) s).1 = .ok text ↔
      ∃ m ∈ s.newestFirst name, m.version = version ∧ text = m.text := by
  refine (lookup_eq_ok_iff ?_).trans (by simp only [decide_eq_true_eq, mem_versions])
  intro a ha b hb hav hbv
  exact hlineage.eq_of_version_eq (mem_versions.1 ha) (mem_versions.1 hb)
    ((of_decide_eq_true hav).trans (of_decide_eq_true hbv).symm)

theorem getActive_eq_ok_iff (text : String) :
    (backend (.getActive name) s).1 = .ok text ↔
      ∃ m ∈ s.newestFirst name, m.active = true ∧ text = m.text := by
  refine (lookup_eq_ok_iff ?_).trans (by simp only [mem_versions])
  intro a ha b hb haa hba
  exact hlineage.eq_of_active (mem_versions.1 ha) (mem_versions.1 hb) ⟨haa, hba⟩

omit hlineage in
theorem getAll_eq_ok_iff (name text : String) :
    (backend (.getAll name) s).1 = .ok text ↔
      s.versions name ≠ [] ∧ text = ModelRecord.listText (s.versions name) := by
  show (s.getAll name).map ModelRecord.listText = .ok text ↔ _
  unfold getAll
  split
  · next hempty => simp [Except.map, hempty]
  · next hms => simp [Except.map, hms, eq_comm]

end Answers

/-- **Lookups show exactly the history.**  A version can be looked up exactly while it is live, and
the record is the one that the history yields for it.  The active version is that of the latest
activation, while that is live.  All versions of a name are the live ones, counting upwards.  The
pipeline is the latest one set, and the resources are those added, in order. -/
theorem lookups_show_history (cs : List Call)
    (hcount : ∀ name, (run cs).1.registrations name < UInt32.size) (name : String) :
    let h := (run cs).1
    let s := (run cs).2
    (∀ version, (∃ text, (backend (.get name version) s).1 = .ok text) ↔ h.Live name version) ∧
    (∀ version text, (backend (.get name version) s).1 = .ok text ↔
      ∃ m, h.Yields name m ∧ m.version = version ∧ text = m.text) ∧
    ((∃ text, (backend (.getActive name) s).1 = .ok text) ↔
      ∃ version, h.lastActivated? name = some version ∧ h.Live name version) ∧
    (∀ text, (backend (.getActive name) s).1 = .ok text ↔
      ∃ m, h.Yields name m ∧ h.lastActivated? name = some m.version ∧ text = m.text) ∧
    ((∃ text, (backend (.getAll name) s).1 = .ok text) ↔ ∃ version, h.Live name version) ∧
    (∀ text, (backend (.getAll name) s).1 = .ok text →
      ∃ ms, text = ModelRecord.listText ms ∧ (ms.Pairwise fun a b => a.version < b.version) ∧
        ∀ m, m ∈ ms ↔ h.Yields name m) ∧
    s.pipeline? name = h.lastPipeline? name ∧
    s.resourcesOf name = h.resourcesOf name := by
  intro h s
  have hwf : WellFormed s := wellFormed_of_reaches (reaches_run cs) hcount
  have hagrees : Agrees h s := agrees_of_reaches (reaches_run cs) hcount
  have hget (version : UInt32) (text : String) :
      (backend (.get name version) s).1 = .ok text ↔
        ∃ m, h.Yields name m ∧ m.version = version ∧ text = m.text := by
    rw [get_eq_ok_iff (hwf.lineage name)]
    simp only [hagrees.records name]
  have hactive (text : String) :
      (backend (.getActive name) s).1 = .ok text ↔
        ∃ m, h.Yields name m ∧ h.lastActivated? name = some m.version ∧ text = m.text := by
    rw [getActive_eq_ok_iff (hwf.lineage name)]
    simp only [hagrees.records name]
    constructor
    · rintro ⟨m, hm, hma, rfl⟩
      obtain ⟨_, _, _, _, -, -, -, -, hiff⟩ := id hm
      exact ⟨m, hm, hiff.1 hma, rfl⟩
    · rintro ⟨m, hm, hlast, rfl⟩
      obtain ⟨_, _, _, _, -, -, -, -, hiff⟩ := id hm
      exact ⟨m, hm, hiff.2 hlast, rfl⟩
  have hversions (m : ModelRecord) : m ∈ s.versions name ↔ h.Yields name m := by
    rw [versions, List.mem_reverse, hagrees.records]
  refine ⟨?_, hget, ?_, hactive, ?_, ?_, hagrees.pipelines name, hagrees.resources name⟩
  · intro version
    rw [History.live_iff_yields]
    constructor
    · rintro ⟨text, htext⟩
      obtain ⟨m, hm, hv, -⟩ := (hget version text).1 htext
      exact ⟨m, hm, hv⟩
    · rintro ⟨m, hm, hv⟩
      exact ⟨m.text, (hget version m.text).2 ⟨m, hm, hv, rfl⟩⟩
  · constructor
    · rintro ⟨text, htext⟩
      obtain ⟨m, hm, hlast, -⟩ := (hactive text).1 htext
      exact ⟨m.version, hlast, (History.live_iff_yields ..).2 ⟨m, hm, rfl⟩⟩
    · rintro ⟨version, hlast, hlive⟩
      obtain ⟨m, hm, rfl⟩ := (History.live_iff_yields ..).1 hlive
      exact ⟨m.text, (hactive m.text).2 ⟨m, hm, hlast, rfl⟩⟩
  · constructor
    · rintro ⟨text, htext⟩
      obtain ⟨hne, -⟩ := (getAll_eq_ok_iff name text).1 htext
      obtain ⟨m, hm⟩ := List.exists_mem_of_ne_nil _ hne
      exact ⟨m.version, (History.live_iff_yields ..).2 ⟨m, (hversions m).1 hm, rfl⟩⟩
    · rintro ⟨version, hlive⟩
      obtain ⟨m, hm, -⟩ := (History.live_iff_yields ..).1 hlive
      exact ⟨_, (getAll_eq_ok_iff name _).2 ⟨List.ne_nil_of_mem ((hversions m).2 hm), rfl⟩⟩
  · intro text htext
    obtain ⟨-, rfl⟩ := (getAll_eq_ok_iff name text).1 htext
    refine ⟨s.versions name, rfl, ?_, hversions⟩
    rw [versions, List.pairwise_reverse]
    exact (hwf.lineage name).decreasing

/-- The active version is deleted by force and an older one has been described anew: the older one
is found, none is active. -/
theorem lookups_show_history_without_active :
    let cs : List Call :=
      [.register "m" "/a" false "old" "", .register "m" "/b" true "" "", .describe "m" 1 "new",
        .get "m" 2, .delete "m" 2 true, .setPipeline "p" "src ! sink"]
    (∀ name, (run cs).1.registrations name < UInt32.size) ∧
      (run cs).1.Live "m" 1 ∧ ¬ (run cs).1.Live "m" 2 ∧
      ¬ ∃ text, (backend (.getActive "m") (run cs).2).1 = .ok text := by
  intro cs
  have hcount (name : String) : (run cs).1.registrations name < UInt32.size :=
    Nat.lt_of_le_of_lt (registrations_run_le cs name) (by decide)
  obtain ⟨hlive, -⟩ := lookups_show_history cs hcount "m"
  refine ⟨hcount, (hlive 1).1 ⟨_, rfl⟩, ?_, ?_⟩
  · rw [← hlive 2]
    rintro ⟨text, htext⟩
    cases htext
  · rintro ⟨text, htext⟩
    cases htext

end Store
end ModelRegistry
