import Mathlib.Data.List.Perm.Basic
import Mathlib.Data.List.TakeWhile
import Mathlib.Data.Option.Basic
import ModelRegistry.Proofs.Manifest.Units
import ModelRegistry.Proofs.Store.Isolation
import ModelRegistry.Proofs.Wire.RoundTrip

/-!
# The order of keys

Entries of different categories do not see each other.  Two manifests that hold the same entries of
each category, in the same order but under keys that are spelled, split and mixed in any way, leave
the same store and the same report (`key_order_is_irrelevant`).

The calls of one category are those inside the scope of its kind, so the store that they leave is
settled one kind at a time (`run_eq_of_kinds`).  What a store answers to a registration depends on
the registration alone, so a report counts the marks of a permutation (`fates_marks`).

Entries are compared as values: `Json.Same` ignores the order of members, and all but the last of
those that share a name.
-/

namespace ModelRegistry

/-! ## The same value -/

namespace Json

/-- Two documents hold the same value.  Members are compared by name, and of several members with
one name only the last counts. -/
inductive Same : Json → Json → Prop
  | null : Same .null .null
  | flag (b : Bool) : Same (.flag b) (.flag b)
  | number (n : Number) : Same (.number n) (.number n)
  | text (s : String) : Same (.text s) (.text s)
  | array {xs ys : List Json} (h : List.Forall₂ Same xs ys) : Same (.array xs) (.array ys)
  | object {ms ns : List (String × Json)}
      (h : ∀ name, Option.Rel Same (field? ms name) (field? ns name)) :
      Same (.object ms) (.object ns)

theorem sizeOf_field?_lt {ms : List (String × Json)} {name : String} {value : Json}
    (h : field? ms name = some value) : sizeOf value < sizeOf ms := by
  rw [field?_eq_lookup] at h
  obtain ⟨before, after, hms, -⟩ := List.lookup_eq_some_iff.1 h
  have hmem : (name, value) ∈ ms := List.mem_reverse.1 (hms ▸ by simp)
  have hlt := List.sizeOf_lt_of_mem hmem
  rw [Prod.mk.sizeOf_spec] at hlt
  omega

/-- A value is the same as itself. -/
theorem Same.refl : (j : Json) → Same j j
  | .null => .null
  | .flag b => .flag b
  | .number n => .number n
  | .text s => .text s
  | .array items => .array (List.forall₂_same.2 fun item _ => Same.refl item)
  | .object ms => .object fun name =>
    match h : field? ms name with
    | none => .none
    | some value =>
      have := sizeOf_field?_lt h
      .some (Same.refl value)

/-- Objects with the same fields are the same, in whatever order the fields stand. -/
theorem Same.of_fields {ms ns : List (String × Json)}
    (h : ∀ name, field? ms name = field? ns name) : Same (.object ms) (.object ns) := by
  refine .object fun name => ?_
  rw [h name]
  cases field? ns name with
  | none => exact .none
  | some value => exact .some (.refl value)

theorem Same.text?_eq {a b : Json} (h : Same a b) : a.text? = b.text? := by
  cases h <;> rfl

theorem map_text?_of_same {xs ys : List Json} (h : List.Forall₂ Same xs ys) :
    xs.map text? = ys.map text? := by
  induction h with
  | nil => rfl
  | cons hsame _ ih => rw [List.map_cons, List.map_cons, hsame.text?_eq, ih]

end Json

/-- The kind of record that a category registers. -/
def Category.kind : Category → RecordKind
  | model => .model
  | pipeline => .pipeline
  | resource => .resource

theorem Category.kind_of_method {category : Category} {c : Call} (h : c.method = category.method) :
    c.kind = category.kind := by
  cases category <;> cases c <;> first | rfl | cases h

namespace Manifest

/-! ## Entries that are the same -/

section Same

variable {ms ns : List (String × Json)}

theorem lookup_of_same (h : Json.Same (.object ms) (.object ns)) (name : String) :
    Option.Rel Json.Same (ms.reverse.lookup name) (ns.reverse.lookup name) := by
  cases h with
  | object h =>
    have hname := h name
    rwa [Json.field?_eq_lookup, Json.field?_eq_lookup] at hname

theorem lastText?_of_same (h : Json.Same (.object ms) (.object ns)) (name : String) :
    lastText? ms name = lastText? ns name := by
  have hname := lookup_of_same h name
  rw [lastText?, lastText?]
  generalize ms.reverse.lookup name = x, ns.reverse.lookup name = y at hname ⊢
  cases hname with
  | none => rfl
  | some hsame => cases hsame <;> rfl

theorem pathTexts_of_same {x y : Option Json} (h : Option.Rel Json.Same x y) :
    pathTexts x = pathTexts y := by
  have hfilter (items : List Json) :
      items.filterMap Json.text? = (items.map Json.text?).filterMap id := by
    rw [List.filterMap_map]
    rfl
  cases h with
  | none => rfl
  | some hsame =>
    cases hsame with
    | array hitems => rw [pathTexts, pathTexts, hfilter, hfilter, Json.map_text?_of_same hitems]
    | _ => rfl

theorem entryCalls_of_same (appInfo : String) (category : Category) {a b : Json}
    (h : Json.Same a b) : entryCalls appInfo category a = entryCalls appInfo category b := by
  have hobject := h
  cases h with
  | @object ms ns _ =>
    cases category <;>
      simp only [entryCalls, lastText?_of_same hobject,
        pathTexts_of_same (lookup_of_same hobject _)]
  | _ => cases category <;> rfl

theorem listedPaths_of_same {x y : Option Json} (h : Option.Rel Json.Same x y) :
    listedPaths x = listedPaths y := by
  cases h with
  | none => rfl
  | some hsame =>
    cases hsame with
    | array hitems => exact Json.map_text?_of_same hitems
    | _ => rfl

/-- The same entry has the same units. -/
theorem entryUnits_of_same (appInfo : String) (category : Category) {a b : Json}
    (h : Json.Same a b) : entryUnits appInfo category a = entryUnits appInfo category b := by
  have hcalls := entryCalls_of_same appInfo category h
  have hobject := h
  cases h with
  | object =>
    cases category with
    | resource =>
      simp only [entryUnits, hcalls, lastText?_of_same hobject,
        listedPaths_of_same (lookup_of_same hobject _)]
    | _ => exact congrArg (fun calls => [calls.head?]) hcalls
  | _ => cases category <;> rfl

end Same

/-! ## Entries by category -/

/-- The entries of a category, in the order of the document, whatever keys they stand under. -/
def entriesOf (category : Category) (ss : List (String × Json)) : List Json :=
  (ss.filter fun s => categoryOf? s.1 = some category).flatMap fun s => entries s.2

/-- The units of the entries of a category. -/
def unitsOf (appInfo : String) (category : Category) (ss : List (String × Json)) :
    List (Option Call) :=
  (entriesOf category ss).flatMap (entryUnits appInfo category)

/-- The same entries have the same units. -/
theorem units_of_same (appInfo : String) (category : Category) {xs ys : List Json}
    (h : List.Forall₂ Json.Same xs ys) :
    xs.flatMap (entryUnits appInfo category) = ys.flatMap (entryUnits appInfo category) := by
  induction h with
  | nil => rfl
  | cons hsame _ ih =>
    rw [List.flatMap_cons, List.flatMap_cons, entryUnits_of_same appInfo category hsame, ih]

/-- A section adds its units to those of its category, and none to those of another. -/
theorem unitsOf_cons (appInfo : String) (category : Category) {s : String × Json}
    {other : Category} (hkey : categoryOf? s.1 = some other) (ss : List (String × Json)) :
    unitsOf appInfo category (s :: ss) =
      (if other = category then sectionUnits appInfo s else []) ++ unitsOf appInfo category ss := by
  obtain ⟨key, value⟩ := s
  by_cases h : other = category
  · subst h
    rw [if_pos rfl, sectionUnits_eq appInfo hkey value]
    simp [unitsOf, entriesOf, hkey]
  · simp [unitsOf, entriesOf, hkey, h]

section Known

variable {ss : List (String × Json)} (hknown : ∀ s ∈ ss, (categoryOf? s.1).isSome)

include hknown

/-- All units are those of the three categories, mixed. -/
theorem units_perm (appInfo : String) :
    (ss.flatMap (sectionUnits appInfo)).Perm
      (unitsOf appInfo .model ss ++ (unitsOf appInfo .pipeline ss ++
        unitsOf appInfo .resource ss)) := by
  induction ss with
  | nil => exact .refl _
  | cons s ss ih =>
    obtain ⟨hs, hss⟩ := List.forall_mem_cons.1 hknown
    obtain ⟨category, hkey⟩ := Option.isSome_iff_exists.1 hs
    have hunits := (ih hss).append_left (sectionUnits appInfo s)
    rw [List.flatMap_cons, unitsOf_cons appInfo .model hkey, unitsOf_cons appInfo .pipeline hkey,
      unitsOf_cons appInfo .resource hkey]
    refine hunits.trans ?_
    cases category with
    | model => simp
    | pipeline =>
      simpa using List.perm_append_comm_assoc _ _ _
    | resource =>
      have hlast := List.perm_append_comm_assoc (sectionUnits appInfo s)
        (unitsOf appInfo .model ss ++ unitsOf appInfo .pipeline ss) (unitsOf appInfo .resource ss)
      simpa using hlast

/-- The calls about one kind of record are those of its category. -/
theorem calls_of_kind (appInfo : String) (category : Category) :
    ((ss.flatMap (sectionUnits appInfo)).filterMap id).filter
        (fun c => decide (c.kind = category.kind)) =
      (unitsOf appInfo category ss).filterMap id := by
  induction ss with
  | nil => rfl
  | cons s ss ih =>
    obtain ⟨hs, hss⟩ := List.forall_mem_cons.1 hknown
    obtain ⟨other, hkey⟩ := Option.isSome_iff_exists.1 hs
    have hkind (c : Call) (hc : c ∈ (sectionUnits appInfo s).filterMap id) :
        c.kind = other.kind := by
      obtain ⟨unit, hunit, rfl⟩ := List.mem_filterMap.1 hc
      exact Category.kind_of_method (method_of_mem_sectionUnits hkey hunit)
    rw [List.flatMap_cons, List.filterMap_append, List.filter_append, ih hss,
      unitsOf_cons appInfo category hkey, List.filterMap_append]
    congr 1
    split
    · next h =>
      subst h
      exact List.filter_eq_self.2 fun c hc => decide_eq_true (hkind c hc)
    · next h =>
      refine List.filter_eq_nil_iff.2 fun c hc => ?_
      rw [hkind c hc]
      cases other <;> cases category <;> simp_all [Category.kind]

end Known
end Manifest

/-! ## One kind at a time -/

namespace Store

/-- The records of one kind. -/
def only (kind : RecordKind) : Scope := fun k _ => decide (k = kind)

/-- A store is put together from the records of the three kinds. -/
theorem eq_of_restrict {s t : Store} (h : ∀ kind, s.restrict (only kind) = t.restrict (only kind)) :
    s = t := by
  have hmodel := h .model
  have hpipeline := h .pipeline
  have hresource := h .resource
  obtain ⟨⟨_⟩, ⟨_⟩, ⟨_⟩, _⟩ := s
  obtain ⟨⟨_⟩, ⟨_⟩, ⟨_⟩, _⟩ := t
  simp_all [restrict, Table.restrict, only]

/-- Calls that are the same for each kind of record lead to the same store. -/
theorem run_eq_of_kinds {cs ds : List Call}
    (h : ∀ kind, (cs.filter fun c => decide (c.kind = kind)) =
      ds.filter fun c => decide (c.kind = kind)) (s : Store) :
    (Backend.run backend cs s).2 = (Backend.run backend ds s).2 := by
  refine eq_of_restrict fun kind => ?_
  have hcs := congrArg Prod.snd (run_restrict (only kind) cs s)
  have hds := congrArg Prod.snd (run_restrict (only kind) ds s)
  exact hcs.symm.trans ((congrArg (fun own => (Backend.run backend own _).2) (h kind)).trans hds)

/-- What a store answers to a registration is a matter of its arguments. -/
theorem mark_of_method {c : Call} {category : Category} (h : c.method = category.method)
    (s t : Store) :
    Manifest.mark ⟨c, (backend c s).1⟩ = Manifest.mark ⟨c, (backend c t).1⟩ := by
  cases c with
  | register name path =>
    simp only [backend, register]
    by_cases hname : name = ""
    · simp only [if_pos hname]
    · by_cases hpath : path = ""
      · simp only [if_neg hname, if_pos hpath]
      · simp only [if_neg hname, if_neg hpath]
        rfl
  | setPipeline name description =>
    simp only [backend, setPipeline]
    by_cases hname : name = ""
    · simp only [if_pos hname]
    · by_cases hdescription : description = ""
      · simp only [if_neg hname, if_pos hdescription]
      · simp only [if_neg hname, if_neg hdescription]
  | addResource name path =>
    simp only [backend, addResource]
    by_cases hname : name = ""
    · simp only [if_pos hname]
    · by_cases hpath : path = ""
      · simp only [if_neg hname, if_pos hpath]
      · simp only [if_neg hname, if_neg hpath]
  | _ => cases category <;> cases h

end Store

namespace Manifest

/-- The marks that a store gives to registrations are those of each for itself. -/
theorem fates_marks {units : List (Option Call)}
    (h : ∀ c, some c ∈ units → ∃ category : Category, c.method = category.method) (s : Store) :
    (fates Store.backend units s).map Fate.mark =
      units.map fun unit => (fate Store.backend unit .empty).mark := by
  induction units generalizing s with
  | nil => rfl
  | cons unit units ih =>
    rw [fates, List.map_cons, List.map_cons, ih fun c hc => h c (List.mem_cons_of_mem _ hc)]
    congr 1
    cases unit with
    | none => rfl
    | some c =>
      obtain ⟨category, hmethod⟩ := h c List.mem_cons_self
      exact Store.mark_of_method hmethod s .empty

/-- What a store reports of registrations does not depend on their order. -/
theorem report_of_perm {us vs : List (Option Call)} (hperm : us.Perm vs)
    (h : ∀ c, some c ∈ us → ∃ category : Category, c.method = category.method) (s : Store) :
    ((fates Store.backend us s).map Fate.mark).foldl Report.count .empty =
      ((fates Store.backend vs s).map Fate.mark).foldl Report.count .empty := by
  rw [fates_marks h, fates_marks fun c hc => h c (hperm.mem_iff.2 hc), Report.foldl_count,
    Report.foldl_count]
  simp only [(hperm.map _).count_eq]

/-! ## Manifests whose keys are known -/

/-- The text of a manifest with these members, the key of each of which spells a category. -/
structure Known (text : String) (members : List (String × Json)) : Prop where
  parsed : Json.parse (Text.bytes text) = .ok (.object members)
  keys : ∀ m ∈ members, (categoryOf? m.1).isSome

theorem Known.sections {text : String} {members : List (String × Json)} (h : Known text members) :
    ∀ s ∈ sections members, (categoryOf? s.1).isSome := by
  intro s hs
  obtain ⟨key, hkey, hvalue⟩ := List.mem_filterMap.1 hs
  obtain ⟨value, -, rfl⟩ := Option.map_eq_some_iff.1 hvalue
  obtain ⟨m, hm, rfl⟩ := List.mem_map.1 (List.mem_eraseDups.1 hkey)
  exact h.keys m hm

theorem Known.units_eq {text : String} {members : List (String × Json)} (h : Known text members)
    (appInfo : String) :
    units appInfo text = (Manifest.sections members).flatMap (sectionUnits appInfo) := by
  have hall : (Manifest.sections members).takeWhile (fun s => (categoryOf? s.1).isSome) =
      Manifest.sections members := by
    rw [List.takeWhile_eq_self_iff]
    exact h.sections
  simp only [units, h.parsed, hall]

/-- A manifest whose keys are known ends well, with the report of its units. -/
theorem Known.register_value {text : String} {members : List (String × Json)}
    (h : Known text members) (appInfo : String) (s : Store) :
    ((register Store.backend appInfo (Text.bytes text)).run s).value =
      .ok (((fates Store.backend (units appInfo text) s).map Fate.mark).foldl
        Report.count .empty) := by
  have hkey : ((Manifest.sections members).find? fun s => (categoryOf? s.1).isNone) = none := by
    rw [List.find?_eq_none]
    intro s hs
    simpa [Option.isSome_iff_ne_none] using h.sections s hs
  have hwell : ((register Store.backend appInfo (Text.bytes text)).run s).value.map
      (fun _ => ()) = .ok () := by
    rw [replay_outcome, replay, h.parsed]
    simp only [hkey]
  have hends := register_ends Store.backend appInfo text s
  cases hvalue : ((register Store.backend appInfo (Text.bytes text)).run s).value with
  | error e =>
    rw [hvalue] at hwell
    cases hwell
  | ok report =>
    simp only [hvalue] at hends
    rw [hends.report_eq]

/-- **The order of the keys is irrelevant.**  Two manifests whose keys all spell categories, and
which hold the same entries of each category in the same order, give the same report and leave the
same store, whatever store they find.  How their keys are spelled, in what order they come, and how
the entries are spread over them makes no difference. -/
theorem key_order_is_irrelevant {a b : String} {ms ns : List (String × Json)} (ha : Known a ms)
    (hb : Known b ns)
    (hsame : ∀ category, List.Forall₂ Json.Same (entriesOf category (sections ms))
      (entriesOf category (sections ns)))
    (appInfo : String) (s : Store) :
    let o := (register Store.backend appInfo (Text.bytes a)).run s
    let p := (register Store.backend appInfo (Text.bytes b)).run s
    (∃ report, o.value = .ok report ∧ p.value = .ok report) ∧ o.state = p.state := by
  intro o p
  have hunits (category : Category) : unitsOf appInfo category (sections ms) =
      unitsOf appInfo category (sections ns) := units_of_same appInfo category (hsame category)
  have hperm : (units appInfo a).Perm (units appInfo b) := by
    have hna := units_perm ha.sections appInfo
    have hnb := units_perm hb.sections appInfo
    rw [hunits, hunits, hunits] at hna
    rw [ha.units_eq, hb.units_eq]
    exact hna.trans hnb.symm
  refine ⟨⟨_, ha.register_value appInfo s, ?_⟩, ?_⟩
  · rw [report_of_perm hperm fun c hc => method_of_mem_units hc]
    exact hb.register_value appInfo s
  · show ((register Store.backend appInfo (Text.bytes a)).run s).state =
      ((register Store.backend appInfo (Text.bytes b)).run s).state
    rw [register_state, register_state]
    refine Store.run_eq_of_kinds (fun kind => ?_) s
    obtain ⟨category, rfl⟩ : ∃ category : Category, category.kind = kind := by
      cases kind
      · exact ⟨.model, rfl⟩
      · exact ⟨.pipeline, rfl⟩
      · exact ⟨.resource, rfl⟩
    rw [ha.units_eq, hb.units_eq, calls_of_kind ha.sections, calls_of_kind hb.sections, hunits]

/-- Two versions of a model in one array, before a resource. -/
def together : List (String × Json) :=
  [("models", .array
      [.object [("name", .text "m"), ("model", .text "/a"), ("activate", .text "TRUE")],
        .object [("name", .text "m"), ("model", .text "/b")]]),
    ("resource", .object [("name", .text "r"), ("path", .text "/r")])]

/-- The same entries, with a key for each version on either side of the resource, and the members of
the first version in another order. -/
def apart : List (String × Json) :=
  [("Model", .object [("activate", .text "TRUE"), ("model", .text "/a"), ("name", .text "m")]),
    ("RESOURCES", .array [.object [("name", .text "r"), ("path", .text "/r")]]),
    ("MODELS", .object [("name", .text "m"), ("model", .text "/b")])]

/-- An object of texts is written. -/
theorem written_texts {members : List (String × Json)} (h : ∀ m ∈ members, ∃ s, m.2 = .text s) :
    Json.Written (.object members) (Text.utf8 (Json.object members).write) := by
  refine Json.written_object fun m hm => ?_
  obtain ⟨s, hs⟩ := h m hm
  rw [hs]
  exact Json.written_text s

/-- The two spellings of one manifest leave the same store. -/
theorem key_order_is_irrelevant_for_split_models :
    let a := (Json.object together).compact
    let b := (Json.object apart).compact
    Known a together ∧ Known b apart ∧
      ((register Store.backend "" (Text.bytes a)).run .empty).state =
        ((register Store.backend "" (Text.bytes b)).run .empty).state := by
  intro a b
  have ha : Known a together := by
    refine ⟨Wire.parse_compact ?_ (by decide), by decide⟩
    refine Json.written_object (List.forall_mem_cons.2 ⟨Json.written_array ?_,
      List.forall_mem_singleton.2 (written_texts (by simp))⟩)
    exact List.forall_mem_cons.2 ⟨written_texts (by simp),
      List.forall_mem_singleton.2 (written_texts (by simp))⟩
  have hb : Known b apart := by
    refine ⟨Wire.parse_compact ?_ (by decide), by decide⟩
    exact Json.written_object (List.forall_mem_cons.2 ⟨written_texts (by simp),
      List.forall_mem_cons.2 ⟨Json.written_array (List.forall_mem_singleton.2
        (written_texts (by simp))), List.forall_mem_singleton.2 (written_texts (by simp))⟩⟩)
  have hsame (category : Category) : List.Forall₂ Json.Same (entriesOf category (sections together))
      (entriesOf category (sections apart)) := by
    cases category with
    | model =>
      have hfirst : Json.Same
          (.object [("name", .text "m"), ("model", .text "/a"), ("activate", .text "TRUE")])
          (.object [("activate", .text "TRUE"), ("model", .text "/a"), ("name", .text "m")]) := by
        refine .of_fields fun name => ?_
        simp only [Json.field?, List.foldl_cons, List.foldl_nil]
        grind
      exact .cons hfirst (.cons (.refl _) .nil)
    | pipeline => exact .nil
    | resource => exact .cons (.refl _) .nil
  exact ⟨ha, hb, (key_order_is_irrelevant ha hb hsame "" .empty).2⟩

end Manifest
end ModelRegistry
