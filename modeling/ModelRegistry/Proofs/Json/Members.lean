import Mathlib.Data.List.Basic
import Mathlib.Data.List.Induction
import ModelRegistry.Json.Basic

/-!
# Repeated names

An object may repeat a name.  What `Json.field?` and `Json.distinct` make of it is said here without
their loops: the value of a name is that of its last member (`field?_eq_lookup`), and the members
without repetition are the names in the order of first mention, each with that value
(`distinct_eq`).

Both inductions add members at the end, as the loops do.
-/

namespace ModelRegistry
namespace Json

/-! ## The value of a name -/

theorem field?_concat (members : List (String × Json)) (m : String × Json) (name : String) :
    field? (members ++ [m]) name = if m.1 = name then some m.2 else field? members name := by
  simp [field?]

/-- The value of a name is that of its last member. -/
theorem field?_eq_lookup (members : List (String × Json)) (name : String) :
    field? members name = members.reverse.lookup name := by
  induction members using List.reverseRecOn with
  | nil => rfl
  | append_singleton members m ih =>
    obtain ⟨other, value⟩ := m
    rw [field?_concat, ih, List.reverse_concat, List.lookup_cons]
    by_cases heq : other = name
    · simp [heq]
    · have hne : (name == other) = false := beq_eq_false_iff_ne.2 (Ne.symm heq)
      simp [heq, hne]

theorem field?_isSome_iff (members : List (String × Json)) (name : String) :
    (field? members name).isSome ↔ name ∈ members.map Prod.fst := by
  induction members using List.reverseRecOn with
  | nil => simp [field?]
  | append_singleton members m ih =>
    rw [field?_concat, List.map_append, List.mem_append, ← ih]
    by_cases heq : m.1 = name
    · simp [heq]
    · simp [heq, Ne.symm heq]

/-! ## The members without repetition -/

theorem distinct_concat (members : List (String × Json)) (m : String × Json) :
    distinct (members ++ [m]) = place (distinct members) m.1 m.2 := by
  simp [distinct]

/-- The names of some members, each with its value. -/
def valued (members : List (String × Json)) (names : List String) : List (String × Json) :=
  names.filterMap fun name => (field? members name).map fun value => (name, value)

theorem mem_names_valued {members : List (String × Json)} {names : List String} {name : String} :
    name ∈ (valued members names).map Prod.fst ↔
      name ∈ names ∧ name ∈ members.map Prod.fst := by
  constructor
  · intro h
    obtain ⟨m, hm, rfl⟩ := List.mem_map.1 h
    obtain ⟨other, hother, hvalue⟩ := List.mem_filterMap.1 hm
    obtain ⟨value, hfield, rfl⟩ := Option.map_eq_some_iff.1 hvalue
    exact ⟨hother, (field?_isSome_iff members other).1 (by simp [hfield])⟩
  · rintro ⟨hname, hmember⟩
    have hsome := (field?_isSome_iff members name).2 hmember
    obtain ⟨value, hvalue⟩ := Option.isSome_iff_exists.1 hsome
    exact List.mem_map.2 ⟨(name, value), List.mem_filterMap.2 ⟨name, hname, by simp [hvalue]⟩, rfl⟩

/-- A known name is given its new value in its place. -/
theorem place_valued_of_mem {members : List (String × Json)} {names : List String}
    {m : String × Json} (hnames : ∀ name ∈ names, name ∈ members.map Prod.fst)
    (hm : m.1 ∈ names) :
    place (valued members names) m.1 m.2 = valued (members ++ [m]) names := by
  have hknown : (valued members names).any (fun x => x.1 = m.1) = true := by
    have hmem := mem_names_valued.2 ⟨hm, hnames _ hm⟩
    obtain ⟨x, hx, heq⟩ := List.mem_map.1 hmem
    exact List.any_eq_true.2 ⟨x, hx, by simp [heq]⟩
  rw [place, if_pos hknown, valued, List.map_filterMap, valued]
  apply List.filterMap_congr
  intro name hname
  have hsome := (field?_isSome_iff members name).2 (hnames name hname)
  obtain ⟨value, hvalue⟩ := Option.isSome_iff_exists.1 hsome
  by_cases heq : m.1 = name
  · simp [field?_concat, hvalue, heq]
  · simp [field?_concat, hvalue, heq, Ne.symm heq]

/-- An unknown name is put at the end. -/
theorem place_valued_of_not_mem {members : List (String × Json)} {names : List String}
    {m : String × Json} (hm : m.1 ∉ names) :
    place (valued members names) m.1 m.2 = valued (members ++ [m]) (names ++ [m.1]) := by
  have hunknown : ¬ (valued members names).any (fun x => x.1 = m.1) = true := by
    intro hany
    obtain ⟨x, hx, heq⟩ := List.any_eq_true.1 hany
    have hmem : x.1 ∈ (valued members names).map Prod.fst := List.mem_map_of_mem hx
    rw [of_decide_eq_true heq] at hmem
    exact hm (mem_names_valued.1 hmem).1
  have hsame : valued members names = valued (members ++ [m]) names := by
    apply List.filterMap_congr
    intro name hname
    have hne : ¬ m.1 = name := fun heq => hm (heq ▸ hname)
    simp [field?_concat, hne]
  rw [place, if_neg hunknown, hsame, valued, valued, List.filterMap_append]
  simp [field?_concat]

/-- The members without repetition: the names in the order of first mention, each with the value of
its last member. -/
theorem distinct_eq (members : List (String × Json)) :
    distinct members = valued members (members.map Prod.fst).eraseDups := by
  induction members using List.reverseRecOn with
  | nil => rfl
  | append_singleton members m ih =>
    have hnames : (members.map Prod.fst ++ [m.1]).eraseDups = (members.map Prod.fst).eraseDups ++
        (if m.1 ∈ members.map Prod.fst then [] else [m.1]) := by
      rw [List.eraseDups_append]
      split
      · next hm => simp [List.removeAll, hm]
      · next hm => simp [List.removeAll, hm, List.eraseDups_cons]
    rw [distinct_concat, ih, List.map_append, List.map_singleton, hnames]
    split
    · next hm =>
      rw [List.append_nil]
      apply place_valued_of_mem
      · intro name hname
        exact List.mem_eraseDups.1 hname
      · exact List.mem_eraseDups.2 hm
    · next hm =>
      apply place_valued_of_not_mem
      exact fun hmem => hm (List.mem_eraseDups.1 hmem)

end Json
end ModelRegistry
