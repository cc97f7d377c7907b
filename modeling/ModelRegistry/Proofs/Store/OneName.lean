import Mathlib.Data.List.Nodup
import ModelRegistry.Proofs.Store.Isolation
import ModelRegistry.Proofs.Store.Reads

/-!
# One name at a time

What is said of all names of a store needs that none of them has used up its numbers.  What is said
of one name needs this of that name alone, whatever has happened to the others.

The calls about one name, put to a store of their own, lead to the same exchanges and leave the same
versions under the name (`run_about`), and no other name has any there.  So the versions of the name
are a lineage (`lineage_run`), they are the records that the whole history yields for it
(`mem_newestFirst_run_iff`), and a number that the name has not used up is not there yet
(`version_ne_next_run`).
-/

namespace ModelRegistry

/-! ## The exchanges about one name -/

/-- An exchange about another name says nothing about the models of a name. -/
theorem Exchange.silent_of_ne {e : Exchange} {name : String} (h : e.call.name ≠ name) :
    e.registered? name = none ∧ e.deleted? name = none ∧ e.activated? name = none ∧
      ∀ version, e.described? name version = none := by
  obtain ⟨c, answer⟩ := e
  cases c <;> cases answer <;>
    simp_all [Call.name, registered?, deleted?, activated?, described?]

namespace History

/-- The exchanges about one name. -/
def about (h : History) (name : String) : History := h.filter fun e => e.call.name = name

variable (h : History) {name : String}

/-- What exchanges about other names do not say is read off these exchanges alone. -/
theorem filterMap_about {α : Type} {f : Exchange → Option α}
    (hsilent : ∀ e, e.call.name ≠ name → f e = none) :
    (h.about name).filterMap f = h.filterMap f := by
  rw [about, List.filterMap_filter]
  refine List.filterMap_congr fun e _ => ?_
  by_cases he : e.call.name = name
  · simp [he]
  · simp [he, hsilent e he]

theorem registrations_about (other : String) :
    (h.about name).registrations other = if other = name then h.registrations other else 0 := by
  split
  · next hsame =>
    subst hsame
    rw [registrations, filterMap_about h fun e he => (Exchange.silent_of_ne he).1, registrations]
  · next hother =>
    have hnone : (h.about name).filterMap (Exchange.registered? other) = [] := by
      refine List.filterMap_eq_nil_iff.2 fun e he => ?_
      have hname : e.call.name = name := by simpa using (List.mem_filter.1 he).2
      exact (Exchange.silent_of_ne fun heq => hother (heq.symm.trans hname)).1
    rw [registrations, hnone, List.length_nil]

/-- The records of a name are those that the exchanges about it yield. -/
theorem yields_about_iff {m : ModelRecord} : (h.about name).Yields name m ↔ h.Yields name m := by
  have hdescribed : (h.about name).lastDescription? name m.version =
      h.lastDescription? name m.version := congrArg List.getLast?
    (filterMap_about h fun e he => (Exchange.silent_of_ne he).2.2.2 m.version)
  have hactivated : (h.about name).lastActivated? name = h.lastActivated? name :=
    congrArg List.getLast? (filterMap_about h fun e he => (Exchange.silent_of_ne he).2.2.1)
  simp only [Yields, hdescribed, hactivated]
  constructor
  · rintro ⟨before, active, description, after, heq, hafter, hrest⟩
    obtain ⟨left, right, hsplit, -, hright⟩ := List.filter_eq_append_iff.1 heq
    obtain ⟨gap, rest, rfl, -, -, rfl⟩ := List.filter_eq_cons_iff.1 hright
    refine ⟨left ++ gap, active, description, rest, by rw [hsplit, List.append_assoc], ?_, hrest⟩
    intro e he
    by_cases hname : e.call.name = name
    · exact hafter e (List.mem_filter.2 ⟨he, decide_eq_true hname⟩)
    · simp [(Exchange.silent_of_ne hname).2.1]
  · rintro ⟨before, active, description, after, heq, hafter, hrest⟩
    refine ⟨about before name, active, description, about after name, ?_,
      fun e he => hafter e (List.mem_filter.1 he).1, hrest⟩
    rw [heq, about, List.filter_append]
    exact congrArg (about before name ++ ·) (List.filter_cons_of_pos (decide_eq_true rfl))

end History

namespace Store

/-! ## A run with room for one name -/

/-- The calls about one name, put to a store of their own. -/
theorem run_about (cs : List Call) (name : String) :
    run (cs.filter fun c => c.name = name) =
      ((run cs).1.about name, (run cs).2.restrict fun _ n => n = name) :=
  run_filter (fun _ n => n = name) cs

section Room

variable {cs : List Call} {name : String}
  (hcount : (run cs).1.registrations name < UInt32.size)

include hcount

/-- In the store of their own every name has room. -/
theorem registrations_run_about (other : String) :
    (run (cs.filter fun c => c.name = name)).1.registrations other < UInt32.size := by
  rw [run_about, History.registrations_about]
  split
  · next hsame => rwa [hsame]
  · decide

theorem lineage_run : Lineage name ((run cs).2.last name) ((run cs).2.newestFirst name) := by
  have hwf := wellFormed_of_reaches (reaches_run _) (registrations_run_about hcount)
  have hlineage := hwf.lineage name
  rwa [run_about, last_restrict (decide_eq_true rfl), newestFirst_restrict (decide_eq_true rfl)]
    at hlineage

/-- The versions of the name are the records that the history yields for it. -/
theorem mem_newestFirst_run_iff {m : ModelRecord} :
    m ∈ (run cs).2.newestFirst name ↔ (run cs).1.Yields name m := by
  have hagrees := agrees_of_reaches (reaches_run _) (registrations_run_about hcount)
  have hrecords := hagrees.records name m
  rwa [run_about, newestFirst_restrict (decide_eq_true rfl), History.yields_about_iff] at hrecords

/-- No number of the name is there twice. -/
theorem nodup_versions_run : (((run cs).2.versions name).map (·.version)).Nodup := by
  rw [versions, List.map_reverse]
  exact List.nodup_reverse.2 (lineage_run hcount).nodup_versions

/-- The number that the next registration gets is not there yet. -/
theorem version_ne_next_run {m : ModelRecord} (hm : m ∈ (run cs).2.newestFirst name) :
    m.version ≠ (run cs).2.next name :=
  (lineage_run hcount).version_ne_next hm

end Room
end Store
end ModelRegistry
