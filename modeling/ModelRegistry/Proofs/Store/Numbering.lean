import Mathlib.Data.List.Pairwise
import ModelRegistry.Proofs.Store.Invariant

/-!
# Versions count registrations

The versions handed out for a name, in the order in which they were handed out, are 1, 2, 3 and so
on, whatever was deleted, changed or refused in between and whatever happened to other names.  So a
number says how many registrations of its name there had been, and it never comes back.

A step hands out the number after the last one (`Step.registered?_eq`), and the last one counts the
registrations (`last_eq_registrations`); `versions_of_reaches` puts the two together along a chain
of steps.
-/

namespace ModelRegistry
namespace Store

/-- The number that the next registration gets, when the registrations so far leave room for it. -/
theorem next_eq_registrations {h : History} {s : Store} (hreach : Reaches h s) {name : String}
    (hroom : h.registrations name + 1 < UInt32.size) :
    (s.next name).toNat = h.registrations name + 1 := by
  rw [next, UInt32.toNat_add, last_eq_registrations hreach (Nat.lt_of_succ_lt hroom)]
  exact Nat.mod_eq_of_lt hroom

/-- The versions handed out for a name count up from one. -/
theorem versions_of_reaches {h : History} {s : Store} (hreach : Reaches h s) {name : String}
    (hcount : h.registrations name < UInt32.size) :
    (h.filterMap (Exchange.registered? name)).map UInt32.toNat =
      List.range' 1 (h.registrations name) := by
  induction hreach with
  | start => rfl
  | @step h s s' e hbefore hstep ih =>
    -- There were no more registrations before, so the earlier numbers had room as well.
    have hle := History.registrations_le_append h [e] name
    have hearlier := ih (Nat.lt_of_le_of_lt hle hcount)
    rw [History.registrations_concat] at hcount ⊢
    cases hreg : e.registered? name with
    | none => simpa [hreg] using hearlier
    | some version =>
      have hroom : h.registrations name + 1 < UInt32.size := by simpa [hreg] using hcount
      have hversion : version.toNat = 1 + h.registrations name := by
        rw [hstep.registered?_eq hreg, next_eq_registrations hbefore hroom, Nat.add_comm]
      simp [hreg, hearlier, hversion, List.range'_concat]

/-- No two registrations of a name have returned the same version. -/
theorem eq_of_registered {h : History} {s : Store} (hreach : Reaches h s) {name : String}
    (hcount : h.registrations name < UInt32.size) {a b : Exchange} (ha : a ∈ h) (hb : b ∈ h)
    {version : UInt32} (hav : a.registered? name = some version)
    (hbv : b.registered? name = some version) : a = b := by
  have hnodup : (h.filterMap (Exchange.registered? name)).Nodup := by
    apply List.Nodup.of_map UInt32.toNat
    rw [versions_of_reaches hreach hcount]
    exact List.nodup_range'
  have hpairs := List.pairwise_filterMap.1 hnodup
  have hsymm : Std.Symm fun a b : Exchange => ∀ v, a.registered? name = some v →
      ∀ w, b.registered? name = some w → v ≠ w :=
    ⟨fun _ _ hne w hw v hv => (hne v hv w hw).symm⟩
  by_contra hne
  exact hpairs.forall ha hb hne version hav version hbv rfl

/-- A registration with a name and a path is accepted, with the number after the last one. -/
theorem register_answer (s : Store) {name path : String} (active : Bool)
    (description appInfo : String) (hname : name ≠ "") (hpath : path ≠ "") :
    (backend (.register name path active description appInfo) s).1 = .ok (s.next name) := by
  show (s.register name path active description appInfo).1 = _
  rw [register, if_neg hname, if_neg hpath]
  rfl

/-- **No number is used twice.**  The versions that the registrations of a name have returned are 1,
2, 3 and so on in this order, and the next one, if there is a number left, will be accepted with the
number that follows. -/
theorem versions_count_registrations (cs : List Call) (name : String)
    (hcount : (run cs).1.registrations name < UInt32.size) :
    ((run cs).1.filterMap (Exchange.registered? name)).map UInt32.toNat =
        List.range' 1 ((run cs).1.registrations name) ∧
      ∀ path active description appInfo, name ≠ "" → path ≠ "" →
        (run cs).1.registrations name + 1 < UInt32.size →
        ∃ version : UInt32,
          (backend (.register name path active description appInfo) (run cs).2).1 = .ok version ∧
            version.toNat = (run cs).1.registrations name + 1 := by
  refine ⟨versions_of_reaches (reaches_run cs) hcount, ?_⟩
  intro path active description appInfo hname hpath hroom
  exact ⟨_, register_answer _ active description appInfo hname hpath,
    next_eq_registrations (reaches_run cs) hroom⟩

/-- All versions are deleted, the newest first and the active one by force, between refused
registrations and those of another name: the count goes on. -/
theorem versions_count_registrations_after_deletion :
    let cs : List Call :=
      [.register "m" "/a" false "" "", .register "m" "/b" true "" "", .register "m" "" true "" "",
        .register "n" "/a" true "" "", .delete "m" 2 false, .delete "m" 2 true, .delete "m" 1 false,
        .register "m" "/c" true "" "", .delete "m" 3 true]
    (run cs).1.registrations "m" < UInt32.size ∧
      ((run cs).1.filterMap (Exchange.registered? "m")).map UInt32.toNat = [1, 2, 3] ∧
      ∃ version : UInt32, (backend (.register "m" "/d" false "" "") (run cs).2).1 = .ok version ∧
        version.toNat = 4 := by
  intro cs
  have hthree : (run cs).1.registrations "m" = 3 := by decide
  have hcount : (run cs).1.registrations "m" < UInt32.size := by rw [hthree]; decide
  obtain ⟨hversions, hnext⟩ := versions_count_registrations cs "m" hcount
  rw [hthree] at hversions hnext
  exact ⟨hcount, hversions,
    hnext "/d" false "" "" (by decide) (by decide) (by decide)⟩

end Store
end ModelRegistry
