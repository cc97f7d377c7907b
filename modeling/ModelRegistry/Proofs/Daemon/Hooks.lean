import ModelRegistry.Proofs.Daemon.Serving
import ModelRegistry.Proofs.Lifecycle.Journal

/-!
# The hooks of the model service

What the three hooks of the model service do to a context, on any bus.  The bus is given a journal
(`Bus.noted`), because what was published and withdrawn is the bus's own affair: nothing in a
context shows it.  Each hook does the same on the bus with a journal as on the bus without, and adds
to the notes what it asks of the bus (`probe_noted`, `init_noted`, `exit_noted`).

The events of a service are counted exactly: `Service.Complete` says that a service has the handlers
of all methods and no other, and a service object that comes without handlers is made complete by
attaching them.
-/

namespace ModelRegistry

variable {β σ : Type}

/-! ## Complete services -/

/-- A name that was not there is set behind all others. -/
theorem Table.names_set_of_find?_eq_none {α : Type} {t : Table α} {name : String}
    (h : t.find? name = none) (value : α) : (t.set name value).names = t.names ++ [name] := by
  obtain ⟨es⟩ := t
  simp only [find?, Option.map_eq_none_iff] at h
  simp only [names, set]
  induction es with
  | nil => rfl
  | cons e es ih =>
    by_cases hkey : e.1 = name
    · simp [hkey] at h
    · rw [List.find?_cons_of_neg (by simpa using hkey)] at h
      simp [setIn, hkey, ih h]

namespace Service

/-- The handlers of all methods are attached, each to its event, and no other. -/
structure Complete (s : Service σ) (backend : Backend σ) : Prop where
  events : s.handlers.names = Method.all.map Method.event
  answers : ∀ m, s.Answers backend m

end Service

namespace Handlers

theorem names_of_attach {ops : Operations σ} {rows : List (Row σ)} {s s' : Service σ}
    (h : attach ops rows s = (.ok (), s')) :
    s'.handlers.names = s.handlers.names ++ rows.map Row.event := by
  induction rows generalizing s with
  | nil =>
    cases h
    simp
  | cons r rows ih =>
    cases htaken : s.isAttached r.event with
    | true =>
      rw [attach_cons_of_taken ops s htaken] at h
      cases h
    | false =>
      rw [attach_cons_of_free ops s htaken] at h
      have hfree : s.handlers.find? r.event = none := by
        simpa [Service.isAttached, Table.contains] using htaken
      rw [ih h, Table.names_set_of_find?_eq_none hfree, List.append_assoc]
      rfl

/-- A service object without handlers is made complete. -/
theorem exists_attachAll (backend : Backend σ) {s : Service σ} (h : s.handlerCount = 0) :
    ∃ s', attachAll backend s = (.ok (), s') ∧ s'.Complete backend := by
  have hempty : s.handlers.entries = [] := List.length_eq_zero_iff.1 h
  have hall := attachAll_of_free (s := s) backend fun m => by
    simp [Service.isAttached, Table.contains, Table.find?, hempty]
  refine ⟨_, hall, ?_, answers_of_attachAll hall⟩
  rw [names_of_attach (attachAll_eq_ok_iff.1 hall), Table.names, hempty, events_table]
  rfl

end Handlers

/-! ## Buses with a journal -/

/-- What was asked of a bus, and whether it was granted. -/
inductive BusNote
  | boot
  | acquire (interface : String) (granted : Bool)
  | publish (objectPath : String) (granted : Bool)
  | withdraw (objectPath : String) (granted : Bool)
  deriving DecidableEq, Repr

namespace BusNote

/-- How often a service was published. -/
def publications (notes : List BusNote) : Nat :=
  notes.countP fun
    | publish _ granted => granted
    | _ => false

/-- How often it was asked to withdraw a service. -/
def withdrawals (notes : List BusNote) : Nat :=
  notes.countP fun
    | withdraw .. => true
    | _ => false

@[simp] theorem publications_append (notes later : List BusNote) :
    publications (notes ++ later) = publications notes + publications later := List.countP_append

@[simp] theorem withdrawals_append (notes later : List BusNote) :
    withdrawals (notes ++ later) = withdrawals notes + withdrawals later := List.countP_append

end BusNote

open BusNote (publications withdrawals)

namespace Bus

/-- Service objects come without handlers. -/
def HandsOutBare (bus : Bus β σ) : Prop :=
  ∀ interface b service, (bus.acquire interface b).1 = .ok service → service.handlerCount = 0

/-- The same bus, which also writes down what is asked of it. -/
def noted (bus : Bus β σ) : Bus (Noted BusNote β) σ where
  boot b := ⟨bus.boot b.state, b.notes ++ [.boot]⟩
  acquire interface b :=
    let (answer, state) := bus.acquire interface b.state
    (answer, ⟨state, b.notes ++ [.acquire interface answer.isOk]⟩)
  publish service objectPath b :=
    let (answer, state) := bus.publish service objectPath b.state
    (answer, ⟨state, b.notes ++ [.publish objectPath answer.isOk]⟩)
  withdraw objectPath b :=
    let (answer, state) := bus.withdraw objectPath b.state
    (answer, ⟨state, b.notes ++ [.withdraw objectPath answer.isOk]⟩)

end Bus

/-! ## Hooks -/

theorem Context.run_onBus {α : Type} (f : β → α × β) (c : Context β σ) :
    (onBus f).run c = ⟨(f c.bus).1, { c with bus := (f c.bus).2 }, []⟩ := rfl

namespace ModelModule

variable (bus : Bus β σ) (backend : Backend σ) (c : Context β σ) (notes : List BusNote)

/-- The probe fails and keeps the services, or it publishes a complete one and keeps that. -/
theorem probe_noted (hbare : bus.HandsOutBare) :
    let o := (probe bus backend).run c
    ∃ added, (probe bus.noted backend).run (c.beside notes) =
        ⟨o.value, o.state.beside (notes ++ added), o.events⟩ ∧
      o.state.backend = c.backend ∧ withdrawals added = 0 ∧
      ((∃ fault, o.value = .error fault ∧ o.state.services = c.services ∧ publications added = 0) ∨
        (o.value = .ok () ∧
          (∃ service, service.Complete backend ∧
            o.state.services = c.services.set modelObjectPath service) ∧
          publications added = 1)) := by
  intro o
  simp only [o, probe, Action.run_bind, Context.run_onBus, Bus.noted, Context.beside]
  cases hacquire : (bus.acquire modelInterface c.bus).1 with
  | error e =>
    refine ⟨[.acquire modelInterface false], ?_, rfl, rfl, .inl ⟨_, rfl, rfl, rfl⟩⟩
    rfl
  | ok service =>
    -- The object has no handlers yet, so attaching them cannot fail; only the bus can.
    obtain ⟨attached, hattach, hcomplete⟩ :=
      Handlers.exists_attachAll backend (hbare _ _ _ hacquire)
    simp only [hattach, Action.run_bind, Context.run_onBus]
    cases hpublish :
        (bus.publish attached modelObjectPath (bus.acquire modelInterface c.bus).2).1 with
    | error e =>
      refine ⟨[.acquire modelInterface true, .publish modelObjectPath false], ?_, rfl, rfl,
        .inl ⟨_, rfl, rfl, rfl⟩⟩
      simp only [List.append_assoc]
      rfl
    | ok =>
      refine ⟨[.acquire modelInterface true, .publish modelObjectPath true], ?_, rfl, rfl,
        .inr ⟨rfl, ⟨attached, hcomplete, rfl⟩, rfl⟩⟩
      simp only [List.append_assoc]
      rfl

/-- Making the bus ready leaves the services as they are. -/
theorem init_noted :
    (init bus.noted).run (c.beside notes) =
        ⟨(), ((init bus).run c).state.beside (notes ++ [.boot]), ((init bus).run c).events⟩ ∧
      ((init bus).run c).state.services = c.services := ⟨rfl, rfl⟩

/-- On exit the service is taken away, and withdrawn if it was there, whatever the bus answers. -/
theorem exit_noted :
    let o := (exit bus).run c
    ∃ added, (exit bus.noted).run (c.beside notes) =
        ⟨(), o.state.beside (notes ++ added), o.events⟩ ∧
      o.state.services = c.services.erase modelObjectPath ∧ publications added = 0 ∧
      withdrawals added = if (c.service? modelObjectPath).isSome then 1 else 0 := by
  intro o
  let taken : Context β σ := { c with services := c.services.erase modelObjectPath }
  have htake : (Action.step (Context.takeService modelObjectPath)).run c =
      ⟨c.service? modelObjectPath, taken, []⟩ := rfl
  have htakeNoted : (Action.step (Context.takeService modelObjectPath)).run (c.beside notes) =
      ⟨c.service? modelObjectPath, taken.beside notes, []⟩ := rfl
  simp only [o, exit, Action.run_bind, htake, htakeNoted]
  cases hservice : c.service? modelObjectPath with
  | none => exact ⟨[], by simp [Action.run_pure], rfl, rfl, rfl⟩
  | some service =>
    simp only [Action.run_bind, Context.run_onBus, Bus.noted, Context.beside]
    cases hwithdraw : (bus.withdraw modelObjectPath c.bus).1 with
    | error e => exact ⟨[.withdraw modelObjectPath false], rfl, rfl, rfl, rfl⟩
    | ok => exact ⟨[.withdraw modelObjectPath true], rfl, rfl, rfl, rfl⟩

end ModelModule
end ModelRegistry
