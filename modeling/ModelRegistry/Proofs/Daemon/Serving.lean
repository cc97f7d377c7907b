import ModelRegistry.Daemon
import ModelRegistry.Proofs.Daemon.Handlers

/-!
# The daemon serves its backend

Once started, the daemon answers every call of the model service with what its backend answers.
That is `Daemon.Serves`: the service is where messages are addressed to, and under the event of each
method it has the handler of that method.  The events are told apart by their names alone, so
attaching the handlers one after the other never meets an event that is taken.

On another bus the probe may fail, and then nothing is published.  What holds on every bus is
`Daemon.Answers`: each service that is published answers calls from the backend.  So a message to
any object is either such a call, or it is refused and the backend hears nothing of it
(`dispatch_of_answers`).
-/

namespace ModelRegistry

variable {β σ : Type}

/-! ## Handlers -/

namespace Service

/-- The handler of a method is attached to its event. -/
def Answers (s : Service σ) (backend : Backend σ) (m : Method) : Prop :=
  ∃ id, s.handlers.find? m.event = some ⟨id, Handlers.handler (.of backend) m⟩

/-- A call goes to the backend and the reply carries its answer. -/
theorem invoke_of_answers {s : Service σ} {backend : Backend σ} {c : Call}
    (h : s.Answers backend c.method) (state : σ) :
    s.invoke c state = (.ofAnswer c (backend c state).1, (backend c state).2) := by
  obtain ⟨id, hfind⟩ := h
  simp only [invoke, Call.event, hfind, Handlers.handler_apply]

end Service

namespace Handlers

section Attach

variable (ops : Operations σ) {r : Row σ} {rows : List (Row σ)} (s : Service σ)

/-- A free event gets its handler, and the others follow. -/
theorem attach_cons_of_free (h : s.isAttached r.event = false) :
    attach ops (r :: rows) s =
      attach ops rows
        { s with handlers := s.handlers.set r.event ⟨s.nextId, r.handle ops⟩
                 nextId := s.nextId + 1 } := by
  simp [attach, Service.attach, h]

/-- An event that is taken ends it. -/
theorem attach_cons_of_taken (h : s.isAttached r.event = true) :
    attach ops (r :: rows) s = (.error (.alreadyAttached r.event), s) := by
  simp [attach, Service.attach, h]

/-- Events of other rows are left alone, whatever comes of it. -/
theorem find?_attach_of_ne {event : String} (h : ∀ r ∈ rows, r.event ≠ event) :
    (attach ops rows s).2.handlers.find? event = s.handlers.find? event := by
  induction rows generalizing s with
  | nil => rfl
  | cons r rows ih =>
    obtain ⟨hr, hrows⟩ := List.forall_mem_cons.1 h
    cases htaken : s.isAttached r.event with
    | true => rw [attach_cons_of_taken ops s htaken]
    | false => rw [attach_cons_of_free ops s htaken, ih _ hrows, Table.find?_set, if_neg hr]

/-- Once some handlers have been attached, each is found under its event. -/
theorem find?_attach_of_mem (hnodup : (rows.map Row.event).Nodup)
    (h : (attach ops rows s).1 = .ok ()) (hr : r ∈ rows) :
    ∃ id, (attach ops rows s).2.handlers.find? r.event = some ⟨id, r.handle ops⟩ := by
  induction rows generalizing s with
  | nil => cases hr
  | cons first rows ih =>
    obtain ⟨hfirst, hrows⟩ := List.nodup_cons.1 hnodup
    cases htaken : s.isAttached first.event with
    | true =>
      rw [attach_cons_of_taken ops s htaken] at h
      cases h
    | false =>
      rw [attach_cons_of_free ops s htaken] at h ⊢
      rcases List.mem_cons.1 hr with rfl | hr
      · refine ⟨s.nextId, ?_⟩
        rw [find?_attach_of_ne _ _ fun other hother heq =>
          hfirst (List.mem_map.2 ⟨other, hother, heq⟩), Table.find?_set, if_pos rfl]
      · exact ih _ hrows h hr

/-- Events that are free get their handlers. -/
theorem attach_eq_ok_of_free (hnodup : (rows.map Row.event).Nodup)
    (hfree : ∀ r ∈ rows, s.isAttached r.event = false) : (attach ops rows s).1 = .ok () := by
  induction rows generalizing s with
  | nil => rfl
  | cons r rows ih =>
    obtain ⟨hr, hrows⟩ := List.nodup_cons.1 hnodup
    obtain ⟨hnone, hfree⟩ := List.forall_mem_cons.1 hfree
    rw [attach_cons_of_free ops s hnone]
    refine ih _ hrows fun other hother => ?_
    have hne : ¬ r.event = other.event := fun heq =>
      hr (List.mem_map.2 ⟨other, hother, heq.symm⟩)
    simpa [Service.isAttached, Table.contains, hne] using hfree other hother

end Attach

section AttachAll

variable {backend : Backend σ} {s s' : Service σ}

/-- All handlers are attached just when those of the table are. -/
theorem attachAll_eq_ok_iff :
    attachAll backend s = (.ok (), s') ↔ attach (.of backend) table s = (.ok (), s') := by
  unfold attachAll
  split
  · next h => rw [h]
  · next h => simp [h]

theorem answers_of_attachAll (h : attachAll backend s = (.ok (), s')) (m : Method) :
    s'.Answers backend m := by
  have hattach := attachAll_eq_ok_iff.1 h
  have hfound := find?_attach_of_mem (.of backend) s nodup_events_table
    (congrArg Prod.fst hattach) (mem_table_iff.2 ⟨m, rfl⟩)
  rwa [hattach] at hfound

/-- All handlers are attached where no event is taken. -/
theorem attachAll_of_free (backend : Backend σ)
    (hfree : ∀ m : Method, s.isAttached m.event = false) :
    attachAll backend s = (.ok (), (attach (.of backend) table s).2) := by
  refine attachAll_eq_ok_iff.2 (Prod.ext (attach_eq_ok_of_free _ s nodup_events_table ?_) rfl)
  intro r hr
  obtain ⟨m, rfl⟩ := mem_table_iff.1 hr
  exact hfree m

/-- So they are on an interface that has none. -/
theorem attachAll_new (backend : Backend σ) (interface : String) :
    ∃ s, attachAll backend (Service.new interface) = (.ok (), s) ∧ ∀ m, s.Answers backend m := by
  have hall := attachAll_of_free (s := Service.new interface) backend fun _ => rfl
  exact ⟨_, hall, answers_of_attachAll hall⟩

end AttachAll

end Handlers

/-! ## Dispatching -/

namespace Daemon

/-- Calls of the model service reach the backend. -/
def Serves (backend : Backend σ) (d : Daemon β σ) : Prop :=
  ∃ service, d.context.service? modelObjectPath = some service ∧ ∀ m, service.Answers backend m

/-- A daemon that serves a backend answers as the backend does. -/
theorem dispatch_of_serves {backend : Backend σ} {d : Daemon β σ} (h : d.Serves backend)
    (c : Call) :
    d.dispatch (.toModel c) =
      (.ofAnswer c (backend c d.context.backend).1,
        { d with context := { d.context with backend := (backend c d.context.backend).2 } }) := by
  obtain ⟨service, hservice, hanswers⟩ := h
  simp only [dispatch, Context.dispatch, Message.toModel, hservice,
    Service.invoke_of_answers (hanswers c.method)]

/-- Whatever is published answers from the backend. -/
def Answers (backend : Backend σ) (d : Daemon β σ) : Prop :=
  ∀ objectPath service, d.context.service? objectPath = some service →
    ∀ m, service.Answers backend m

/-- The reply to a message to an object that is not there. -/
def noObject (objectPath : String) : Reply :=
  .error .unavailable ("no object at '" ++ objectPath ++ "'")

/-- A message to an object that is there is one call of the backend; any other is refused and
changes nothing. -/
theorem dispatch_of_answers {backend : Backend σ} {d : Daemon β σ} (h : d.Answers backend)
    (m : Message) :
    d.dispatch m =
      if (d.context.service? m.objectPath).isSome then
        (.ofAnswer m.call (backend m.call d.context.backend).1,
          { d with context :=
              { d.context with backend := (backend m.call d.context.backend).2 } })
      else (noObject m.objectPath, d) := by
  unfold dispatch Context.dispatch
  cases hservice : d.context.service? m.objectPath with
  | none => rfl
  | some service =>
    simp only [Service.invoke_of_answers (h m.objectPath service hservice m.call.method)]
    rfl

end Daemon

/-! ## Starting -/

/-- A module on its own whose probe succeeds. -/
theorem Modules.probeAll_single {hooks : Module β σ} {c c' : Context β σ} {events : List Event}
    (h : hooks.probe.run c = ⟨.ok (), c', events⟩) :
    (probeAll [⟨hooks, .unregistered⟩]).run c = ⟨[⟨hooks, .probed⟩], c', events⟩ := by
  simp only [probeAll, each, probe, if_true, Action.run_bind, h, Action.run_pure, List.append_nil]

namespace Daemon

/-- Working on the modules leaves what the work makes of them and of the context. -/
theorem onModules_state (f : Modules β σ → Action (Context β σ) (Modules β σ)) (d : Daemon β σ) :
    ((onModules f).run d).state =
      ⟨((f d.modules).run d.context).state, ((f d.modules).run d.context).value⟩ := rfl

theorem start_state (d : Daemon β σ) :
    (start.run d).state =
      ((onModules Modules.initAll).run ((onModules Modules.probeAll).run d).state).state := rfl

/-- Starting a daemon of one module probes that module and then makes it active. -/
theorem start_single {hooks : Module β σ} {c c' : Context β σ} {events : List Event}
    (h : hooks.probe.run c = ⟨.ok (), c', events⟩) :
    (start.run ⟨c, [⟨hooks, .unregistered⟩]⟩).state =
      ⟨(hooks.init.run c').state, [⟨hooks, .active⟩]⟩ := by
  rw [start_state, onModules_state Modules.probeAll, Modules.probeAll_single h]
  rfl

/-- On a bus of its own the probe publishes a service with all handlers. -/
theorem probe_run (backend : Backend σ) (s : σ) :
    ∃ service : Service σ, (∀ m, service.Answers backend m) ∧
      (ModelModule.probe LocalBus.bus backend).run (.new .new s) =
        ⟨.ok (), ⟨⟨false, [modelObjectPath]⟩, s, Table.empty.set modelObjectPath service⟩, []⟩ := by
  obtain ⟨service, hattach, hanswers⟩ := Handlers.attachAll_new backend modelInterface
  refine ⟨service, hanswers, ?_⟩
  have hacquire : (Context.onBus (LocalBus.bus.acquire modelInterface)).run (.new .new s) =
      (⟨.ok (Service.new modelInterface), .new .new s, []⟩ :
        Outcome (Context LocalBus σ) (Except BusError (Service σ))) := rfl
  rw [ModelModule.probe, Action.run_bind, hacquire]
  simp only [hattach]
  rfl

/-- A daemon started on a bus of its own serves its backend, whose state is untouched. -/
theorem serves_start (backend : Backend σ) (s : σ) :
    (start.run (.new LocalBus.bus backend .new s)).state.Serves backend ∧
      (start.run (.new LocalBus.bus backend .new s)).state.context.backend = s := by
  obtain ⟨service, hanswers, hprobe⟩ := probe_run backend s
  have hstart := @start_single _ _ (ModelModule.hooks LocalBus.bus backend) _ _ _ hprobe
  rw [new, Modules.builtIn, Modules.register, List.nil_append, hstart]
  refine ⟨⟨service, ?_, hanswers⟩, rfl⟩
  show (Table.empty.set modelObjectPath service).find? modelObjectPath = some service
  rw [Table.find?_set, if_pos rfl]

/-! ### On any bus -/

/-- A context in which nothing is published, or the model service alone, answering from the
backend. -/
def Probed (backend : Backend σ) (s : σ) (c : Context β σ) : Prop :=
  (∃ b, c = .new b s) ∨
    ∃ b service, (∀ m, service.Answers backend m) ∧
      c = ⟨b, s, Table.empty.set modelObjectPath service⟩

/-- Whatever the bus answers, the probe publishes the model service with all handlers or nothing. -/
theorem probed_probe (bus : Bus β σ) (backend : Backend σ) (b : β) (s : σ) :
    Probed backend s ((ModelModule.probe bus backend).run (.new b s)).state := by
  have hacquire : (Context.onBus (bus.acquire modelInterface)).run (.new b s) =
      (⟨(bus.acquire modelInterface b).1, .new (bus.acquire modelInterface b).2 s, []⟩ :
        Outcome (Context β σ) (Except BusError (Service σ))) := rfl
  rw [ModelModule.probe, Action.run_bind, hacquire]
  generalize (bus.acquire modelInterface b).2 = acquired
  cases (bus.acquire modelInterface b).1 with
  | error e => exact .inl ⟨_, rfl⟩
  | ok service =>
    obtain ⟨result, attached, hattach⟩ :
        ∃ result attached, Handlers.attachAll backend service = (result, attached) := ⟨_, _, rfl⟩
    simp only [hattach]
    cases result with
    | error e => exact .inl ⟨_, rfl⟩
    | ok =>
      have hanswers := Handlers.answers_of_attachAll hattach
      have hpublish : (Context.onBus (bus.publish attached modelObjectPath)).run (.new acquired s) =
          (⟨(bus.publish attached modelObjectPath acquired).1,
            .new (bus.publish attached modelObjectPath acquired).2 s, []⟩ :
            Outcome (Context β σ) (Except BusError Unit)) := rfl
      simp only
      rw [Action.run_bind, hpublish]
      cases (bus.publish attached modelObjectPath acquired).1 with
      | error e => exact .inl ⟨_, rfl⟩
      | ok => exact .inr ⟨_, attached, hanswers, rfl⟩

theorem Probed.init {backend : Backend σ} {s : σ} {c : Context β σ} (h : Probed backend s c)
    (bus : Bus β σ) : Probed backend s ((ModelModule.init bus).run c).state := by
  rcases h with ⟨b, rfl⟩ | ⟨b, service, hanswers, rfl⟩
  · exact .inl ⟨_, rfl⟩
  · exact .inr ⟨_, service, hanswers, rfl⟩

/-- Probing a module on its own leaves what its probe leaves. -/
theorem probeAll_single_state (hooks : Module β σ) (c : Context β σ) :
    ∃ state, ((Modules.probeAll [⟨hooks, .unregistered⟩]).run c).value = [⟨hooks, state⟩] ∧
      ((Modules.probeAll [⟨hooks, .unregistered⟩]).run c).state = (hooks.probe.run c).state := by
  simp only [Modules.probeAll, Modules.each, Modules.probe, if_true, Action.run_bind]
  cases (hooks.probe.run c).value with
  | error fault => exact ⟨.unregistered, rfl, rfl⟩
  | ok => exact ⟨.probed, rfl, rfl⟩

/-- Making a module on its own active leaves what its hook leaves, or changes nothing. -/
theorem initAll_single_state (hooks : Module β σ) (state : ModuleState) (c : Context β σ) :
    ((Modules.initAll [⟨hooks, state⟩]).run c).state =
      if state = .probed then (hooks.init.run c).state else c := by
  simp only [Modules.initAll, Modules.each, Modules.init]
  by_cases h : state = .probed
  · rw [if_pos h, if_pos h]
    rfl
  · rw [if_neg h, if_neg h]
    rfl

/-- A started daemon has the model service, answering from its backend, or nothing at all. -/
theorem probed_start (bus : Bus β σ) (backend : Backend σ) (b : β) (s : σ) :
    Probed backend s (start.run (.new bus backend b s)).state.context := by
  have hprobe := probed_probe bus backend b s
  obtain ⟨state, hvalue, hstate⟩ :=
    probeAll_single_state (ModelModule.hooks bus backend) (.new b s)
  rw [start_state, onModules_state, onModules_state Modules.probeAll]
  let probed :=
    (Modules.probeAll [⟨ModelModule.hooks bus backend, .unregistered⟩]).run (.new b s)
  show Probed backend s ((Modules.initAll probed.value).run probed.state).state
  rw [hvalue, hstate, initAll_single_state]
  split
  · exact hprobe.init bus
  · exact hprobe

/-- Whatever a started daemon has published answers from the backend, whose state is untouched. -/
theorem answers_start (bus : Bus β σ) (backend : Backend σ) (b : β) (s : σ) :
    (start.run (.new bus backend b s)).state.Answers backend ∧
      (start.run (.new bus backend b s)).state.context.backend = s := by
  unfold Answers
  rcases probed_start bus backend b s with ⟨b', hcontext⟩ | ⟨b', service, hanswers, hcontext⟩
  · rw [hcontext]
    refine ⟨?_, rfl⟩
    intro objectPath found hfound
    cases hfound
  · rw [hcontext]
    refine ⟨?_, rfl⟩
    intro objectPath found hfound
    have hset : (Table.empty.set modelObjectPath service).find? objectPath = some found := hfound
    rw [Table.find?_set] at hset
    split at hset
    · rw [← Option.some.inj hset]
      exact hanswers
    · cases hset

end Daemon
end ModelRegistry
