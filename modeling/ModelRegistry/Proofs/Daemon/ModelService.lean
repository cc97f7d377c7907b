import Mathlib.Data.List.Induction
import ModelRegistry.Proofs.Daemon.Hooks
import ModelRegistry.Proofs.Lifecycle.Sweeps
import ModelRegistry.Recorder

/-!
# The model service over the life of a daemon

Four things say whether the model service is there: the state of its module, the services that the
context keeps, the handlers attached to the service, and what was published on the bus.  Each is
changed in another place, and the bus may refuse anything at any time.  `ModelModule.Kept` says that
the four agree.

Every sweep keeps them in agreement (`Kept.treat`), so every command does (`Accord.command`), and a
daemon that starts out in agreement stays so whatever it is told (`accord_after`).
-/

namespace ModelRegistry

variable {β σ : Type}

open BusNote (publications withdrawals)

/-- A module is enabled from when it is probed until it is torn down. -/
def ModuleState.Enabled (s : ModuleState) : Prop := s = .probed ∨ s = .active

instance (s : ModuleState) : Decidable s.Enabled :=
  inferInstanceAs (Decidable (s = .probed ∨ s = .active))

namespace ModelModule

/-- The services of a context and the notes of its bus agree with the state of the module: nothing
is kept and all that was published is withdrawn, or the model service alone is kept, with all its
handlers, and it has been published once more than withdrawn. -/
inductive Kept (backend : Backend σ) (state : ModuleState) (services : Table (Service σ))
    (notes : List BusNote) : Prop
  | nothing (hstate : ¬ state.Enabled) (hservices : services = .empty)
      (hnotes : publications notes = withdrawals notes)
  | published (service : Service σ) (hstate : state.Enabled) (hcomplete : service.Complete backend)
      (hservices : services = Table.empty.set modelObjectPath service)
      (hnotes : publications notes = withdrawals notes + 1)

/-- A probe that fails leaves the services as they are. -/
theorem services_of_probe_error {bus : Bus β σ} {backend : Backend σ} (hbare : bus.HandsOutBare)
    (c : Context β σ) {fault : ModuleError}
    (h : ((probe bus backend).run c).value = .error fault) :
    ((probe bus backend).run c).state.services = c.services := by
  obtain ⟨_, -, -, -, hcases⟩ := probe_noted bus backend c [] hbare
  rcases hcases with ⟨_, -, hsame, -⟩ | ⟨hok, -⟩
  · exact hsame
  · rw [h] at hok
    cases hok

/-- A sweep does to the module on the bus with a journal what it does without, and leaves everything
in agreement. -/
def StaysKept (bus : Bus β σ) (backend : Backend σ) (w : Sweep) (state : ModuleState)
    (c : Context β σ) (notes : List BusNote) : Prop :=
  let o := (w.treat ⟨hooks bus backend, state⟩).run c
  ∃ added, (w.treat ⟨hooks bus.noted backend, state⟩).run (c.beside notes) =
      ⟨⟨hooks bus.noted backend, o.value.state⟩, o.state.beside (notes ++ added), o.events⟩ ∧
    Kept backend o.value.state o.state.services (notes ++ added)

namespace Kept

variable {backend : Backend σ} {state : ModuleState} {c : Context β σ} {notes : List BusNote}

/-- A probe either changes nothing of what is kept, or it publishes the model service. -/
theorem probe {bus : Bus β σ} (hbare : bus.HandsOutBare)
    (h : Kept backend .unregistered c.services notes) :
    StaysKept bus backend .probe .unregistered c notes := by
  cases h with
  | published _ hstate => exact absurd hstate (by decide)
  | nothing hstate hservices hnotes =>
    obtain ⟨added, hrun, -, hwithdrawals, hcases⟩ := probe_noted bus backend c notes hbare
    refine ⟨added, ?_⟩
    rcases hcases with ⟨fault, hfault, hsame, hpublications⟩ |
      ⟨hok, ⟨service, hcomplete, hset⟩, hpublications⟩
    · rw [Sweep.run_probe_of_error (hooks bus backend) c hfault,
        Sweep.run_probe_of_error (hooks bus.noted backend) _ (by rw [hooks, hrun, hfault])]
      refine ⟨by simp only [hooks, hrun], .nothing hstate (hsame.trans hservices) ?_⟩
      simp [hnotes, hpublications, hwithdrawals]
    · rw [Sweep.run_probe_of_ok (hooks bus backend) c hok,
        Sweep.run_probe_of_ok (hooks bus.noted backend) _ (by rw [hooks, hrun, hok])]
      rw [hservices] at hset
      refine ⟨by simp only [hooks, hrun], .published service (.inl rfl) hcomplete hset ?_⟩
      simp [hnotes, hpublications, hwithdrawals]

/-- The model service is kept when its module is made active. -/
theorem init (bus : Bus β σ) (h : Kept backend .probed c.services notes) :
    StaysKept bus backend .init .probed c notes := by
  cases h with
  | nothing hstate => exact absurd (by decide) hstate
  | published service _ hcomplete hservices hnotes =>
    obtain ⟨hrun, hsame⟩ := init_noted bus c notes
    refine ⟨[.boot], ?_, .published service (.inr rfl) hcomplete (hsame.trans hservices) ?_⟩
    · rw [Sweep.run_init, hooks, hrun]
      rfl
    · simpa [publications, withdrawals] using hnotes

/-- On exit the model service goes, from the context and from the bus. -/
theorem exit (bus : Bus β σ) (hstate : state.Enabled) (h : Kept backend state c.services notes) :
    StaysKept bus backend .exit state c notes := by
  cases h with
  | nothing hnot => exact absurd hstate hnot
  | published service _ _ hservices hnotes =>
    obtain ⟨added, hrun, herased, hpublications, hwithdrawals⟩ := exit_noted bus c notes
    have hthere : (c.service? modelObjectPath).isSome := by simp [Context.service?, hservices]
    rw [if_pos hthere] at hwithdrawals
    refine ⟨added, ?_⟩
    rw [Sweep.run_exit (hooks bus backend) c hstate,
      Sweep.run_exit (hooks bus.noted backend) _ hstate]
    have hdown : ¬ ModuleState.tornDown.Enabled := by decide
    refine ⟨by simp only [hooks, hrun], .nothing hdown ?_ ?_⟩
    · rw [hooks, herased, hservices]
      rfl
    · simp [hnotes, hpublications, hwithdrawals]

/-- Whatever the sweep, what is kept stays in agreement. -/
theorem treat {bus : Bus β σ} (hbare : bus.HandsOutBare) (w : Sweep)
    (h : Kept backend state c.services notes) : StaysKept bus backend w state c notes := by
  by_cases hdue : w.concerns state = true
  · cases w with
    | probe =>
      obtain rfl : state = .unregistered := of_decide_eq_true hdue
      exact h.probe hbare
    | init =>
      obtain rfl : state = .probed := of_decide_eq_true hdue
      exact h.init bus
    | exit => exact h.exit bus (of_decide_eq_true hdue)
  · -- The bus hears nothing of a sweep that passes the module over.
    have hpassed : w.concerns state = false := by simpa using hdue
    refine ⟨[], ?_⟩
    rw [Sweep.treat_of_not_concerns (e := ⟨hooks bus backend, state⟩) hpassed,
      Sweep.treat_of_not_concerns (e := ⟨hooks bus.noted backend, state⟩) hpassed,
      Action.run_pure, Action.run_pure, List.append_nil]
    exact ⟨rfl, h⟩

/-- The model service is there exactly if its module is enabled. -/
theorem isSome_service_iff (h : Kept backend state c.services notes) :
    (c.service? modelObjectPath).isSome ↔ state.Enabled := by
  cases h with
  | nothing hstate hservices => simp [Context.service?, hservices, hstate]
  | published service hstate _ hservices => simp [Context.service?, hservices, hstate]

/-- No other object is there. -/
theorem eq_of_service (h : Kept backend state c.services notes) {objectPath : String}
    {service : Service σ} (hservice : c.service? objectPath = some service) :
    objectPath = modelObjectPath ∧ service.Complete backend := by
  cases h with
  | nothing _ hservices => simp [Context.service?, hservices] at hservice
  | published kept _ hcomplete hservices =>
    rw [Context.service?, hservices, Table.find?_set] at hservice
    by_cases hpath : modelObjectPath = objectPath
    · rw [if_pos hpath] at hservice
      exact ⟨hpath.symm, Option.some.inj hservice ▸ hcomplete⟩
    · simp [hpath] at hservice

/-- What has been published and not withdrawn is what is there. -/
theorem balance (h : Kept backend state c.services notes) :
    (publications notes : Int) - withdrawals notes =
      if (c.service? modelObjectPath).isSome then 1 else 0 := by
  simp only [h.isSome_service_iff]
  cases h with
  | nothing hstate _ hnotes =>
    rw [if_neg hstate]
    omega
  | published _ hstate _ _ hnotes =>
    rw [if_pos hstate]
    omega

end Kept
end ModelModule

/-! ## Commands -/

/-- A call leaves the services where they are. -/
theorem Context.services_dispatch (m : Message) (c : Context β σ) :
    (c.dispatch m).2.services = c.services := by
  rw [dispatch]
  cases c.service? m.objectPath <;> rfl

namespace Daemon

/-- What a daemon can be told: to start, to stop, to go through its modules in one of the ways that
starting and stopping are made of, and to answer a call. -/
inductive Command
  | start
  | stop
  | sweep (w : Sweep)
  | dispatch (m : Message)

/-- What a command leaves of a daemon. -/
def perform : Command → Daemon β σ → Daemon β σ
  | .start, d => (start.run d).state
  | .stop, d => (stop.run d).state
  | .sweep w, d => ((onModules (Modules.sweep w)).run d).state
  | .dispatch m, d => (d.dispatch m).2

/-- What commands one after the other leave of a daemon. -/
def after (commands : List Command) (d : Daemon β σ) : Daemon β σ :=
  commands.foldl (fun d command => perform command d) d

/-- To start is to probe and then to make active. -/
theorem perform_start (d : Daemon β σ) :
    perform .start d = perform (.sweep .init) (perform (.sweep .probe) d) := rfl

theorem perform_stop (d : Daemon β σ) : perform .stop d = perform (.sweep .exit) d := rfl

/-- A daemon of the model service alone, and the same daemon on the bus with a journal, in which
everything agrees with how far the module has got. -/
structure Accord (bus : Bus β σ) (backend : Backend σ) (state : ModuleState) (notes : List BusNote)
    (d : Daemon β σ) (d' : Daemon (Noted BusNote β) σ) : Prop where
  modules : d.modules = [⟨ModelModule.hooks bus backend, state⟩]
  journaled : d' = ⟨d.context.beside notes, [⟨ModelModule.hooks bus.noted backend, state⟩]⟩
  kept : ModelModule.Kept backend state d.context.services notes

namespace Accord

variable {bus : Bus β σ} {backend : Backend σ} {state : ModuleState} {notes : List BusNote}
  {d : Daemon β σ} {d' : Daemon (Noted BusNote β) σ}

theorem sweep (hbare : bus.HandsOutBare) (h : Accord bus backend state notes d d') (w : Sweep) :
    ∃ state' notes',
      Accord bus backend state' notes' (perform (.sweep w) d) (perform (.sweep w) d') := by
  let o := (w.treat ⟨ModelModule.hooks bus backend, state⟩).run d.context
  obtain ⟨added, hrun, hkept⟩ := h.kept.treat hbare w
  have hvalue : o.value = ⟨ModelModule.hooks bus backend, o.value.state⟩ :=
    congrArg (ModuleEntry.mk · o.value.state) (w.hooks_treat _ d.context)
  have hplain : perform (.sweep w) d = ⟨o.state, [o.value]⟩ := by
    rw [perform, onModules_state, h.modules, Modules.run_sweep_single]
  have hjournaled : perform (.sweep w) d' = ⟨o.state.beside (notes ++ added),
      [⟨ModelModule.hooks bus.noted backend, o.value.state⟩]⟩ := by
    rw [perform, onModules_state, h.journaled, Modules.run_sweep_single, hrun]
  rw [hplain, hjournaled]
  exact ⟨o.value.state, notes ++ added, congrArg (fun e => [e]) hvalue, rfl, hkept⟩

/-- Answering a call touches neither the module nor the bus. -/
theorem dispatch (h : Accord bus backend state notes d d') (m : Message) :
    Accord bus backend state notes (perform (.dispatch m) d) (perform (.dispatch m) d') := by
  obtain ⟨c, modules⟩ := d
  obtain ⟨rfl, rfl, hkept⟩ := h
  refine ⟨rfl, ?_, ?_⟩
  · simp only [perform, Daemon.dispatch, Context.dispatch_beside]
  · simpa only [perform, Daemon.dispatch, Context.services_dispatch] using hkept

/-- Every command keeps everything in agreement. -/
theorem command (hbare : bus.HandsOutBare) (h : Accord bus backend state notes d d')
    (told : Command) :
    ∃ state' notes',
      Accord bus backend state' notes' (perform told d) (perform told d') := by
  cases told with
  | start =>
    simp only [perform_start]
    obtain ⟨_, _, hprobed⟩ := h.sweep hbare .probe
    exact hprobed.sweep hbare .init
  | stop =>
    simp only [perform_stop]
    exact h.sweep hbare .exit
  | sweep w => exact h.sweep hbare w
  | dispatch m => exact ⟨state, notes, h.dispatch m⟩

theorem state?_eq (h : Accord bus backend state notes d d') :
    d.modules.state? ModelModule.name = some state := by
  rw [h.modules]
  rfl

theorem answers (h : Accord bus backend state notes d d') : d.Answers backend :=
  fun _ _ hservice => (h.kept.eq_of_service hservice).2.answers

/-- A message finds an object exactly if it is to the model service and that is enabled. -/
theorem isSome_service_iff (h : Accord bus backend state notes d d') (objectPath : String) :
    (d.context.service? objectPath).isSome ↔ objectPath = modelObjectPath ∧ state.Enabled := by
  constructor
  · intro hsome
    obtain ⟨service, hservice⟩ := Option.isSome_iff_exists.1 hsome
    obtain ⟨rfl, -⟩ := h.kept.eq_of_service hservice
    exact ⟨rfl, h.kept.isSome_service_iff.1 hsome⟩
  · rintro ⟨rfl, hstate⟩
    exact h.kept.isSome_service_iff.2 hstate

end Accord

/-- A new daemon is in agreement, and every command keeps it so. -/
theorem accord_after {bus : Bus β σ} (hbare : bus.HandsOutBare) (backend : Backend σ) (b : β)
    (s : σ) (commands : List Command) :
    ∃ state notes, Accord bus backend state notes (after commands (.new bus backend b s))
      (after commands (.new bus.noted backend ⟨b, []⟩ s)) := by
  -- Both runs are taken along together, because only the one with the journal has the notes.
  induction commands using List.reverseRecOn with
  | nil => exact ⟨.unregistered, [], rfl, rfl, .nothing (by decide) rfl rfl⟩
  | append_singleton commands command ih =>
    obtain ⟨state, notes, hbefore⟩ := ih
    simp only [after, List.foldl_append]
    exact hbefore.command hbare command

/-- **The model service is consistent over the life of a daemon.**  On a bus that hands out service
objects without handlers and may otherwise answer what it likes, and after any commands: the daemon
is the one on the same bus with a journal, whose notes say what was asked of the bus.  The model
service is there exactly if its module is probed or active, and then with the handlers of all
methods and no other.  It has been published once more than it was withdrawn if it is there, and
else just as often.  A probe that fails leaves the services of any context as they are.  And a
message to the model service, while that is there, is answered by one call of the backend; any other
is refused as unavailable and leaves everything as it is, so the backend hears nothing of it. -/
theorem model_service_consistent {bus : Bus β σ} (hbare : bus.HandsOutBare) (backend : Backend σ)
    (b : β) (s : σ) (commands : List Command) :
    let d := after commands (.new bus backend b s)
    let d' := after commands (.new bus.noted backend ⟨b, []⟩ s)
    let notes := d'.context.bus.notes
    let state := d.modules.state? ModelModule.name
    let enabled := state = some .probed ∨ state = some .active
    (d'.context = d.context.beside notes ∧ d'.modules.states = d.modules.states) ∧
    ((d.context.service? modelObjectPath).isSome ↔ enabled) ∧
    (∀ service, d.context.service? modelObjectPath = some service → service.Complete backend) ∧
    ((publications notes : Int) - withdrawals notes =
      if (d.context.service? modelObjectPath).isSome then 1 else 0) ∧
    (∀ (c : Context β σ) fault, ((ModelModule.probe bus backend).run c).value = .error fault →
      ((ModelModule.probe bus backend).run c).state.services = c.services) ∧
    ∀ m : Message,
      (m.objectPath = modelObjectPath ∧ enabled → d.dispatch m =
        (.ofAnswer m.call (backend m.call d.context.backend).1,
          { d with context :=
              { d.context with backend := (backend m.call d.context.backend).2 } })) ∧
      (¬ (m.objectPath = modelObjectPath ∧ enabled) → d.dispatch m =
        (.error .unavailable ("no object at '" ++ m.objectPath ++ "'"), d)) := by
  intro d d' notes state enabled
  obtain ⟨reached, noted, h⟩ := accord_after hbare backend b s commands
  have hnotes : notes = noted := congrArg (fun d' => d'.context.bus.notes) h.journaled
  have henabled : enabled ↔ reached.Enabled := by
    simp only [enabled, state, d, h.state?_eq, Option.some.injEq, ModuleState.Enabled]
  refine ⟨⟨?_, ?_⟩, ?_, ?_, ?_, ?_, ?_⟩
  · rw [hnotes]
    exact congrArg (·.context) h.journaled
  · simp only [d, d', h.journaled, h.modules]
    rfl
  · rw [henabled]
    exact h.kept.isSome_service_iff
  · exact fun service hservice => (h.kept.eq_of_service hservice).2
  · rw [hnotes]
    exact h.kept.balance
  · exact fun c fault => ModelModule.services_of_probe_error hbare c
  · intro m
    rw [henabled, ← h.isSome_service_iff m.objectPath, dispatch_of_answers h.answers m]
    exact ⟨fun hthere => if_pos hthere, fun hgone => if_neg hgone⟩

/-- A bus that refuses the first service object, the first publication and every withdrawal. -/
def grudgingBus : Bus Nat (Recorded Unit) where
  boot asked := asked
  acquire interface asked :=
    (if asked = 0 then .error (.unavailable interface) else .ok (.new interface), asked + 1)
  publish _ objectPath asked :=
    (if asked = 2 then .error (.pathInUse objectPath) else .ok (), asked + 1)
  withdraw objectPath asked := (.error (.notPublished objectPath), asked + 1)

/-- The third start succeeds on such a bus: then a call is answered, and after the stop it is not,
although the bus refuses to withdraw the service. -/
theorem model_service_consistent_on_grudging_bus :
    let backend : Backend (Recorded Unit) := (Backend.refusing []).recorded
    let started := after [.stop, .start, .start, .start] (.new grudgingBus backend 0 (.new ()))
    let stopped :=
      after [.stop, .start, .start, .start, .stop] (.new grudgingBus backend 0 (.new ()))
    let m := Message.toModel (.getAll "m")
    grudgingBus.HandsOutBare ∧
      started.modules.state? ModelModule.name = some .active ∧
      (started.context.service? modelObjectPath).isSome ∧
      (started.dispatch m).1 = .info "[]" .ok ∧
      (started.dispatch m).2.context.backend.calls = [m.call] ∧
      stopped.modules.state? ModelModule.name = some .tornDown ∧
      stopped.dispatch m = (noObject modelObjectPath, stopped) := by
  intro backend started stopped m
  have hbare : grudgingBus.HandsOutBare := by
    intro interface asked service h
    simp only [grudgingBus] at h
    split at h
    · cases h
    · cases h
      rfl
  obtain ⟨-, hthere, -, -, -, hcalls⟩ :=
    model_service_consistent hbare backend 0 (.new ()) [.stop, .start, .start, .start]
  obtain ⟨-, -, -, -, -, hrefused⟩ :=
    model_service_consistent hbare backend 0 (.new ()) [.stop, .start, .start, .start, .stop]
  have hactive : started.modules.state? ModelModule.name = some .active := by decide
  have hdown : stopped.modules.state? ModelModule.name = some .tornDown := by decide
  have hnone : started.context.backend.calls = [] := by decide
  have hanswer := (hcalls m).1 ⟨rfl, .inr hactive⟩
  refine ⟨hbare, hactive, hthere.2 (.inr hactive), ?_, ?_, hdown, ?_⟩
  · rw [hanswer]
    rfl
  · rw [hanswer]
    simp only [backend, Backend.recorded_apply]
    rw [hnone, List.nil_append]
  · refine (hrefused m).2 ?_
    rintro ⟨-, henabled⟩
    rw [hdown] at henabled
    simp at henabled

end Daemon
end ModelRegistry
