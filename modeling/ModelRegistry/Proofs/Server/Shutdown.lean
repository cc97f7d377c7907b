import ModelRegistry.Proofs.Daemon.ModelService
import ModelRegistry.Proofs.Drain.Admission
import ModelRegistry.Proofs.Server.Connection

/-!
# Shutting down with calls under way

Any number of connections have frames admitted, dispatched and released; drains begin and end; and
the daemon is stopped after a drain that ended complete.  These are the moves, each of them an
operation of the server as a whole, and they follow one another in any order.  A connection has at
most one frame in hand, so the moves of one frame come in order, but those of others may come
between them.  When none do, they are `Server.answer` (`run_alone`, `step_late`).

Three things are kept by every move, each of them by a lemma of its own: the count is that of the
live guards (`Counted`), the frames of a connection go through their stages in turn (`InTurn`), and
what the daemon has made of the frames is what the daemon that was started makes of them one after
the other (`Answered`).  The last one rests on the first, since a frame in hand means that no drain
has ended complete, and so that the daemon has not been stopped.
-/

namespace ModelRegistry

variable {σ : Type}

/-! ## Starting and stopping -/

namespace ModelModule

variable {β : Type}

/-- The exit hook leaves the registry alone. -/
theorem backend_exit (bus : Bus β σ) (c : Context β σ) :
    ((exit bus).run c).state.backend = c.backend := by
  rw [exit, Action.run_bind]
  have htaken : ((Action.step (Context.takeService modelObjectPath)).run c).value =
      c.service? modelObjectPath := rfl
  rw [htaken]
  cases c.service? modelObjectPath with
  | none => rfl
  | some service =>
    dsimp only
    rw [Action.run_bind]
    split <;> rfl

end ModelModule

namespace Daemon

/-- A daemon that has been started on a bus of its own. -/
def started (backend : Backend σ) (s : σ) : Daemon LocalBus σ :=
  (start.run (.new LocalBus.bus backend .new s)).state

/-- It has published the model service, and its module is active. -/
theorem started_published (backend : Backend σ) (s : σ) :
    (started backend s).modules = [⟨ModelModule.hooks LocalBus.bus backend, .active⟩] ∧
      (started backend s).context.bus.isPublished modelObjectPath = true := by
  obtain ⟨service, -, hprobe⟩ := probe_run backend s
  have hstart := @start_single _ _ (ModelModule.hooks LocalBus.bus backend) _ _ _ hprobe
  rw [started, new, Modules.builtIn, Modules.register, List.nil_append, hstart]
  exact ⟨rfl, rfl⟩

theorem started_answers (backend : Backend σ) (s : σ) :
    (started backend s).Answers backend ∧ (started backend s).context.backend = s :=
  answers_start LocalBus.bus backend .new s

theorem withBackend_self {β : Type} (d : Daemon β σ) : d.withBackend d.context.backend = d := rfl

theorem Serves.withBackend {β : Type} {backend : Backend σ} {d : Daemon β σ} (h : d.Serves backend)
    (s : σ) : (d.withBackend s).Serves backend := h

theorem isPublished_withBackend (d : Daemon LocalBus σ) (s : σ) (objectPath : String) :
    (d.withBackend s).context.bus.isPublished objectPath = d.context.bus.isPublished objectPath :=
  rfl

/-- Stopping keeps the one module of a daemon and what its registry holds. -/
theorem stop_single {β : Type} (bus : Bus β σ) (backend : Backend σ) (c : Context β σ)
    (state : ModuleState) :
    ∃ stopped state', (stop.run ⟨c, [⟨ModelModule.hooks bus backend, state⟩]⟩).state =
      ⟨stopped, [⟨ModelModule.hooks bus backend, state'⟩]⟩ ∧ stopped.backend = c.backend := by
  let e : ModuleEntry β σ := ⟨ModelModule.hooks bus backend, state⟩
  let o := (Sweep.exit.treat e).run c
  have hvalue : o.value = ⟨ModelModule.hooks bus backend, o.value.state⟩ :=
    congrArg (ModuleEntry.mk · o.value.state) (Sweep.exit.hooks_treat e c)
  have hstop : (stop.run ⟨c, [e]⟩).state = ⟨o.state, [o.value]⟩ := by
    show perform (.sweep .exit) ⟨c, [e]⟩ = _
    rw [perform, onModules_state, Modules.run_sweep_single]
  refine ⟨o.state, o.value.state, hstop.trans (congrArg (Daemon.mk o.state [·]) hvalue), ?_⟩
  by_cases hdue : Sweep.exit.concerns state = true
  · rw [show o = _ from Sweep.run_exit _ c (of_decide_eq_true hdue)]
    exact ModelModule.backend_exit bus c
  · have hpassed : Sweep.exit.treat e = pure e :=
      Sweep.treat_of_not_concerns (by simpa using hdue)
    simp only [o, hpassed, Action.run_pure]

end Daemon

theorem Server.onDaemon_state {β α : Type} (a : Action (Daemon β σ) α) (s : Server β σ) :
    ((onDaemon a).run s).state = { s with daemon := (a.run s.daemon).state } := rfl

/-! ## Moves -/

namespace Shutdown

/-- What a connection has in hand. -/
inductive Hand
  /-- Nothing: it waits for a frame. -/
  | idle
  /-- A frame that is admitted and has not been dispatched. -/
  | admitted (body : Bytes)
  /-- A frame that has been dispatched, with the reply to it. -/
  | dispatched (body : Bytes) (reply : Reply)
  deriving DecidableEq

namespace Hand

/-- Whether a guard is held. -/
def holds : Hand → Bool
  | idle => false
  | admitted _ | dispatched .. => true

/-- The frame that is still to be dispatched. -/
def undispatched : Hand → List Bytes
  | admitted body => [body]
  | idle | dispatched .. => []

/-- The frame whose guard is still held after it has been dispatched, with its reply. -/
def unreleased : Hand → List (Bytes × Reply)
  | dispatched body reply => [(body, reply)]
  | idle | admitted _ => []

end Hand

/-- The operations that take turns.  None of them is interrupted by another. -/
inductive Move
  | track (connection : Nat) (body : Bytes)
  | dispatch (connection : Nat)
  | release (connection : Nat)
  | beginDrain
  | endDrain
  | stop
  deriving DecidableEq

end Shutdown

open Shutdown (Hand) in
/-- A server with its connections, and what has happened so far.  Frames are noted with the numbers
of their connections, in order. -/
structure Shutdown (σ : Type) where
  server : Server LocalBus σ
  hands : List Hand
  /-- How the drains have ended. -/
  drains : List DrainResult
  admitted : List (Nat × Bytes)
  dispatched : List (Nat × Bytes × Reply)
  /-- The frames that have been answered once their guards were dropped. -/
  released : List (Nat × Bytes × Reply)
  /-- The frames that were not admitted, with what was answered instead. -/
  refused : List (Nat × Bytes × Reply)

namespace Shutdown

/-- What is noted about one connection. -/
def about {α : Type} (i : Nat) (notes : List (Nat × α)) : List α :=
  notes.filterMap fun note => if note.1 = i then some note.2 else none

/-- A server of a started daemon with idle connections. -/
def start (backend : Backend σ) (s : σ) (limit maxConnections connections : Nat) : Shutdown σ where
  server := .new (Daemon.started backend s) limit maxConnections
  hands := List.replicate connections .idle
  drains := []
  admitted := []
  dispatched := []
  released := []
  refused := []

/-- What a connection has in hand. -/
def hand (s : Shutdown σ) (i : Nat) : Hand := s.hands[i]?.getD .idle

/-- How many guards are live. -/
def live (s : Shutdown σ) : Nat := s.hands.countP Hand.holds

/-- What a move does.  An idle connection tries to have a frame admitted, and goes on with it in
turn; a drain ends after it has begun; and the daemon is stopped only after a drain has ended
complete. -/
inductive Step : Move → Shutdown σ → Shutdown σ → Prop
  | refuse {s : Shutdown σ} {i : Nat} {body : Bytes} (hidle : s.hands[i]? = some .idle)
      (hnone : s.server.drain.track? = none) :
      Step (.track i body) s
        { s with refused := s.refused ++ [(i, body, Server.shuttingDown)] }
  | enter {s : Shutdown σ} {i : Nat} {body : Bytes} {drain : Drain}
      (hidle : s.hands[i]? = some .idle) (hsome : s.server.drain.track? = some drain) :
      Step (.track i body) s
        { s with
          server := { s.server with drain }
          hands := s.hands.set i (.admitted body)
          admitted := s.admitted ++ [(i, body)] }
  | dispatch {s : Shutdown σ} {i : Nat} {body : Bytes}
      (hadmitted : s.hands[i]? = some (.admitted body)) :
      Step (.dispatch i) s
        { s with
          server := (Server.handle body s.server).2
          hands := s.hands.set i (.dispatched body (Server.handle body s.server).1)
          dispatched := s.dispatched ++ [(i, body, (Server.handle body s.server).1)] }
  | release {s : Shutdown σ} {i : Nat} {body : Bytes} {reply : Reply}
      (hdispatched : s.hands[i]? = some (.dispatched body reply)) :
      Step (.release i) s
        { s with
          server := { s.server with drain := s.server.drain.leave }
          hands := s.hands.set i .idle
          released := s.released ++ [(i, body, reply)] }
  | beginDrain {s : Shutdown σ} : Step .beginDrain s { s with server := s.server.beginDrain }
  | endDrain {s : Shutdown σ} (hdraining : s.server.drain.draining = true) :
      Step .endDrain s { s with drains := s.drains ++ [s.server.drain.result] }
  | stop {s : Shutdown σ} (hcomplete : .complete ∈ s.drains) :
      Step .stop s { s with server := ((Server.onDaemon Daemon.stop).run s.server).state }

theorem Step.dispatch_of_handle {s : Shutdown σ} {i : Nat} {body : Bytes} {reply : Reply}
    {server : Server LocalBus σ} (hadmitted : s.hands[i]? = some (.admitted body))
    (hhandle : Server.handle body s.server = (reply, server)) :
    Step (.dispatch i) s
      { s with
        server
        hands := s.hands.set i (.dispatched body reply)
        dispatched := s.dispatched ++ [(i, body, reply)] } := by
  have hstep := Step.dispatch hadmitted
  rwa [hhandle] at hstep

/-- Moves one after the other. -/
inductive Run : List Move → Shutdown σ → Shutdown σ → Prop
  | nil {s : Shutdown σ} : Run [] s s
  | snoc {moves : List Move} {move : Move} {s t u : Shutdown σ}
      (hrun : Run moves s t) (hstep : Step move t u) : Run (moves ++ [move]) s u

variable {backend : Backend σ} {initial : σ} {limit maxConnections connections : Nat}
  {moves : List Move} {move : Move} {s t : Shutdown σ} {i : Nat} {c : Hand}

/-- What the connections have in hand, once one of them has moved on. -/
theorem getD_set (hhand : s.hands[i]? = some c) (next : Hand) (j : Nat) :
    (s.hands.set i next)[j]?.getD .idle = if i = j then next else s.hand j := by
  obtain ⟨hi, -⟩ := List.getElem?_eq_some_iff.1 hhand
  rw [List.getElem?_set]
  split
  · simp
  · rfl

theorem getElem?_of_hand {i : Nat} (hhand : s.hand i = c) (hc : c ≠ .idle) :
    s.hands[i]? = some c := by
  unfold hand at hhand
  cases h : s.hands[i]? with
  | none =>
    rw [h] at hhand
    exact absurd hhand.symm hc
  | some c' =>
    rw [h] at hhand
    exact congrArg some hhand

theorem hand_eq (hhand : s.hands[i]? = some c) : s.hand i = c := by
  rw [hand, hhand, Option.getD_some]

/-! ## Counting guards -/

/-- A connection that holds a guard is counted. -/
theorem live_pos (hhand : s.hands[i]? = some c) (hholds : c.holds = true) : 0 < s.live :=
  List.countP_pos_iff.2 ⟨c, List.mem_of_getElem? hhand, hholds⟩

/-- When no guard is live, every connection is idle. -/
theorem hand_of_live (hlive : s.live = 0) (i : Nat) : s.hand i = .idle := by
  rw [hand]
  cases hhand : s.hands[i]? with
  | none => rfl
  | some c =>
    cases c with
    | idle => rfl
    | admitted body => exact absurd (live_pos hhand rfl) (by omega)
    | dispatched body reply => exact absurd (live_pos hhand rfl) (by omega)

/-- The count is that of the live guards, also after a drain; none is live when one has ended
complete. -/
structure Counted (moves : List Move) (s : Shutdown σ) : Prop where
  inFlight_eq : s.server.drain.inFlight = s.live
  draining_iff : s.server.drain.draining = true ↔ .beginDrain ∈ moves
  draining_of_drains : s.drains ≠ [] → s.server.drain.draining = true
  live_of_complete : .complete ∈ s.drains → s.live = 0

theorem counted_start : Counted [] (start backend initial limit maxConnections connections) := by
  refine ⟨?_, by simp [start, Server.new, Drain.new], by simp [start], by simp [start]⟩
  simp [start, Server.new, Drain.new, live, List.countP_replicate, Hand.holds]

/-- While a guard is live, no drain has ended complete. -/
theorem Counted.not_complete (h : Counted moves s) (hlive : 0 < s.live) :
    .complete ∉ s.drains := by
  intro hcomplete
  rw [h.live_of_complete hcomplete] at hlive
  exact Nat.lt_irrefl 0 hlive

theorem Counted.step (h : Counted moves s) (hstep : Step move s t) :
    Counted (moves ++ [move]) t := by
  cases hstep with
  | refuse hidle hnone =>
    exact ⟨h.inFlight_eq, by simp [h.draining_iff], h.draining_of_drains, h.live_of_complete⟩
  | @enter _ i body _ hidle hsome =>
    obtain ⟨hnot, rfl⟩ := Drain.track?_eq_some_iff.1 hsome
    have hmove := countP_set_add Hand.holds hidle (.admitted body)
    refine ⟨?_, by simp [Drain.enter, h.draining_iff], h.draining_of_drains, ?_⟩
    · exact (congrArg (· + 1) h.inFlight_eq).trans hmove.symm
    · intro hcomplete
      have hdraining := h.draining_of_drains (List.ne_nil_of_mem hcomplete)
      exact absurd hdraining (by simp [hnot])
  | @dispatch _ i body hadmitted =>
    obtain ⟨outcome, d, hhandle, -⟩ := Server.handle_eq_answerAll body [] s.server
    rw [hhandle]
    have hmove := countP_set_add Hand.holds hadmitted (.dispatched body (Server.replyTo outcome))
    have hlive : List.countP Hand.holds (s.hands.set i _) = s.live := Nat.add_right_cancel hmove
    exact ⟨h.inFlight_eq.trans hlive.symm, by simp [h.draining_iff], h.draining_of_drains,
      fun hcomplete => hlive.trans (h.live_of_complete hcomplete)⟩
  | @release _ i body reply hdispatched =>
    have hmove : List.countP Hand.holds (s.hands.set i .idle) + 1 = s.live :=
      countP_set_add Hand.holds hdispatched .idle
    have hcount := h.inFlight_eq
    refine ⟨?_, by simp [Drain.leave, h.draining_iff], h.draining_of_drains, ?_⟩
    · show s.server.drain.inFlight - 1 = List.countP Hand.holds (s.hands.set i .idle)
      omega
    · intro hcomplete
      have := h.live_of_complete hcomplete
      omega
  | beginDrain =>
    exact ⟨h.inFlight_eq, by simp [Server.beginDrain, Drain.begin], fun _ => rfl,
      h.live_of_complete⟩
  | endDrain hdraining =>
    refine ⟨h.inFlight_eq, by simp [h.draining_iff], fun _ => hdraining, ?_⟩
    intro hcomplete
    rcases List.mem_append.1 hcomplete with hearlier | hnow
    · exact h.live_of_complete hearlier
    · have hresult : DrainResult.complete = s.server.drain.result := List.mem_singleton.1 hnow
      exact h.inFlight_eq.symm.trans (Drain.result_eq_complete_iff.1 hresult.symm)
  | stop hcomplete =>
    rw [Server.onDaemon_state]
    exact ⟨h.inFlight_eq, by simp [h.draining_iff], h.draining_of_drains, h.live_of_complete⟩

/-! ## Frames of one connection -/

theorem about_concat {α : Type} (j : Nat) (notes : List (Nat × α)) (i : Nat) (a : α) :
    about j (notes ++ [(i, a)]) = about j notes ++ if i = j then [a] else [] := by
  rw [about, List.filterMap_append]
  by_cases h : i = j
  · simp [about, h]
  · simp [about, h]

/-- The frames of one connection go through their stages in turn: what is not dispatched yet, or not
released yet, is in hand. -/
def Stages (admitted : List Bytes) (dispatched released : List (Bytes × Reply)) (hand : Hand) :
    Prop :=
  admitted = dispatched.map Prod.fst ++ hand.undispatched ∧
    dispatched = released ++ hand.unreleased

namespace Stages

variable {admitted : List Bytes} {dispatched released : List (Bytes × Reply)} {body : Bytes}
  {reply : Reply}

theorem enter (h : Stages admitted dispatched released .idle) (body : Bytes) :
    Stages (admitted ++ [body]) dispatched released (.admitted body) := by
  obtain ⟨rfl, rfl⟩ := h
  exact ⟨by simp [Hand.undispatched], rfl⟩

theorem dispatch (h : Stages admitted dispatched released (.admitted body)) (reply : Reply) :
    Stages admitted (dispatched ++ [(body, reply)]) released (.dispatched body reply) := by
  obtain ⟨rfl, rfl⟩ := h
  exact ⟨by simp [Hand.undispatched], by simp [Hand.unreleased]⟩

theorem release (h : Stages admitted dispatched released (.dispatched body reply)) :
    Stages admitted dispatched (released ++ [(body, reply)]) .idle := by
  obtain ⟨rfl, rfl⟩ := h
  exact ⟨rfl, by simp [Hand.unreleased]⟩

end Stages

/-- The frames of every connection go through their stages in turn. -/
def InTurn (s : Shutdown σ) : Prop :=
  ∀ i, Stages (about i s.admitted) (about i s.dispatched) (about i s.released) (s.hand i)

theorem inTurn_start : InTurn (start backend initial limit maxConnections connections) := by
  intro i
  have hhand : (start backend initial limit maxConnections connections).hand i = .idle := by
    rw [hand, start, List.getElem?_replicate]
    split <;> rfl
  rw [hhand]
  exact ⟨rfl, rfl⟩

theorem InTurn.step (h : InTurn s) (hstep : Step move s t) : InTurn t := by
  intro j
  have hj := h j
  cases hstep with
  | refuse hidle hnone => exact hj
  | @enter _ i body _ hidle hsome =>
    by_cases hij : i = j
    · subst hij
      rw [hand_eq hidle] at hj
      simpa [hand, getD_set hidle, about_concat] using hj.enter body
    · simpa [hand, getD_set hidle, about_concat, hij] using hj
  | @dispatch _ i body hadmitted =>
    by_cases hij : i = j
    · subst hij
      rw [hand_eq hadmitted] at hj
      simpa [hand, getD_set hadmitted, about_concat] using hj.dispatch _
    · simpa [hand, getD_set hadmitted, about_concat, hij] using hj
  | @release _ i body reply hdispatched =>
    by_cases hij : i = j
    · subst hij
      rw [hand_eq hdispatched] at hj
      simpa [hand, getD_set hdispatched, about_concat] using hj.release
    · simpa [hand, getD_set hdispatched, about_concat, hij] using hj
  | beginDrain => exact hj
  | endDrain hdraining => exact hj
  | stop hcomplete => exact hj

/-! ## What is dispatched -/

/-- The bodies that have been dispatched, in order. -/
def bodies (s : Shutdown σ) : List Bytes := s.dispatched.map fun d => d.2.1

/-- The replies to them. -/
def replies (s : Shutdown σ) : List Reply := s.dispatched.map fun d => d.2.2

/-- Until a drain has ended complete, the daemon is the one that was started, with its registry in
another state; and always it has made of the bodies what the started daemon makes of them. -/
structure Answered (backend : Backend σ) (initial : σ) (limit : Nat) (s : Shutdown σ) : Prop where
  limit_eq : s.server.limit = limit
  modules_eq : ∃ state, s.server.daemon.modules = [⟨ModelModule.hooks LocalBus.bus backend, state⟩]
  replies_eq : s.replies =
    ((Daemon.started backend initial).answerAll limit s.bodies).1.map Server.replyTo
  backend_eq : s.server.daemon.context.backend =
    (backend.run ((Daemon.started backend initial).calls limit s.bodies) initial).2
  serving : .complete ∉ s.drains → s.server.daemon =
    (Daemon.started backend initial).withBackend s.server.daemon.context.backend

theorem answered_start :
    Answered backend initial limit (start backend initial limit maxConnections connections) where
  limit_eq := rfl
  modules_eq := ⟨_, (Daemon.started_published backend initial).1⟩
  replies_eq := rfl
  backend_eq := (Daemon.started_answers backend initial).2
  serving _ := (Daemon.withBackend_self (Daemon.started backend initial)).symm

/-- What bodies leave of a started daemon: nothing changes but the state of its registry. -/
theorem answerAll_started (bodies : List Bytes) :
    ((Daemon.started backend initial).answerAll limit bodies).2 =
      (Daemon.started backend initial).withBackend
        (backend.run ((Daemon.started backend initial).calls limit bodies) initial).2 := by
  obtain ⟨hanswers, hinitial⟩ := Daemon.started_answers backend initial
  rw [Daemon.answerAll_state hanswers, hinitial]

theorem Answered.answerAll_bodies (h : Answered backend initial limit s)
    (hdrains : .complete ∉ s.drains) :
    ((Daemon.started backend initial).answerAll limit s.bodies).2 = s.server.daemon := by
  rw [answerAll_started, ← h.backend_eq]
  exact (h.serving hdrains).symm

theorem Answered.step (h : Answered backend initial limit s) (hcounted : Counted moves s)
    (hstep : Step move s t) : Answered backend initial limit t := by
  cases hstep with
  | refuse hidle hnone =>
    exact ⟨h.limit_eq, h.modules_eq, h.replies_eq, h.backend_eq, h.serving⟩
  | enter hidle hsome => exact ⟨h.limit_eq, h.modules_eq, h.replies_eq, h.backend_eq, h.serving⟩
  | @dispatch _ i body hadmitted =>
    have hdrains := hcounted.not_complete (live_pos hadmitted rfl)
    obtain ⟨outcome, d, hhandle, hall⟩ := Server.handle_eq_answerAll body [] s.server
    rw [h.limit_eq, ← h.answerAll_bodies hdrains] at hall
    have happend : (Daemon.started backend initial).answerAll limit (s.bodies ++ [body]) = _ :=
      Daemon.answerAll_append s.bodies [body] (Daemon.started backend initial)
    rw [hall] at happend
    -- What is dispatched now comes after all that was dispatched before.
    have hd : d = _ := (congrArg Prod.snd happend).symm.trans (answerAll_started _)
    have hbodies : s.bodies ++ [body] =
        (s.dispatched ++ [(i, body, Server.replyTo outcome)]).map fun d => d.2.1 := by
      rw [List.map_append]
      rfl
    rw [hbodies] at happend hd
    rw [hhandle]
    refine ⟨h.limit_eq, ?_, ?_, ?_, ?_⟩
    · exact ⟨.active, hd ▸ (Daemon.started_published backend initial).1⟩
    · rw [bodies, happend, replies, List.map_append, List.map_append, ← h.replies_eq]
      rfl
    · exact congrArg (fun d => d.context.backend) hd
    · intro _
      show d = Daemon.withBackend d.context.backend _
      rw [hd]
      rfl
  | release hdispatched =>
    exact ⟨h.limit_eq, h.modules_eq, h.replies_eq, h.backend_eq, h.serving⟩
  | beginDrain => exact ⟨h.limit_eq, h.modules_eq, h.replies_eq, h.backend_eq, h.serving⟩
  | endDrain hdraining =>
    refine ⟨h.limit_eq, h.modules_eq, h.replies_eq, h.backend_eq, ?_⟩
    intro hdrains
    exact h.serving fun hcomplete => hdrains (List.mem_append_left _ hcomplete)
  | stop hcomplete =>
    obtain ⟨state, hmodules⟩ := h.modules_eq
    obtain ⟨stopped, state', hstop, hbackend⟩ :=
      Daemon.stop_single LocalBus.bus backend s.server.daemon.context state
    rw [← hmodules] at hstop
    rw [Server.onDaemon_state, show (Daemon.stop.run s.server.daemon).state = _ from hstop]
    exact ⟨h.limit_eq, ⟨state', rfl⟩, h.replies_eq, hbackend.trans h.backend_eq,
      fun hdrains => absurd hcomplete hdrains⟩

/-! ## Whole runs -/

theorem Step.length_hands (hstep : Step move s t) : t.hands.length = s.hands.length := by
  cases hstep <;> simp

/-- Whatever the moves and their order, the guards are counted, every connection goes on in turn,
and the daemon answers as the started one. -/
theorem reached (hrun : Run moves (start backend initial limit maxConnections connections) s) :
    Counted moves s ∧ InTurn s ∧ Answered backend initial limit s ∧
      s.hands.length = connections := by
  generalize hstart : start backend initial limit maxConnections connections = first at hrun
  induction hrun with
  | nil =>
    subst hstart
    exact ⟨counted_start, inTurn_start, answered_start, List.length_replicate⟩
  | snoc hrun hstep ih =>
    obtain ⟨hcounted, hinTurn, hanswered, hlength⟩ := ih hstart
    exact ⟨hcounted.step hstep, hinTurn.step hstep, hanswered.step hcounted hstep,
      hstep.length_hands.trans hlength⟩

/-- A frame between whose moves there are no others is answered as by the server as a whole. -/
theorem run_alone (hidle : s.hands[i]? = some .idle) (hadmits : s.server.drain.draining = false)
    (body : Bytes) :
    ∃ t, Run [.track i body, .dispatch i, .release i] s t ∧
      t.server = (Server.answer body s.server).2 ∧
      t.released = s.released ++ [(i, body, (Server.answer body s.server).1)] := by
  have htrack : s.server.drain.track? = some s.server.drain.enter :=
    Drain.track?_eq_some_iff.2 ⟨hadmits, rfl⟩
  obtain ⟨hi, -⟩ := List.getElem?_eq_some_iff.1 hidle
  have hadmit : Step (.track i body) s _ := .enter hidle htrack
  have hrun := (Run.nil.snoc hadmit).snoc (.dispatch (List.getElem?_set_self hi))
  have hstill : i < (s.hands.set i (.admitted body)).length := by simpa using hi
  refine ⟨_, hrun.snoc (.release (List.getElem?_set_self hstill)), ?_, ?_⟩
  · simp only [Server.answer, htrack]
  · simp only [Server.answer, htrack]

/-- So is a frame that comes after the drain has begun. -/
theorem step_late (hidle : s.hands[i]? = some .idle) (hdraining : s.server.drain.draining = true)
    (body : Bytes) :
    ∃ t, Step (.track i body) s t ∧ t.server = (Server.answer body s.server).2 ∧
      t.refused = s.refused ++ [(i, body, (Server.answer body s.server).1)] := by
  have htrack : s.server.drain.track? = none := Drain.track?_eq_none_iff.2 hdraining
  refine ⟨_, .refuse hidle htrack, ?_, ?_⟩
  · simp only [Server.answer, htrack]
  · simp only [Server.answer, htrack]

/-- **A shutdown loses no frame that has been admitted.**  Connections, drains and the stop of a
daemon that was started on a bus of its own take turns in any order, except that the daemon is
stopped only after a drain has ended complete.  At every moment the count is that of the live
guards, none of which is left when a drain has ended complete, and dropping one lowers it by one.  A
frame that is admitted and not dispatched can be dispatched; the model service is then published and
serves the backend, and the message in the frame is answered as by the daemon that was started, with
its registry in the state of that moment.  The frames of a connection go through their stages in
turn, and all that were admitted have been answered when a drain has ended complete.  Before the
drain begins a frame is admitted; afterwards it is answered with an error, and nothing else
changes.  A drain ends complete if no guard is live, and otherwise with the number of live guards.
And the replies and the state of the registry are those of the dispatched frames, one after the
other in the order of their dispatch. -/
theorem shutdown_in_order (backend : Backend σ) (initial : σ)
    (limit maxConnections connections : Nat) {moves : List Move} {s : Shutdown σ}
    (hrun : Run moves (start backend initial limit maxConnections connections) s) :
    let started := (Daemon.start.run (.new LocalBus.bus backend .new initial)).state
    let now := started.withBackend s.server.daemon.context.backend
    (s.server.drain.inFlight = s.live ∧ s.live ≤ connections ∧ (.complete ∈ s.drains → s.live = 0) ∧
      ∀ i t, Step (.release i) s t → t.server.drain.inFlight + 1 = s.server.drain.inFlight) ∧
    (∀ i body, s.hand i = .admitted body →
      s.server.daemon.context.bus.isPublished modelObjectPath = true ∧
      s.server.daemon.Serves backend ∧ (∃ t, Step (.dispatch i) s t) ∧
      ∀ t m, Step (.dispatch i) s t → Message.decode limit body = .ok m →
        t.hand i = .dispatched body (now.dispatch m).1 ∧
          t.server = { s.server with daemon := (now.dispatch m).2 }) ∧
    (∀ i, Stages (about i s.admitted) (about i s.dispatched) (about i s.released) (s.hand i) ∧
      (.complete ∈ s.drains → about i s.admitted = (about i s.released).map Prod.fst)) ∧
    (∀ i body t, Step (.track i body) s t →
      (.beginDrain ∉ moves → t.hand i = .admitted body) ∧
      (.beginDrain ∈ moves → t = { s with refused :=
        s.refused ++ [(i, body, .error .unavailable "daemon is shutting down")] })) ∧
    (∀ t, Step .endDrain s t →
      t.drains = s.drains ++ [if s.live = 0 then .complete else .timeout s.live]) ∧
    s.replies = (started.answerAll limit s.bodies).1.map Server.replyTo ∧
    s.server.daemon.context.backend = (backend.run (started.calls limit s.bodies) initial).2 := by
  intro started now
  obtain ⟨hcounted, hinTurn, hanswered, hlength⟩ := reached hrun
  refine ⟨⟨hcounted.inFlight_eq, ?_, hcounted.live_of_complete, ?_⟩, ?_,
    fun i => ⟨hinTurn i, ?_⟩, ?_, ?_, hanswered.replies_eq, hanswered.backend_eq⟩
  · rw [← hlength]
    exact List.countP_le_length
  · intro i t hstep
    cases hstep with
    | release hdispatched =>
      have hlive := live_pos hdispatched rfl
      rw [← hcounted.inFlight_eq] at hlive
      exact Nat.sub_add_cancel hlive
  · intro i body hhand
    have hadmitted := getElem?_of_hand hhand (by simp)
    have hnow := hanswered.serving (hcounted.not_complete (live_pos hadmitted rfl))
    refine ⟨?_, ?_, ⟨_, .dispatch hadmitted⟩, ?_⟩
    · rw [hnow, Daemon.isPublished_withBackend]
      exact (Daemon.started_published backend initial).2
    · rw [hnow]
      exact (Daemon.serves_start backend initial).1.withBackend _
    · intro t m hstep hdecode
      cases hstep with
      | @dispatch _ _ body' hbody =>
        obtain rfl := Hand.admitted.inj (Option.some.inj (hbody.symm.trans hadmitted))
        rw [← hanswered.limit_eq] at hdecode
        have hdispatched : s.server.daemon.dispatch m = now.dispatch m :=
          congrArg (Daemon.dispatch m) hnow
        rw [Server.handle_of_decode hdecode, hdispatched]
        refine ⟨?_, rfl⟩
        rw [hand, getD_set hbody, if_pos rfl]
  · intro hcomplete
    obtain ⟨hadmitted, hdispatched⟩ := hinTurn i
    rw [hand_of_live (hcounted.live_of_complete hcomplete)] at hadmitted hdispatched
    rw [hadmitted, hdispatched]
    simp [Hand.undispatched, Hand.unreleased]
  · intro i body t hstep
    rw [← hcounted.draining_iff]
    cases hstep with
    | refuse hidle hnone =>
      have hdraining := Drain.track?_eq_none_iff.1 hnone
      exact ⟨fun hnot => absurd hdraining hnot, fun _ => rfl⟩
    | enter hidle hsome =>
      obtain ⟨hadmits, -⟩ := Drain.track?_eq_some_iff.1 hsome
      refine ⟨fun _ => ?_, fun hdraining => ?_⟩
      · rw [hand, getD_set hidle, if_pos rfl]
      · rw [hadmits] at hdraining
        cases hdraining
  · intro t hstep
    cases hstep with
    | endDrain hdraining =>
      show s.drains ++ [if s.server.drain.inFlight = 0 then _ else .timeout _] = _
      rw [hcounted.inFlight_eq]

/-- A frame is admitted before the drain begins and dispatched after it has been waited for in vain;
another one comes too late.  Then a drain ends complete and the daemon is stopped. -/
theorem shutdown_in_order_of_two_frames :
    let call : Call := .getAll "m"
    let body := Text.bytes (Message.toModel call).toJson.compact
    let backend : Backend (Recorded Unit) := (Backend.refusing []).recorded
    ∃ s, Run [.track 0 body, .beginDrain, .endDrain, .track 1 body, .dispatch 0, .release 0,
          .endDrain, .stop] (start backend (.new ()) 4096 2 2) s ∧
      s.drains = [.timeout 1, .complete] ∧ s.live = 0 ∧
      s.released = [(0, body, .info "[]" .ok)] ∧ s.refused = [(1, body, Server.shuttingDown)] ∧
      s.server.daemon.context.backend.calls = [call] := by
  intro call body backend
  have hdecode : Message.decode 4096 body = .ok (.toModel call) :=
    Message.decode_compact (by decide +kernel)
  clear_value body
  obtain ⟨hserves, hinitial⟩ := Daemon.serves_start backend (.new ())
  -- Of the daemon no more is needed than that it serves the backend.
  obtain ⟨daemon, hdaemon⟩ : ∃ daemon, daemon = Daemon.started backend (.new ()) := ⟨_, rfl⟩
  rw [← Daemon.started, ← hdaemon] at hserves hinitial
  have hreply : (daemon.dispatch (.toModel call)).1 = .info "[]" .ok := by
    rw [Daemon.dispatch_of_serves hserves, hinitial]
    rfl
  have hcalls : daemon.calls 4096 [body] = [call] := by
    obtain ⟨service, hservice, -⟩ := hserves
    have hsome : (daemon.context.service? (Message.toModel call).objectPath).isSome :=
      Option.isSome_iff_exists.2 ⟨service, hservice⟩
    simp only [Daemon.calls, Daemon.call?, List.filterMap_cons, List.filterMap_nil, hdecode,
      if_pos hsome]
    rfl
  let first : Shutdown (Recorded Unit) :=
    ⟨.new daemon 4096 2, [.idle, .idle], [], [], [], [], []⟩
  have hfirst : start backend (.new ()) 4096 2 2 = first := by
    rw [start, ← hdaemon]
    rfl
  have hhandle : Server.handle body { first.server with drain := ⟨true, 1⟩ } =
      (.info "[]" .ok, { first.server with
        daemon := (daemon.dispatch (.toModel call)).2, drain := ⟨true, 1⟩ }) := by
    rw [Server.handle_of_decode hdecode]
    exact congrArg (Prod.mk · _) hreply
  -- One frame is admitted and the other is not.
  let waiting : Shutdown (Recorded Unit) :=
    { first with
      server := { first.server with drain := ⟨true, 1⟩ }
      hands := [.admitted body, .idle]
      drains := [.timeout 1]
      admitted := [(0, body)]
      refused := [(1, body, Server.shuttingDown)] }
  have hadmit : Step (.track 0 body) first _ := .enter rfl rfl
  have hwaiting : Run [.track 0 body, .beginDrain, .endDrain, .track 1 body] first waiting :=
    (((Run.nil.snoc hadmit).snoc .beginDrain).snoc (.endDrain rfl)).snoc (.refuse rfl rfl)
  -- The one that is admitted is answered.
  let answered : Shutdown (Recorded Unit) :=
    { waiting with
      server := { first.server with
        daemon := (daemon.dispatch (.toModel call)).2, drain := ⟨true, 0⟩ }
      hands := [.idle, .idle]
      drains := [.timeout 1, .complete]
      dispatched := [(0, body, .info "[]" .ok)]
      released := [(0, body, .info "[]" .ok)] }
  have hdispatch : Step (.dispatch 0) waiting _ := .dispatch_of_handle rfl hhandle
  have hanswered : Run [.track 0 body, .beginDrain, .endDrain, .track 1 body, .dispatch 0,
      .release 0, .endDrain] first answered :=
    ((hwaiting.snoc hdispatch).snoc (.release rfl)).snoc (.endDrain rfl)
  have hcomplete : .complete ∈ answered.drains :=
    List.mem_cons_of_mem _ (List.mem_singleton_self _)
  have hrun := hanswered.snoc (.stop hcomplete)
  rw [← hfirst] at hrun
  obtain ⟨⟨-, -, hlive, -⟩, -, -, -, -, -, hbackend⟩ :=
    shutdown_in_order backend (.new ()) 4096 2 2 hrun
  refine ⟨_, hrun, rfl, hlive hcomplete, rfl, rfl, ?_⟩
  rw [← Daemon.started, ← hdaemon] at hbackend
  rw [hbackend]
  exact congrArg (fun calls => (backend.run calls (.new ())).2.calls) hcalls

end Shutdown
end ModelRegistry
