import ModelRegistry.Proofs.Daemon.ModelService

/-!
# A call is one operation

A started daemon responds to every call with one operation of its registry, whatever it was asked
before.  Between the call and the operation stand the events, the table and the nine handlers, each
of which takes apart the calls of one method (`Handlers.handler_eq`): a call has to find the right
one, and its arguments have to be handed on in the right order.

The service that the daemon found keeps a handler under each event (`Daemon.Serves`), and no message
changes that.
-/

namespace ModelRegistry

variable {β σ : Type}

/-- Each operation writes down the call that it answers. -/
theorem Operations.backend_recorded (ops : Operations σ) :
    ops.recorded.backend = ops.backend.recorded := by
  funext c r
  cases c <;> rfl

/-! ## Replies -/

/-- The kind of the replies to a method. -/
def Method.replyKind : Method → ReplyKind
  | register => .version
  | get | getActive | getAll => .info
  | describe | activate | delete | setPipeline | addResource => .status

theorem Method.replyKind_ne_error (m : Method) : m.replyKind ≠ .error := by
  cases m <;> exact nofun

theorem Reply.kind_ofAnswer {c : Call} (answer : Answer c) :
    (Reply.ofAnswer c answer).kind = c.method.replyKind := by
  cases c <;> cases answer <;> rfl

/-- The status of a reply is that of the answer in it. -/
theorem Reply.code_ofAnswer {c : Call} (answer : Answer c) :
    (Reply.ofAnswer c answer).code = statusOf answer := by
  cases c <;> cases answer <;> rfl

/-! ## Every message finds its handler -/

namespace Daemon

/-- A daemon that serves a backend still does after a message. -/
theorem Serves.dispatch {backend : Backend σ} {d : Daemon β σ} (h : d.Serves backend)
    (m : Message) : (d.dispatch m).2.Serves backend := by
  obtain ⟨service, hservice, hanswers⟩ := h
  refine ⟨service, ?_, hanswers⟩
  rw [← hservice]
  exact congrArg (·.find? modelObjectPath) (Context.services_dispatch m d.context)

/-- After any messages it still does. -/
theorem Serves.after_dispatch {backend : Backend σ} {d : Daemon β σ} (h : d.Serves backend)
    (messages : List Message) : (after (messages.map .dispatch) d).Serves backend := by
  induction messages generalizing d with
  | nil => exact h
  | cons m messages ih => exact ih (h.dispatch m)

/-- **A call is one operation of the registry.**  A daemon on a bus of its own has been started and
has answered any messages.  Whatever the operations of its registry do, a call of the model service
then carries out one of them, which is the one the call names with its arguments in order, and the
reply carries what it returns.  Nothing but the state of the registry changes, and the one operation
that has been carried out is this one.  The reply holds the result and status zero, or no result and
the code of the refusal, and is of the kind of its method; so it is never an error of the bus.
Under the event of the call the service has the handler from the one row of the table with this
event, which takes apart the calls of the same method, and says of all others that they are not for
it. -/
theorem call_is_one_operation (ops : Operations σ) (s : σ) (messages : List Message) (c : Call) :
    let d := after (.start :: messages.map .dispatch)
      (.new LocalBus.bus ops.recorded.backend .new (.new s))
    let before := d.context.backend
    let o := ops.respond c before.state
    d.dispatch (.toModel c) =
        (o.1, { d with context := { d.context with backend := ⟨o.2, before.calls ++ [c]⟩ } }) ∧
      o.1 = .ofAnswer c (ops.backend c before.state).1 ∧
      o.1.kind = c.method.replyKind ∧
      o.1.code = statusOf (ops.backend c before.state).1 ∧
      (∀ status message, (d.dispatch (.toModel c)).1 ≠ .error status message) ∧
      ∃ service attached earlier row later, d.context.service? modelObjectPath = some service ∧
        service.handlers.find? c.event = some attached ∧
        attached.handler = row.handle ops.recorded ∧
        Handlers.table = earlier ++ row :: later ∧ row.event = c.event ∧
        (∀ other ∈ earlier ++ later, other.event ≠ c.event) ∧
        ∀ (call : Call) (r : Recorded σ), row.handle ops.recorded call r =
          if call.method = c.method then ops.recorded.respond call r
          else (Handlers.mismatched call, r) := by
  intro d before o
  have hserves : d.Serves ops.recorded.backend :=
    (serves_start ops.recorded.backend (.new s)).1.after_dispatch messages
  have ho : o = (.ofAnswer c (ops.backend c before.state).1, (ops.backend c before.state).2) :=
    ops.respond_eq c before.state
  have hdispatch : d.dispatch (.toModel c) =
      (o.1, { d with context := { d.context with backend := ⟨o.2, before.calls ++ [c]⟩ } }) := by
    rw [dispatch_of_serves hserves, ho, ops.backend_recorded]
    rfl
  have hkind : o.1.kind = c.method.replyKind := by
    rw [ho]
    exact Reply.kind_ofAnswer _
  refine ⟨hdispatch, congrArg Prod.fst ho, hkind, ?_, ?_, ?_⟩
  · rw [ho]
    exact Reply.code_ofAnswer _
  · intro status message herror
    rw [hdispatch] at herror
    have herror : o.1 = .error status message := herror
    rw [herror] at hkind
    exact c.method.replyKind_ne_error hkind.symm
  · obtain ⟨service, hservice, hanswers⟩ := hserves
    obtain ⟨id, hfind⟩ := hanswers c.method
    obtain ⟨earlier, later, htable, hothers⟩ := Handlers.exists_table_eq c.method
    exact ⟨service, _, earlier, Handlers.row c.method, later, hservice, hfind, rfl, htable, rfl,
      hothers, Handlers.handler_eq ops.recorded c.method⟩

end Daemon
end ModelRegistry
