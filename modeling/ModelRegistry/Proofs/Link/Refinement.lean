import ModelRegistry.Proofs.Link.Exchange
import ModelRegistry.Proofs.Store.Step

/-!
# A registry behind a socket is the registry

`socket_refines_store` compares two runs of the same calls: one through a client that is connected
to a started daemon, the other on a store.  After every call the daemon's store is the one that the
calls with a request within the limit lead to, and each of them is answered as the store answers it,
up to the words of a refusal.  Only lookups have replies that can be too long to come back.

An answer travels as a reply and back (`toAnswer_ofAnswer`), which works because no refusal of the
store has the code of success.  What the limit does to requests and replies is settled by
`Client.call_of_ready`; here it is put together over a run.
-/

namespace ModelRegistry

/-! ## Sizes of a call -/

/-- Whether a method only looks something up. -/
def Method.isLookup : Method → Bool
  | get | getActive | getAll => true
  | register | describe | activate | delete | setPipeline | addResource => false

/-- How many bytes the request of a call takes. -/
def Call.requestSize (c : Call) : Nat := Wire.size (Message.toModel c).toJson

/-- The request of a call is sent: it is within the limit, and the header of a frame can say how
long it is. -/
def Call.Sendable (limit : Nat) (c : Call) : Prop :=
  c.requestSize ≤ limit ∧ c.requestSize < UInt32.size

instance (limit : Nat) (c : Call) : Decidable (c.Sendable limit) :=
  inferInstanceAs (Decidable (_ ∧ _))

/-- Under a limit of 32 bits every request within the limit is sent. -/
theorem Call.sendable_iff {limit : Nat} (hlimit : limit < UInt32.size) (c : Call) :
    c.Sendable limit ↔ c.requestSize ≤ limit :=
  and_iff_left_of_imp fun hfits => Nat.lt_of_le_of_lt hfits hlimit

/-- How many bytes the reply to a call takes that carries an answer. -/
def Call.replySize (c : Call) (a : Answer c) : Nat := Wire.size (Reply.ofAnswer c a).toJson

/-- A call that changes the registry is always answered in few bytes. -/
theorem Call.replySize_le {c : Call} (h : c.method.isLookup = false) (a : Answer c) :
    c.replySize a ≤ 250 := by
  cases c with
  | get => cases h
  | getActive => cases h
  | getAll => cases h
  | register =>
    cases a with
    | ok version => exact Reply.size_version_le version .ok
    | error refusal => exact Reply.size_version_le 0 refusal.code
  | _ =>
    rw [replySize, Reply.ofAnswer_eq]
    exact Reply.size_status_le (statusOf a)

/-! ## Answers -/

/-- The same result, or refusals with the same code. -/
inductive SameAnswer {α : Type} : Except Refusal α → Except Refusal α → Prop
  | ok (x : α) : SameAnswer (.ok x) (.ok x)
  | error {r t : Refusal} (h : r.code = t.code) : SameAnswer (.error r) (.error t)

theorem SameAnswer.eq_ok_iff {α : Type} {a b : Except Refusal α} (h : SameAnswer a b) (x : α) :
    a = .ok x ↔ b = .ok x := by
  cases h with
  | ok y => exact Iff.rfl
  | error h => exact iff_of_false nofun nofun

/-- A result in a reply comes through as the answer whose status it carries. -/
theorem sameAnswer_unlessFailed {α : Type} {a : Except Refusal α}
    (hcode : ∀ refusal, a = .error refusal → refusal.code ≠ .ok) (message : String) {result : α}
    (hresult : ∀ x, a = .ok x → result = x) :
    SameAnswer (unlessFailed (statusOf a) message result) a := by
  cases a with
  | ok x =>
    rw [unlessFailed, statusOf, if_pos rfl, hresult x rfl]
    exact .ok x
  | error refusal =>
    rw [unlessFailed, statusOf, if_neg (hcode refusal rfl)]
    exact .error rfl

/-- An answer comes back from its reply, except for the words of a refusal. -/
theorem toAnswer_ofAnswer {c : Call} {a : Answer c}
    (h : ∀ refusal, a = .error refusal → refusal.code ≠ .ok) :
    SameAnswer ((Reply.ofAnswer c a).toAnswer c) a := by
  have hunit {a : Except Refusal Unit} (ha : ∀ refusal, a = .error refusal → refusal.code ≠ .ok) :
      SameAnswer (Reply.status (statusOf a)).toStatus a :=
    sameAnswer_unlessFailed ha "call failed" fun _ _ => rfl
  cases c with
  | register =>
    cases a with
    | ok version => exact sameAnswer_unlessFailed h "register failed" fun _ heq => Except.ok.inj heq
    | error refusal => exact sameAnswer_unlessFailed h "register failed" fun _ heq => nomatch heq
  | get | getActive | getAll =>
    cases a with
    | ok text => exact sameAnswer_unlessFailed h "lookup failed" fun _ heq => Except.ok.inj heq
    | error refusal => exact sameAnswer_unlessFailed h "lookup failed" fun _ heq => nomatch heq
  | _ =>
    rw [Reply.ofAnswer_eq]
    exact hunit h

theorem toAnswer_error (status : Status) (message : String) (c : Call) :
    (Reply.error status message).toAnswer c = .error ⟨status, message⟩ := by
  cases c <;> rfl

namespace Store

/-- A refusal is about an argument, something that is missing or a version in use. -/
theorem code_of_refused {c : Call} {s : Store} {refusal : Refusal}
    (h : (backend c s).1 = .error refusal) :
    refusal.code = .invalidParameter ∨ refusal.code = .notFound ∨ refusal.code = .busy := by
  cases c <;>
    simp only [backend, register, describe, activate, get, getActive, getAll, delete, setPipeline,
      addResource] at h <;>
    (repeat' split at h) <;> cases h
  all_goals first | exact .inl rfl | exact .inr (.inl rfl) | exact .inr (.inr rfl)

/-- A refusal never carries the code of success. -/
theorem code_ne_ok {c : Call} {s : Store} {refusal : Refusal}
    (h : (backend c s).1 = .error refusal) : refusal.code ≠ .ok := by
  rcases code_of_refused h with hcode | hcode | hcode <;> rw [hcode] <;> decide

end Store

/-! ## Runs -/

namespace Client

/-- The calls of a client whose socket can be reached. -/
def overSocket {β σ : Type} (socket : Path) (limit : Nat) : Backend (Client (Link β σ)) :=
  backend (Link.peer fun _ => .ok ()) ⟨socket, limit⟩

/-- A client that has not connected yet, of a server with a started daemon. -/
def ofStarted {σ : Type} (backend : Backend σ) (state : σ) (limit maxConnections : Nat) :
    Client (Link LocalBus σ) :=
  let daemon := (Daemon.start.run (.new LocalBus.bus backend .new state)).state
  .new (.new (.new daemon limit maxConnections))

/-- The state of the backend at the other end. -/
def remote {β σ : Type} (c : Client (Link β σ)) : σ := c.peer.server.daemon.context.backend

theorem ready_ofStarted {σ : Type} (backend : Backend σ) (state : σ) (limit maxConnections : Nat) :
    Ready backend limit state (ofStarted backend state limit maxConnections) := by
  obtain ⟨hserves, hstate⟩ := Daemon.serves_start backend state
  have hroom : 0 < max maxConnections 1 := Nat.lt_of_lt_of_le Nat.zero_lt_one (Nat.le_max_right _ _)
  exact ⟨⟨hserves, hstate, rfl, rfl, hroom, fun _ _ => rfl⟩, ⟨rfl, rfl⟩⟩

variable {β σ : Type} {backend : Backend σ} {limit : Nat} {state : σ} {client : Client (Link β σ)}

/-- A request over the limit is not sent. -/
theorem overSocket_of_lt (socket : Path) {c : Call} (h : limit < c.requestSize)
    (client : Client (Link β σ)) :
    overSocket socket limit c client =
      (.error (.invalidParameter (WireError.tooLarge c.requestSize limit).message), client) := by
  have hencode : (Message.toModel c).encode limit = .error (.tooLarge c.requestSize limit) :=
    Wire.encode_of_lt h
  simp only [overSocket, Client.backend, call, hencode]

theorem backend_state {τ : Type} (machine : Peer τ) (address : Address) (c : Call)
    (client : Client τ) :
    (Client.backend machine address c client).2 = (client.call machine address c).2 := by
  rw [Client.backend]
  split <;> next heq => rw [heq]

theorem backend_answer {τ : Type} {machine : Peer τ} {address : Address} {c : Call}
    {client : Client τ} {reply : Reply} (h : (client.call machine address c).1 = .ok reply) :
    (Client.backend machine address c client).1 = reply.toAnswer c := by
  rw [Client.backend]
  split
  · next heq => rw [heq] at h; cases h
  · next heq => rw [heq] at h; cases h; rfl

theorem backend_refused {τ : Type} {machine : Peer τ} {address : Address} {c : Call}
    {client : Client τ} {refusal : Refusal}
    (h : (client.call machine address c).1 = .error refusal) :
    (Client.backend machine address c client).1 = .error refusal := by
  rw [Client.backend]
  split
  · next heq => rw [heq] at h; cases h; rfl
  · next heq => rw [heq] at h; cases h

/-- A request that is sent has the effect of the call, and what is delivered for the reply is the
answer. -/
theorem overSocket_of_sendable (hready : Ready backend limit state client) (socket : Path)
    {c : Call} (h : c.Sendable limit) :
    Ready backend limit (backend c state).2 (overSocket socket limit c client).2 ∧
      Hears (Reply.toAnswer · c) ((Reply.ofAnswer c (backend c state).1).delivered? limit)
        (overSocket socket limit c client).1 := by
  obtain ⟨hnext, hanswer⟩ := call_of_ready (fun _ => .ok ()) hready socket rfl h.1 h.2
  constructor
  · rw [overSocket, backend_state]
    exact hnext
  · exact hanswer.imp (fun _ => backend_answer) fun _ => backend_refused

/-- A request that is not sent changes nothing at the other end, and the call is refused. -/
theorem overSocket_of_not_sendable (hready : Ready backend limit state client) (socket : Path)
    {c : Call} (h : ¬ c.Sendable limit) :
    Ready backend limit state (overSocket socket limit c client).2 ∧
      ∃ refusal, (overSocket socket limit c client).1 = .error refusal := by
  by_cases hfits : c.requestSize ≤ limit
  · -- The client connects before it finds out.
    have hframe : UInt32.size ≤ c.requestSize := Nat.le_of_not_lt fun hframe => h ⟨hfits, hframe⟩
    obtain ⟨hnext, refusal, hrefused, -⟩ :=
      call_of_unframed (fun _ => .ok ()) hready socket rfl hfits hframe
    refine ⟨?_, refusal, backend_refused hrefused⟩
    rw [overSocket, backend_state]
    exact hnext
  · rw [overSocket_of_lt socket (Nat.lt_of_not_le hfits)]
    exact ⟨hready, _, rfl⟩

/-- A request within the limit has the effect of the call, and what is sent for the reply is the
answer. -/
theorem overSocket_of_le (hready : Ready backend limit state client) (hlimit : limit < UInt32.size)
    (socket : Path) {c : Call} (h : c.requestSize ≤ limit) :
    Ready backend limit (backend c state).2 (overSocket socket limit c client).2 ∧
      ∀ sent, (Reply.ofAnswer c (backend c state).1).sent? limit = some sent →
        (overSocket socket limit c client).1 = sent.toAnswer c := by
  obtain ⟨hnext, hanswer⟩ := overSocket_of_sendable hready socket ((c.sendable_iff hlimit).2 h)
  refine ⟨hnext, ?_⟩
  intro sent hsent
  rw [Reply.delivered?_eq_sent? hlimit, hsent] at hanswer
  cases hanswer with
  | delivered h => exact h

/-- The calls whose requests are sent, put to the backend, lead to the state that all calls lead to
over the socket. -/
theorem ready_run_sendable (hready : Ready backend limit state client) (socket : Path)
    (cs : List Call) :
    Ready backend limit (backend.run (cs.filter fun c => c.Sendable limit) state).2
      ((overSocket socket limit).run cs client).2 := by
  induction cs generalizing state client with
  | nil => exact hready
  | cons c cs ih =>
    rw [Backend.run_cons_state]
    by_cases hsent : c.Sendable limit
    · rw [List.filter_cons_of_pos (by simpa using hsent), Backend.run_cons_state]
      exact ih (overSocket_of_sendable hready socket hsent).1
    · rw [List.filter_cons_of_neg (by simpa using hsent)]
      exact ih (overSocket_of_not_sendable hready socket hsent).1

/-- The calls that fit, put to the backend, lead to the state that all calls lead to over the
socket. -/
theorem ready_run (hready : Ready backend limit state client) (hlimit : limit < UInt32.size)
    (socket : Path) (cs : List Call) :
    Ready backend limit (backend.run (cs.filter fun c => c.requestSize ≤ limit) state).2
      ((overSocket socket limit).run cs client).2 := by
  have hsame : (cs.filter fun c => c.Sendable limit) = cs.filter fun c => c.requestSize ≤ limit :=
    List.filter_congr fun c _ => decide_eq_decide.2 (c.sendable_iff hlimit)
  rw [← hsame]
  exact ready_run_sendable hready socket cs

end Client

/-- **A registry behind a socket is the registry.**  Let a client be connected to a started daemon
under a limit of 4096 bytes or more.  After any calls the daemon's store is the one that those of
them lead to whose requests are within the limit.  A call whose request is over the limit is refused
and nothing is sent.  Any other is answered as the store answers it, unless its reply is over the
limit; then it is a lookup, and is refused as having a wrong parameter.  The length of a document is
a number of 64 bits. -/
theorem socket_refines_store (limit maxConnections : Nat) (hlow : 4096 ≤ limit)
    (hhigh : limit < UInt32.size) (socket : Path) (cs : List Call) :
    let client := ((Client.overSocket socket limit).run cs
      (Client.ofStarted Store.backend .empty limit maxConnections)).2
    let store := (Store.run (cs.filter fun c => c.requestSize ≤ limit)).2
    client.remote = store ∧
    ∀ c : Call,
      (limit < c.requestSize →
        ∃ refusal, Client.overSocket socket limit c client = (.error refusal, client) ∧
          refusal.code = .invalidParameter) ∧
      (c.requestSize ≤ limit →
        let direct := (Store.backend c store).1
        let received := (Client.overSocket socket limit c client).1
        (c.replySize direct ≤ limit → SameAnswer received direct) ∧
        (limit < c.replySize direct → c.method.isLookup = true ∧
          (c.replySize direct < UInt64.size →
            ∃ refusal, received = .error refusal ∧ refusal.code = .invalidParameter))) := by
  intro client store
  have hready : Client.Ready Store.backend limit store client :=
    Client.ready_run (Client.ready_ofStarted Store.backend .empty limit maxConnections) hhigh socket
      cs
  refine ⟨hready.serving.state, ?_⟩
  intro c
  refine ⟨?_, ?_⟩
  · intro hlarge
    exact ⟨_, Client.overSocket_of_lt socket hlarge client, rfl⟩
  · intro hfits direct received
    obtain ⟨-, hreceived⟩ := Client.overSocket_of_le hready hhigh socket hfits
    refine ⟨?_, ?_⟩
    · intro hreply
      have hsent := hreceived _ (Reply.sent?_of_le hreply)
      show SameAnswer received direct
      rw [show received = _ from hsent]
      exact toAnswer_ofAnswer fun refusal => Store.code_ne_ok
    · intro hreply
      refine ⟨?_, ?_⟩
      · cases hlookup : c.method.isLookup with
        | true => rfl
        | false =>
          have hshort := c.replySize_le hlookup direct
          omega
      · intro hsize
        have hsent := hreceived _ (Reply.sent?_of_lt hreply hlow hhigh hsize)
        rw [Reply.oversize, toAnswer_error] at hsent
        exact ⟨_, hsent, rfl⟩

/-- Under the least limit a version is registered over the socket and looked up. -/
theorem socket_refines_store_of_registration :
    let cs : List Call := [.register "m" "/models/a" true "first" ""]
    let socket := Path.ofText "/run/registry"
    let client := ((Client.overSocket socket 4096).run cs
      (Client.ofStarted Store.backend .empty 4096 1)).2
    4096 ≤ 4096 ∧ 4096 < UInt32.size ∧ client.remote = (Store.run cs).2 ∧
      SameAnswer (Client.overSocket socket 4096 (.get "m" 1) client).1
        (Store.backend (.get "m" 1) (Store.run cs).2).1 := by
  intro cs socket client
  have hfits : cs.filter (fun c => c.requestSize ≤ 4096) = cs := by decide +kernel
  have hrequest : (Call.get "m" 1).requestSize ≤ 4096 := by decide +kernel
  have hreply :
      (Call.get "m" 1).replySize (Store.backend (.get "m" 1) (Store.run cs).2).1 ≤ 4096 := by
    decide +kernel
  have hrefines := socket_refines_store 4096 1 (Nat.le_refl _) (by decide) socket cs
  rw [hfits] at hrefines
  obtain ⟨hstore, hcalls⟩ := hrefines
  obtain ⟨-, hget⟩ := hcalls (.get "m" 1)
  obtain ⟨hsame, -⟩ := hget hrequest
  exact ⟨Nat.le_refl _, by decide, hstore, hsame hreply⟩

end ModelRegistry
