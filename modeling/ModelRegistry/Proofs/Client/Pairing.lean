import ModelRegistry.Proofs.Client.Responder
import ModelRegistry.Proofs.Store.History
import ModelRegistry.Proofs.Wire.RoundTrip

/-!
# Every answer comes from the reply to its own request

A client that keeps a connection has taken all that was sent on it (`Client.InStep`).  So whatever
the peer makes of the next request is what the client meets next: the reply, if there is one, is the
reply to this request, and after anything else the connection is given up and the next request goes
out on one that was never used.

`Client.Outcome` lists what a call can come to, with the requests that have then been sent: none or
one, which is that of the call.  `Client.outcome_of_inStep` finds every call among these, whatever
the peer does, and `Client.inStep_run` keeps the client in step over any calls.
-/

namespace ModelRegistry
namespace Client

open Responder (State)

variable {limit : Nat} {τ : Type}

/-! ## Clients in step -/

/-- Nothing waits on the connection that is kept, and all requests on it have been answered. -/
structure InStep (c : Client (State limit τ)) : Prop where
  empty : ∀ id, c.connection = some id → c.peer.streams id = .empty
  answered : ∀ id, c.connection = some id →
    ∀ t ∈ c.peer.turns, t.connection = id → t.reaction.body?.isSome
  known : ∀ t ∈ c.peer.turns, t.connection < c.peer.nextConnection
  opened : ∀ id, c.connection = some id → id < c.peer.nextConnection

/-- Without a connection there is nothing to be out of step with. -/
theorem inStep_of_idle {c : Client (State limit τ)} (hidle : c.connection = none)
    (hknown : ∀ t ∈ c.peer.turns, t.connection < c.peer.nextConnection) : InStep c where
  empty id h := by rw [hidle] at h; cases h
  answered id h := by rw [hidle] at h; cases h
  known := hknown
  opened id h := by rw [hidle] at h; cases h

theorem inStep_new (own : τ) : InStep (new (.new own : State limit τ)) :=
  inStep_of_idle rfl fun t ht => by cases ht

/-- A connection for the next request: the one that is kept, or else one without requests. -/
def Next (c : Client (State limit τ)) (id : Nat) : Prop :=
  c.connection = some id ∨ c.connection = none ∧ ∀ t ∈ c.peer.turns, t.connection ≠ id

/-- What a call can come to, from a client `before` it to a client after it.  Every outcome says
which requests have been sent meanwhile. -/
inductive Outcome (r : Responder limit τ) (socket : Path) (before : Client (State limit τ))
    (call : Call) : Answer call → Client (State limit τ) → Prop
  /-- The request is over the limit: nothing happens at all. -/
  | tooLarge (hsize : limit < Wire.size (Message.toModel call).toJson) :
      Outcome r socket before call
        (.error (.invalidParameter
          (WireError.tooLarge (Wire.size (Message.toModel call).toJson) limit).message)) before
  /-- The connection is refused, and nothing is sent. -/
  | unreachable {after : Client (State limit τ)} {fault : IoFault}
      (hidle : before.connection = none)
      (hfault : (r.connect socket before.peer.own).1 = .error fault)
      (hturns : after.peer.turns = before.peer.turns) (hdropped : after.connection = none) :
      Outcome r socket before call (.error ⟨.io, socket.text ++ ": " ++ fault.message⟩) after
  /-- The length of the request is no number of 32 bits, and nothing is sent. -/
  | unframed {after : Client (State limit τ)} {message : String}
      (hsize : UInt32.size ≤ Wire.size (Message.toModel call).toJson)
      (hturns : after.peer.turns = before.peer.turns) (hdropped : after.connection = none) :
      Outcome r socket before call (.error ⟨.io, message⟩) after
  /-- The request is sent and there is no reply to it. -/
  | failed {after : Client (State limit τ)} {t : Turn limit} {message : String}
      (hturns : after.peer.turns = before.peer.turns ++ [t])
      (hrequest : t.request = Wire.frame (Message.toModel call).toJson)
      (hnext : Next before t.connection) (hbody : t.reaction.body? = none)
      (hdropped : after.connection = none) :
      Outcome r socket before call (.error ⟨.io, message⟩) after
  /-- The request is sent and the reply to it is read. -/
  | replied {after : Client (State limit τ)} {t : Turn limit} {body : Bytes} {reply : Reply}
      (hturns : after.peer.turns = before.peer.turns ++ [t])
      (hrequest : t.request = Wire.frame (Message.toModel call).toJson)
      (hnext : Next before t.connection) (hbody : t.reaction.body? = some body)
      (hreply : Reply.decode limit body = .ok reply)
      (hkept : after.connection = some t.connection) :
      Outcome r socket before call (reply.toAnswer call) after
  /-- The request is sent and the reply to it says nothing. -/
  | malformed {after : Client (State limit τ)} {t : Turn limit} {body : Bytes} {error : WireError}
      (hturns : after.peer.turns = before.peer.turns ++ [t])
      (hrequest : t.request = Wire.frame (Message.toModel call).toJson)
      (hnext : Next before t.connection) (hbody : t.reaction.body? = some body)
      (herror : Reply.decode limit body = .error error)
      (hkept : after.connection = some t.connection) :
      Outcome r socket before call (.error ⟨.io, "malformed reply: " ++ error.message⟩) after

/-! ## One exchange -/

section Exchange

variable {r : Responder limit τ} {socket : Path} {c : Client (State limit τ)}

/-- A client that could connect is in step on its next connection. -/
theorem connect_of_inStep (h : InStep c) (socket : Path) :
    (∃ fault c', c.connect r.peer ⟨socket, limit⟩ = (.error fault, c') ∧
      c.connection = none ∧ (r.connect socket c.peer.own).1 = .error fault ∧
      c'.connection = none ∧ c'.peer.turns = c.peer.turns ∧ InStep c') ∨
    (∃ id c', c.connect r.peer ⟨socket, limit⟩ = (.ok id, c') ∧
      c'.connection = some id ∧ Next c id ∧ c'.peer.turns = c.peer.turns ∧ InStep c') := by
  cases hconnection : c.connection with
  | some id =>
    refine .inr ⟨id, c, ?_, hconnection, .inl hconnection, rfl, h⟩
    simp only [connect, hconnection]
  | none =>
    simp only [connect, hconnection, Responder.peer]
    rcases r.connect socket c.peer.own with ⟨answer, own⟩
    cases answer with
    | error fault =>
      exact .inl ⟨fault, _, rfl, trivial, rfl, rfl, rfl, inStep_of_idle rfl h.known⟩
    | ok _ =>
      have hfresh : ∀ t ∈ c.peer.turns, t.connection ≠ c.peer.nextConnection :=
        fun t ht => Nat.ne_of_lt (h.known t ht)
      refine .inr ⟨_, _, rfl, rfl, .inr ⟨hconnection, hfresh⟩, rfl, ?_⟩
      refine ⟨?_, ?_, ?_, ?_⟩
      · rintro id hid
        obtain rfl := Option.some.inj hid
        exact State.setStream_streams ..
      · rintro id hid t ht rfl
        exact absurd (Option.some.inj hid).symm (hfresh t ht)
      · exact fun t ht => Nat.lt_succ_of_lt (h.known t ht)
      · rintro id hid
        obtain rfl := Option.some.inj hid
        exact Nat.lt_succ_self _

/-- What follows when the client has a connection. -/
def exchangeOn {τ : Type} (machine : Peer τ) (limit id : Nat) (request : Bytes) (peer : τ) :
    Except IoFault Bytes × τ :=
  match sendFrame machine limit id request peer with
  | (.error fault, peer) => (.error fault, peer)
  | (.ok (), peer) => takeFrame machine limit id peer

theorem exchange_of_connect {id : Nat} {c' : Client (State limit τ)} (request : Bytes)
    (hconnect : c.connect r.peer ⟨socket, limit⟩ = (.ok id, c')) :
    c.exchange r.peer ⟨socket, limit⟩ request =
      ((exchangeOn r.peer limit id request c'.peer).1,
        { c' with peer := (exchangeOn r.peer limit id request c'.peer).2 }) := by
  simp only [exchange, hconnect, exchangeOn]
  rcases sendFrame r.peer limit id request c'.peer with ⟨_ | _, _⟩ <;> rfl

/-- A request on the connection of a client in step: the client has the reply to it, and is in step,
or meets a fault. -/
theorem exchangeOn_of_inStep (h : InStep c) {id : Nat} (hid : c.connection = some id)
    {request : Bytes} (hfits : request.length ≤ limit) (hsize : request.length < UInt32.size) :
    ∃ t : Turn limit, t.connection = id ∧
      t.request = Frame.header request.length ++ request ∧
      ∃ s : State limit τ, s.turns = c.peer.turns ++ [t] ∧
        ((∃ body, t.reaction.body? = some body ∧ InStep ⟨some id, s⟩ ∧
            exchangeOn r.peer limit id request c.peer = (.ok body, s)) ∨
          (t.reaction.body? = none ∧ InStep ⟨none, s⟩ ∧
            ∃ fault, exchangeOn r.peer limit id request c.peer = (.error fault, s))) := by
  let frame := Frame.header request.length ++ request
  let t : Turn limit := ⟨id, frame, (r.react id frame c.peer.own).1⟩
  let s : State limit τ :=
    { c.peer with own := (r.react id frame c.peer.own).2, turns := c.peer.turns ++ [t] }
  have hsend : sendFrame r.peer limit id request c.peer = s.put id t.reaction := by
    simp only [sendFrame, Frame.encode_of_lt hsize hfits]
    rfl
  have hempty : s.streams id = .empty := h.empty id hid
  have hknown : ∀ t' ∈ s.turns, t'.connection < s.nextConnection := by
    intro t' ht'
    rcases List.mem_append.1 ht' with ht' | ht'
    · exact h.known t' ht'
    · rw [List.mem_singleton.1 ht']
      exact h.opened id hid
  refine ⟨t, rfl, rfl, ?_⟩
  rw [exchangeOn, hsend]
  rcases hput : s.put id t.reaction with ⟨fault | _, sent⟩
  · obtain ⟨hbody, rfl⟩ := Responder.put_eq_error hput
    exact ⟨s, rfl, .inr ⟨hbody, inStep_of_idle rfl hknown, fault, rfl⟩⟩
  · rcases Responder.takeFrame_of_put (r := r) hempty hput with
      ⟨body, hbody, htake⟩ | ⟨hbody, fault, s', htake, hsame⟩
    · refine ⟨s.setStream id .empty, rfl, .inl ⟨body, hbody, ?_, htake⟩⟩
      refine ⟨?_, ?_, hknown, ?_⟩
      · rintro other hother
        obtain rfl := Option.some.inj hother
        exact State.setStream_streams ..
      · rintro other hother t' ht' hconnection
        obtain rfl := Option.some.inj hother
        rcases List.mem_append.1 ht' with ht' | ht'
        · exact h.answered id hid t' ht' hconnection
        · rw [List.mem_singleton.1 ht', Option.isSome_iff_exists]
          exact ⟨body, hbody⟩
      · rintro other hother
        obtain rfl := Option.some.inj hother
        exact h.opened id hid
    · refine ⟨s', hsame.turns, .inr ⟨hbody, inStep_of_idle rfl ?_, fault, htake⟩⟩
      rw [hsame.turns, hsame.nextConnection]
      exact hknown

end Exchange

/-! ## One call -/

/-- Whatever the peer does, a call of a client in step has one of the outcomes, and leaves the
client in step. -/
theorem outcome_of_inStep {r : Responder limit τ} {socket : Path} {c : Client (State limit τ)}
    (h : InStep c) (call : Call) :
    Outcome r socket c call (Client.backend r.peer ⟨socket, limit⟩ call c).1
        (Client.backend r.peer ⟨socket, limit⟩ call c).2 ∧
      InStep (Client.backend r.peer ⟨socket, limit⟩ call c).2 := by
  rcases Nat.lt_or_ge limit (Wire.size (Message.toModel call).toJson) with hlarge | hfits
  · have hencode : (Message.toModel call).encode limit = _ := Wire.encode_of_lt hlarge
    simp only [Client.backend, Client.call, hencode]
    exact ⟨.tooLarge hlarge, h⟩
  · have hencode : (Message.toModel call).encode limit = _ := Wire.encode_of_le hfits
    rcases connect_of_inStep (r := r) h socket with
      ⟨fault, c', hconnect, hidle, hfault, hdropped, hturns, hstep⟩ |
      ⟨id, c', hconnect, hid, hnext, hturns, hstep⟩
    · simp only [Client.backend, Client.call, hencode, exchange, hconnect, disconnect, hdropped]
      exact ⟨.unreachable hidle hfault hturns hdropped, hstep⟩
    · have hexchange :=
        exchange_of_connect (Text.bytes (Message.toModel call).toJson.compact) hconnect
      by_cases hsize : Wire.size (Message.toModel call).toJson < UInt32.size
      · obtain ⟨t, rfl, hrequest, s, hsent, hon⟩ :=
          exchangeOn_of_inStep (r := r) hstep hid hfits hsize
        rw [hturns] at hsent
        rcases hon with ⟨body, hbody, hkept, hon⟩ | ⟨hbody, hgone, fault, hon⟩
        · rw [hon, hid] at hexchange
          cases hreply : Reply.decode limit body with
          | ok reply =>
            simp only [Client.backend, Client.call, hencode, hexchange, hreply]
            exact ⟨.replied hsent hrequest hnext hbody hreply rfl, hkept⟩
          | error error =>
            simp only [Client.backend, Client.call, hencode, hexchange, hreply]
            exact ⟨.malformed hsent hrequest hnext hbody hreply rfl, hkept⟩
        · rw [hon, hid] at hexchange
          simp only [Client.backend, Client.call, hencode, hexchange, disconnect]
          exact ⟨.failed hsent hrequest hnext hbody rfl, hgone⟩
      · have hframe : Frame.encode limit (Text.bytes (Message.toModel call).toJson.compact) = _ :=
          if_pos (.inr (Nat.le_of_not_lt hsize))
        simp only [exchangeOn, sendFrame, hframe, hid] at hexchange
        simp only [Client.backend, Client.call, hencode, hexchange, disconnect]
        exact ⟨.unframed (Nat.le_of_not_lt hsize) hturns rfl, inStep_of_idle rfl hstep.known⟩

/-- A client stays in step over any calls. -/
theorem inStep_run {r : Responder limit τ} {socket : Path} (calls : List Call)
    {c : Client (State limit τ)} (h : InStep c) :
    InStep ((Client.backend r.peer ⟨socket, limit⟩).run calls c).2 := by
  induction calls generalizing c with
  | nil => exact h
  | cons call calls ih =>
    rw [Backend.run_cons_state]
    exact ih (outcome_of_inStep h call).2

/-- After any calls the client is in step with its peer, and the next call has one of the outcomes:
it sends no request or just its own, on the connection that is kept or on an unused one, and its
answer comes from the reply to that request; after anything else than a whole reply no connection is
kept. -/
theorem client_pairs_replies (r : Responder limit τ) (socket : Path) (own : τ) (calls : List Call)
    (call : Call) :
    let machine := Client.backend r.peer ⟨socket, limit⟩
    let before := (machine.run calls (Client.new (.new own))).2
    InStep before ∧
      Outcome r socket before call (machine call before).1 (machine call before).2 := by
  intro machine before
  have hstep : InStep before := inStep_run calls (inStep_new own)
  exact ⟨hstep, (outcome_of_inStep hstep call).1⟩

end Client
end ModelRegistry
