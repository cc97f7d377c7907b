import ModelRegistry.Link
import ModelRegistry.Proofs.Server.Replies

/-!
# One exchange over a link

A client and a server behind a link take turns: the client sends one request and takes the one frame
that comes back.  Between two exchanges nothing is on the way.  `Link.Serving` collects what of the
server stays the same, with the state of the backend that it has reached; `Link.Joined` says that
one client is connected and which bytes wait for it.

`call_of_ready` is what all this comes to.  A request that fits changes the state of the backend as
the call itself does, and the client is handed what `Reply.delivered?` makes of the reply.  When
nothing could be delivered the connection is gone, and the next call opens another.

A limit may be no number of 32 bits.  Then a request can be within it and still be longer than the
header of a frame can say.  The client connects all the same, sends nothing, and gives the
connection up (`call_of_unframed`).
-/

namespace ModelRegistry

variable {β σ : Type}

/-! ## States of a link -/

namespace Link

/-- A link to a server that serves a backend, which is in a state. -/
structure Serving (backend : Backend σ) (limit : Nat) (state : σ) (l : Link β σ) : Prop where
  serves : l.server.daemon.Serves backend
  state : l.server.daemon.context.backend = state
  admits : l.server.drain.draining = false
  limit : l.server.limit = limit
  room : 0 < l.server.limiter.limit
  /-- Nothing waits for a connection that has not been opened. -/
  fresh : ∀ id, l.server.nextConnection ≤ id → l.inbox id = []

/-- Nobody is connected. -/
structure Idle (l : Link β σ) : Prop where
  connections : l.server.connections = []
  opened : l.server.limiter.opened = 0

/-- One client is connected; the server has read all that it sent, and some bytes wait for it. -/
structure Joined (id : Nat) (waiting : Bytes) (l : Link β σ) : Prop where
  connections : l.server.connections = [(id, [])]
  opened : l.server.limiter.opened = 1
  inbox : l.inbox id = waiting
  known : id < l.server.nextConnection

theorem inbox_setInbox (l : Link β σ) (id other : Nat) (bytes : Bytes) :
    (l.setInbox id bytes).inbox other = if id = other then bytes else l.inbox other := by
  have hfilter (inboxes : List (Nat × Bytes)) (hne : id ≠ other) :
      (inboxes.filter fun i => i.1 ≠ id).lookup other = inboxes.lookup other := by
    induction inboxes with
    | nil => rfl
    | cons i inboxes ih =>
      obtain ⟨key, held⟩ := i
      by_cases hkey : key = id
      · have hother : (other == key) = false := by
          rw [hkey]
          exact beq_eq_false_iff_ne.2 hne.symm
        simp only [hkey, List.filter_cons, ne_eq, not_true, decide_false, Bool.false_eq_true,
          if_false]
        rw [ih, List.lookup_cons, ← hkey, hother]
      · simp only [List.filter_cons, ne_eq, hkey, not_false_iff, decide_true, if_true]
        rw [List.lookup_cons, List.lookup_cons, ih]
  by_cases heq : id = other
  · simp [inbox, setInbox, heq]
  · have hne : (other == id) = false := beq_eq_false_iff_ne.2 (Ne.symm heq)
    rw [if_neg heq, inbox, setInbox, List.lookup_cons, hne]
    exact congrArg (·.getD []) (hfilter l.inboxes heq)

section States

variable {backend : Backend σ} {limit : Nat} {state : σ} {l : Link β σ} {id : Nat}

/-- Bytes that wait for a known connection leave the server as it is. -/
theorem Serving.setInbox (h : Serving backend limit state l) (hid : id < l.server.nextConnection)
    (bytes : Bytes) : Serving backend limit state (l.setInbox id bytes) where
  serves := h.serves
  state := h.state
  admits := h.admits
  limit := h.limit
  room := h.room
  fresh other hother := by
    have hne : id ≠ other := Nat.ne_of_lt (Nat.lt_of_lt_of_le hid hother)
    rw [inbox_setInbox, if_neg hne]
    exact h.fresh other hother

theorem Joined.setInbox {waiting : Bytes} (h : Joined id waiting l) (bytes : Bytes) :
    Joined id bytes (l.setInbox id bytes) where
  connections := h.connections
  opened := h.opened
  inbox := by rw [inbox_setInbox, if_pos rfl]
  known := h.known

/-! ## Connecting -/

theorem accept_run {s : Server β σ} {limiter : Limiter} (h : s.limiter.acquire? = some limiter) :
    (Server.accept.run s).value = s.nextConnection ∧
      (Server.accept.run s).state =
        { s with
          limiter
          connections := s.connections ++ [(s.nextConnection, [])]
          nextConnection := s.nextConnection + 1 } := by
  have hget : (Action.get : Action (Server β σ) (Server β σ)).run s = ⟨s, s, []⟩ := rfl
  rw [Server.accept, Action.run_bind, hget]
  simp only [h]
  exact ⟨rfl, rfl⟩

/-- The first connection is always accepted. -/
theorem connect_of_idle (hserving : Serving backend limit state l) (hidle : Idle l) :
    Serving backend limit state l.connect.2 ∧ Joined l.connect.1 [] l.connect.2 := by
  have hacquire : l.server.limiter.acquire? =
      some ⟨1, l.server.limiter.limit, hserving.room⟩ := by
    simp [Limiter.acquire?, hidle.opened, hserving.room]
  obtain ⟨hvalue, hstate⟩ := accept_run hacquire
  rw [hidle.connections, List.nil_append] at hstate
  have hid : l.connect.1 = l.server.nextConnection := hvalue
  have hserver : l.connect.2.server = _ := hstate
  have hinbox (other : Nat) : l.connect.2.inbox other = l.inbox other := rfl
  constructor
  · refine ⟨?_, ?_, ?_, ?_, ?_, ?_⟩ <;> rw [hserver]
    · exact hserving.serves
    · exact hserving.state
    · exact hserving.admits
    · exact hserving.limit
    · exact hserving.room
    · intro other hother
      exact hserving.fresh other (Nat.le_of_succ_le hother)
  · refine ⟨?_, ?_, ?_, ?_⟩
    · rw [hserver, hid]
    · rw [hserver]
    · rw [hinbox, hid]
      exact hserving.fresh _ (Nat.le_refl _)
    · rw [hserver, hid]
      exact Nat.lt_succ_self _

/-! ## Requests and replies -/

/-- A request that fits is answered with what can be sent for the reply; otherwise the connection
ends. -/
theorem send_request (hserving : Serving backend limit state l) (hjoined : Joined id [] l)
    {c : Call} (hfits : Wire.size (Message.toModel c).toJson ≤ limit)
    (hframe : Wire.size (Message.toModel c).toJson < UInt32.size) :
    ∃ l', l.send id (Wire.frame (Message.toModel c).toJson) = (.ok (), l') ∧
      Serving backend limit (backend c state).2 l' ∧
      match (Reply.ofAnswer c (backend c state).1).delivered? limit with
      | some sent => Joined id (Wire.frame sent.toJson) l'
      | none => Idle l' ∧ l'.inbox id = [] ∧ id < l'.server.nextConnection := by
  obtain ⟨hserves, rfl, hadmits, rfl, hroom, hfresh⟩ := hserving
  have hopen : l.server.isOpen id = true := by simp [Server.isOpen, hjoined.connections]
  have hfeed := Server.feed_request hserves hadmits hfits hframe hjoined.connections
  have hlater (bytes : Bytes) (server : Server β σ) (other : Nat)
      (hother : l.server.nextConnection ≤ other) :
      (({ l with server } : Link β σ).setInbox id bytes).inbox other = [] := by
    have hne : id ≠ other := Nat.ne_of_lt (Nat.lt_of_lt_of_le hjoined.known hother)
    rw [inbox_setInbox, if_neg hne]
    exact hfresh other hother
  have hown (bytes : Bytes) (server : Server β σ) :
      (({ l with server } : Link β σ).setInbox id bytes).inbox id = bytes := by
    rw [inbox_setInbox, if_pos rfl]
  rw [send, if_pos hopen, hfeed, hjoined.inbox]
  cases (Reply.ofAnswer c (backend c l.server.daemon.context.backend).1).delivered?
      l.server.limit with
  | some sent =>
    exact ⟨_, rfl, ⟨hserves, rfl, hadmits, rfl, hroom, hlater _ _⟩,
      ⟨hjoined.connections, hjoined.opened, hown _ _, hjoined.known⟩⟩
  | none =>
    have hopened : l.server.limiter.release.opened = 0 := by simp [Limiter.release, hjoined.opened]
    exact ⟨_, rfl, ⟨hserves, rfl, hadmits, rfl, hroom, hlater _ _⟩, ⟨rfl, hopened⟩, hown _ _,
      hjoined.known⟩

/-- The last connection is given up. -/
theorem close_of_joined {waiting : Bytes} (hserving : Serving backend limit state l)
    (hjoined : Joined id waiting l) :
    Serving backend limit state (l.close id) ∧ Idle (l.close id) := by
  rw [close, Server.drop_of_single hjoined.connections]
  have hopened : l.server.limiter.release.opened = 0 := by simp [Limiter.release, hjoined.opened]
  obtain ⟨hserves, hstate, hadmits, hlimit, hroom, hfresh⟩ := hserving
  exact ⟨⟨hserves, hstate, hadmits, hlimit, hroom, hfresh⟩, ⟨rfl, hopened⟩⟩

end States
end Link

/-! ## The client's side -/

namespace Client

open Link (Serving Idle Joined)

/-- A client between two calls. -/
structure Ready (backend : Backend σ) (limit : Nat) (state : σ) (c : Client (Link β σ)) : Prop where
  serving : Serving backend limit state c.peer
  connection :
    match c.connection with
    | none => Idle c.peer
    | some id => Joined id [] c.peer

variable {backend : Backend σ} {limit : Nat} {state : σ}

variable (reach : Path → Except IoFault Unit)

theorem connect_of_ready {c : Client (Link β σ)} (h : Ready backend limit state c)
    (address : Address) (hreach : reach address.socket = .ok ()) :
    ∃ id l, c.connect (Link.peer reach) address = (.ok id, ⟨some id, l⟩) ∧
      Serving backend limit state l ∧ Joined id [] l := by
  obtain ⟨connection, l⟩ := c
  cases connection with
  | some id => exact ⟨id, l, rfl, h.serving, h.connection⟩
  | none =>
    obtain ⟨hserving, hjoined⟩ := Link.connect_of_idle h.serving h.connection
    refine ⟨_, _, ?_, hserving, hjoined⟩
    simp only [connect, Link.peer, hreach]

/-- Taking the bytes at the front of those that wait. -/
theorem fill_of_inbox {l : Link β σ} {id : Nat} {front rest : Bytes}
    (h : l.inbox id = front ++ rest) :
    fill (Link.peer reach) id front.length l = (.ok front, l.setInbox id rest) := by
  simp [fill, Link.peer, Link.receive, h]

/-- The frame that waits is taken whole. -/
theorem takeFrame_of_joined {l : Link β σ} {id : Nat} {j : Json}
    (hserving : Serving backend limit state l) (hjoined : Joined id (Wire.frame j) l)
    (hfits : Wire.size j ≤ limit) (hframe : Wire.size j < UInt32.size) :
    ∃ l', takeFrame (Link.peer reach) limit id l = (.ok (Text.bytes j.compact), l') ∧
      Serving backend limit state l' ∧ Joined id [] l' := by
  have hheader := fill_of_inbox reach hjoined.inbox
  have hnumber := Frame.number_header hframe
  have hserving' := hserving.setInbox hjoined.known (Text.bytes j.compact)
  have hjoined' := hjoined.setInbox (Text.bytes j.compact)
  have hbody : (l.setInbox id (Text.bytes j.compact)).inbox id = Text.bytes j.compact ++ [] := by
    rw [List.append_nil, hjoined'.inbox]
  rw [Frame.length_header] at hheader
  simp only [takeFrame, hheader, hnumber, if_neg (Nat.not_lt.2 hfits)]
  exact ⟨_, fill_of_inbox reach hbody, hserving'.setInbox hjoined'.known [], hjoined'.setInbox []⟩

/-- Where nothing waits and the connection has ended, there is no frame to take. -/
theorem takeFrame_of_idle {l : Link β σ} {id : Nat} (hserving : Serving backend limit state l)
    (hidle : Idle l) (hinbox : l.inbox id = []) (hid : id < l.server.nextConnection) :
    ∃ l', takeFrame (Link.peer reach) limit id l = (.error .unexpectedEnd, l') ∧
      Serving backend limit state l' ∧ Idle l' := by
  refine ⟨l.setInbox id [], ?_, hserving.setInbox hid [], ⟨hidle.connections, hidle.opened⟩⟩
  simp [takeFrame, fill, Link.peer, Link.receive, hinbox, Frame.headerSize]

theorem sendFrame_request {l : Link β σ} {id : Nat} {j : Json} (hfits : Wire.size j ≤ limit)
    (hframe : Wire.size j < UInt32.size) :
    sendFrame (Link.peer reach) limit id (Text.bytes j.compact) l = l.send id (Wire.frame j) := by
  have hencode := Frame.encode_of_lt hframe hfits
  simp only [sendFrame, hencode]
  rfl

/-! ## A whole call -/

/-- The exchange of a request that fits. -/
theorem exchange_of_ready {c : Client (Link β σ)} (hready : Ready backend limit state c)
    (socket : Path) (hreach : reach socket = .ok ()) {call : Call}
    (hfits : Wire.size (Message.toModel call).toJson ≤ limit)
    (hframe : Wire.size (Message.toModel call).toJson < UInt32.size) :
    ∃ result id l,
      c.exchange (Link.peer reach) ⟨socket, limit⟩
        (Text.bytes (Message.toModel call).toJson.compact) = (result, ⟨some id, l⟩) ∧
      Serving backend limit (backend call state).2 l ∧
      match (Reply.ofAnswer call (backend call state).1).delivered? limit with
      | some sent => result = .ok (Text.bytes sent.toJson.compact) ∧ Joined id [] l
      | none => result = .error .unexpectedEnd ∧ Idle l := by
  obtain ⟨id, l, hconnect, hserving, hjoined⟩ :=
    connect_of_ready reach hready ⟨socket, limit⟩ hreach
  obtain ⟨l₁, hsend, hserving₁, hreply⟩ := Link.send_request hserving hjoined hfits hframe
  simp only [exchange, hconnect, sendFrame_request reach hfits hframe, hsend]
  cases hsent : (Reply.ofAnswer call (backend call state).1).delivered? limit with
  | some sent =>
    simp only [hsent] at hreply ⊢
    obtain ⟨hsentFits, hsentFrame⟩ := Reply.size_of_delivered? hsent
    obtain ⟨l₂, htake, hserving₂, hjoined₂⟩ :=
      takeFrame_of_joined reach hserving₁ hreply hsentFits hsentFrame
    exact ⟨_, id, l₂, by simp only [htake], hserving₂, rfl, hjoined₂⟩
  | none =>
    simp only [hsent] at hreply ⊢
    obtain ⟨hidle, hinbox, hknown⟩ := hreply
    obtain ⟨l₂, htake, hserving₂, hidle₂⟩ :=
      takeFrame_of_idle reach hserving₁ hidle hinbox hknown
    exact ⟨_, id, l₂, by simp only [htake], hserving₂, rfl, hidle₂⟩

/-- What a client hears when something or nothing was delivered: what it makes of the reply, or that
the connection is broken. -/
inductive Hears {α : Type} (meaning : Reply → Except Refusal α) :
    Option Reply → Except Refusal α → Prop
  | delivered {sent : Reply} {heard : Except Refusal α} (h : heard = meaning sent) :
      Hears meaning (some sent) heard
  | broken {refusal : Refusal} {heard : Except Refusal α} (h : heard = .error refusal)
      (hcode : refusal.code = .io) : Hears meaning none heard

/-- What is heard is carried on. -/
theorem Hears.imp {α α' : Type} {meaning : Reply → Except Refusal α}
    {meaning' : Reply → Except Refusal α'} {delivered : Option Reply} {heard : Except Refusal α}
    {heard' : Except Refusal α'} (h : Hears meaning delivered heard)
    (hreply : ∀ sent, heard = meaning sent → heard' = meaning' sent)
    (hrefusal : ∀ refusal, heard = .error refusal → heard' = .error refusal) :
    Hears meaning' delivered heard' := by
  cases h with
  | delivered h => exact .delivered (hreply _ h)
  | broken h hcode => exact .broken (hrefusal _ h) hcode

/-- A call whose request fits: the backend has made it, and what is delivered for the reply is what
the client gets. -/
theorem call_of_ready {c : Client (Link β σ)} (hready : Ready backend limit state c)
    (socket : Path) (hreach : reach socket = .ok ()) {call : Call}
    (hfits : Wire.size (Message.toModel call).toJson ≤ limit)
    (hframe : Wire.size (Message.toModel call).toJson < UInt32.size) :
    Ready backend limit (backend call state).2
        (c.call (Link.peer reach) ⟨socket, limit⟩ call).2 ∧
      Hears .ok ((Reply.ofAnswer call (backend call state).1).delivered? limit)
        (c.call (Link.peer reach) ⟨socket, limit⟩ call).1 := by
  have hencode : (Message.toModel call).encode limit =
      .ok (Text.bytes (Message.toModel call).toJson.compact) := Wire.encode_of_le hfits
  obtain ⟨result, id, l, hexchange, hserving, hresult⟩ :=
    exchange_of_ready reach hready socket hreach hfits hframe
  simp only [Client.call, hencode, hexchange]
  cases hsent : (Reply.ofAnswer call (backend call state).1).delivered? limit with
  | some sent =>
    simp only [hsent] at hresult
    obtain ⟨rfl, hjoined⟩ := hresult
    have hdecode : Reply.decode limit (Text.bytes sent.toJson.compact) = .ok sent :=
      Reply.decode_compact (Reply.size_of_delivered? hsent).1
    simp only [hdecode]
    exact ⟨⟨hserving, hjoined⟩, .delivered rfl⟩
  | none =>
    simp only [hsent] at hresult
    obtain ⟨rfl, hidle⟩ := hresult
    have hclosed : l.server.isOpen id = false := by simp [Server.isOpen, hidle.connections]
    have hdrop : l.server.drop id = l.server := by simp [Server.drop, hclosed]
    simp only [disconnect, Link.peer, Link.close, hdrop]
    exact ⟨⟨hserving, hidle⟩, .broken rfl rfl⟩

/-- A call whose request is within the limit but longer than a header can say: nothing is sent. -/
theorem call_of_unframed {c : Client (Link β σ)} (hready : Ready backend limit state c)
    (socket : Path) (hreach : reach socket = .ok ()) {call : Call}
    (hfits : Wire.size (Message.toModel call).toJson ≤ limit)
    (hframe : UInt32.size ≤ Wire.size (Message.toModel call).toJson) :
    Ready backend limit state (c.call (Link.peer reach) ⟨socket, limit⟩ call).2 ∧
      ∃ refusal, (c.call (Link.peer reach) ⟨socket, limit⟩ call).1 = .error refusal ∧
        refusal.code = .io := by
  have hencode : (Message.toModel call).encode limit =
      .ok (Text.bytes (Message.toModel call).toJson.compact) := Wire.encode_of_le hfits
  obtain ⟨id, l, hconnect, hserving, hjoined⟩ :=
    connect_of_ready reach hready ⟨socket, limit⟩ hreach
  have hframed : Frame.encode limit (Text.bytes (Message.toModel call).toJson.compact) = _ :=
    Frame.encode_of_ge hframe
  obtain ⟨hserving', hidle⟩ := Link.close_of_joined hserving hjoined
  simp only [Client.call, hencode, exchange, hconnect, sendFrame, hframed, disconnect]
  exact ⟨⟨hserving', hidle⟩, _, rfl, rfl⟩

end Client
end ModelRegistry
