import ModelRegistry.Client
import ModelRegistry.Proofs.Daemon.Dispatch
import ModelRegistry.Proofs.Wire.Frames
import ModelRegistry.Proofs.Wire.RoundTrip

/-!
# What a client makes of a reply

A reply answers a method if it is of the kind of the method, and then it has a payload for it
(`Reply.payload?`).  The client takes that for the result if the status is one of success.  Of any
other reply it makes a refusal, with the code that the reply carries, or with one of its own if the
reply is of a foreign kind.

A refusal is meant to have the code of a failure, because a handler puts the code into its reply and
the next client takes a zero there for a success.  The client sees to that only in replies of the
own kind.  In an error of the bus it takes any status, so a peer that reports an error with status
zero is refused with code zero (`not_answersMeanReplies`).  This is the only way to such a refusal
(`answer_means_reply`).
-/

namespace ModelRegistry

variable {τ : Type}

/-! ## Replies -/

/-- What a reply of a method's own kind has for a result. -/
def Reply.payload? : Reply → (m : Method) → Option m.Result
  | version v _, .register => some v
  | info i _, .get => some i
  | info i _, .getActive => some i
  | info i _, .getAll => some i
  | status _, .describe => some ()
  | status _, .activate => some ()
  | status _, .delete => some ()
  | status _, .setPipeline => some ()
  | status _, .addResource => some ()
  | _, _ => none

theorem Reply.payload?_isSome_iff (r : Reply) (m : Method) :
    (r.payload? m).isSome ↔ r.kind = m.replyKind := by
  cases r <;> cases m <;> first
    | exact iff_of_true rfl rfl
    | exact iff_of_false nofun nofun

/-- What the client says of a status of failure. -/
def Method.failure : Method → String
  | register => "register failed"
  | get | getActive | getAll => "lookup failed"
  | describe | activate | delete | setPipeline | addResource => "call failed"

/-- The refusal of a reply that is not of the own kind. -/
def Reply.refusal : Reply → Refusal
  | error s message => ⟨s, message⟩
  | r => r.unexpected

theorem Reply.toAnswer_eq (r : Reply) (c : Call) :
    r.toAnswer c =
      match r.payload? c.method with
      | some v => unlessFailed r.code c.method.failure v
      | none => .error r.refusal := by
  cases r <;> cases c <;> rfl

theorem Reply.code_refusal (r : Reply) :
    r.refusal.code = if r.kind = .error then r.code else .io := by
  cases r <;> rfl

/-- The result is the payload of a success. -/
theorem Reply.toAnswer_eq_ok_iff {r : Reply} {c : Call} {v : c.Result} :
    r.toAnswer c = .ok v ↔ r.payload? c.method = some v ∧ r.code = .ok := by
  rw [toAnswer_eq]
  cases r.payload? c.method with
  | none => simp
  | some payload =>
    dsimp only [unlessFailed]
    split
    · next hcode => simp [hcode]
    · next hcode => simp [hcode]

/-- The code of a refusal is that of the reply, unless this is of a foreign kind. -/
theorem Reply.code_of_toAnswer {r : Reply} {c : Call} {refusal : Refusal}
    (h : r.toAnswer c = .error refusal) :
    refusal.code =
        (if r.kind = c.method.replyKind ∨ r.kind = .error then r.code else .io) ∧
      (r.kind = c.method.replyKind → r.code ≠ .ok) := by
  have hkind := r.payload?_isSome_iff c.method
  rw [toAnswer_eq] at h
  cases hpayload : r.payload? c.method with
  | none =>
    rw [hpayload] at h hkind
    have hforeign : r.kind ≠ c.method.replyKind := fun hown => by simpa using hkind.2 hown
    obtain rfl := Except.error.inj h
    simp only [code_refusal, hforeign, false_or]
    exact ⟨trivial, False.elim⟩
  | some payload =>
    rw [hpayload] at h hkind
    have hown : r.kind = c.method.replyKind := hkind.1 rfl
    dsimp only [unlessFailed] at h
    split at h
    · cases h
    · next hcode =>
      obtain rfl := Except.error.inj h
      exact ⟨(if_pos (.inl hown)).symm, fun _ => hcode⟩

/-- Only an error of the bus has a refusal with the code of a success. -/
theorem Reply.code_of_toAnswer_eq_ok_iff {r : Reply} {c : Call} {refusal : Refusal}
    (h : r.toAnswer c = .error refusal) :
    refusal.code = .ok ↔ r.kind = .error ∧ r.code = .ok := by
  obtain ⟨hcode, hfailed⟩ := code_of_toAnswer h
  by_cases hown : r.kind = c.method.replyKind
  · rw [if_pos (.inl hown)] at hcode
    rw [hcode, hown]
    exact iff_of_false (hfailed hown) fun hbus => c.method.replyKind_ne_error hbus.1
  · by_cases hbus : r.kind = .error
    · rw [if_pos (.inr hbus)] at hcode
      rw [hcode, and_iff_right hbus]
    · rw [if_neg (not_or.2 ⟨hown, hbus⟩)] at hcode
      rw [hcode]
      exact iff_of_false (by decide) fun h => hbus h.1

/-! ## Exchanges -/

namespace Client

/-- The peer has been sent the request of a call, and what it has sent back is a reply. -/
def Replied (machine : Peer τ) (address : Address) (c : Client τ) (call : Call) (reply : Reply) :
    Prop :=
  ∃ (request body : Bytes) (c' : Client τ),
    (Message.toModel call).encode address.limit = .ok request ∧
      c.exchange machine address request = (.ok body, c') ∧
      Reply.decode address.limit body = .ok reply

theorem backend_of_replied {machine : Peer τ} {address : Address} {c : Client τ} {call : Call}
    {reply : Reply} (h : Replied machine address c call reply) :
    (backend machine address call c).1 = reply.toAnswer call := by
  obtain ⟨request, body, c', hrequest, hexchange, hreply⟩ := h
  simp only [backend, Client.call, hrequest, hexchange, hreply]

end Client

/-- A peer that has only so much to say: its state is what the client has not taken of it. -/
def Peer.monologue : Peer Bytes where
  connect _ s := (.ok 0, s)
  send _ _ s := (.ok (), s)
  receive _ size s := (.ok (s.take size), s.drop size)
  close _ s := s

namespace Client

theorem fill_monologue {id size : Nat} {s : Bytes} (h : size ≤ s.length) :
    fill .monologue id size s = (.ok (s.take size), s.drop size) := by
  have hlength : ¬ (s.take size).length < size := by
    rw [List.length_take_of_le h]
    exact Nat.lt_irrefl size
  simp only [fill, Peer.monologue, if_neg hlength, List.take_take, Nat.min_self]

theorem takeFrame_monologue {limit : Nat} {body : Bytes} (id : Nat)
    (hsize : body.length < UInt32.size) (hfits : body.length ≤ limit) :
    takeFrame .monologue limit id (Frame.header body.length ++ body) = (.ok body, []) := by
  have hheader : Frame.headerSize ≤ (Frame.header body.length ++ body).length := by
    rw [List.length_append, Frame.length_header]
    exact Nat.le_add_right ..
  have htake : (Frame.header body.length ++ body).take Frame.headerSize =
      Frame.header body.length := List.take_left' (Frame.length_header _)
  have hdrop : (Frame.header body.length ++ body).drop Frame.headerSize = body :=
    List.drop_left' (Frame.length_header _)
  simp only [takeFrame, fill_monologue hheader, htake, hdrop, Frame.number_header hsize,
    if_neg (Nat.not_lt.2 hfits), fill_monologue (Nat.le_refl body.length), List.take_length,
    List.drop_length]

theorem exchange_monologue {limit : Nat} {request body : Bytes} (socket : Path)
    (hlimit : limit < UInt32.size) (hrequest : request.length ≤ limit)
    (hbody : body.length ≤ limit) :
    (new (Frame.header body.length ++ body)).exchange .monologue ⟨socket, limit⟩ request =
      (.ok body, ⟨some 0, []⟩) := by
  have hconnect (s : Bytes) : Peer.monologue.connect socket s = (.ok 0, s) := rfl
  have hsend (frame s : Bytes) : Peer.monologue.send 0 frame s = (.ok (), s) := rfl
  have hframe : Frame.encode limit request = _ :=
    Frame.encode_of_lt (Nat.lt_of_le_of_lt hrequest hlimit) hrequest
  have htake := takeFrame_monologue 0 (Nat.lt_of_le_of_lt hbody hlimit) hbody
  simp only [exchange, connect, new, hconnect, sendFrame, hframe, hsend, htake]

/-- A peer can say every reply that keeps the limit. -/
theorem replied_monologue {limit : Nat} {call : Call} {reply : Reply} (socket : Path)
    (hlimit : limit < UInt32.size) (hrequest : Wire.size (Message.toModel call).toJson ≤ limit)
    (hreply : Wire.size reply.toJson ≤ limit) :
    Replied .monologue ⟨socket, limit⟩ (new (Wire.frame reply.toJson)) call reply :=
  ⟨_, _, _, Wire.encode_of_le hrequest, exchange_monologue socket hlimit hrequest hreply,
    Reply.decode_compact hreply⟩

/-! ## What is forwarded -/

/-- What replies are to mean to a client: a result is the payload of a success of the own kind, a
refusal has a code of failure, which is that of the reply unless this is of a foreign kind, and so a
handler that forwards it does not report a success. -/
def AnswersMeanReplies : Prop :=
  ∀ (τ : Type) (machine : Peer τ) (address : Address) (c : Client τ) (call : Call) (reply : Reply),
    Replied machine address c call reply →
      let answer := (backend machine address call c).1
      (∀ v, answer = .ok v ↔ reply.payload? call.method = some v ∧ reply.code = .ok) ∧
        (∀ refusal, answer = .error refusal →
          refusal.code ≠ .ok ∧
            refusal.code =
              if reply.kind = call.method.replyKind ∨ reply.kind = .error then reply.code
              else .io) ∧
        ((Handlers.handler (.of (backend machine address)) call.method call c).1.code = .ok →
          ∃ v, answer = .ok v)

/-- An error of the bus with status zero. -/
def oddError : Reply := .error .ok "odd"

/-- A client that is told so when it looks something up. -/
theorem replied_oddError :
    Replied .monologue ⟨.ofText "agent.sock", 1024⟩ (new (Wire.frame oddError.toJson))
      (.get "m" 1) oddError :=
  replied_monologue _ (by decide) (by decide +kernel) (by decide +kernel)

theorem not_answersMeanReplies : ¬ AnswersMeanReplies := by
  intro h
  obtain ⟨-, hrefusals, -⟩ := h _ _ _ _ _ _ replied_oddError
  exact (hrefusals ⟨.ok, "odd"⟩ (backend_of_replied replied_oddError)).1 rfl

/-- **What a client makes of a reply.**  Whatever a peer has sent back to a request, if it is a
reply, then the client has a result just when the reply is of the kind of the method and has the
status of a success, and then it is the payload.  Any other reply is refused: with its own code if
it is of the kind of the method or an error of the bus, and with the code of the client's faults if
it is not.  The code of a refusal is that of a success only if the reply is an error of the bus with
that status, and only then a handler that is asked on behalf of the client reports a success without
a result. -/
theorem answer_means_reply {machine : Peer τ} {address : Address} {c : Client τ} {call : Call}
    {reply : Reply} (h : Replied machine address c call reply) :
    let answer := (backend machine address call c).1
    let forwarded := (Handlers.handler (.of (backend machine address)) call.method call c).1
    ((∃ v, answer = .ok v) ↔ reply.kind = call.method.replyKind ∧ reply.code = .ok) ∧
    (∀ v, answer = .ok v → reply.payload? call.method = some v) ∧
    (∀ refusal, answer = .error refusal →
      refusal.code =
          (if reply.kind = call.method.replyKind ∨ reply.kind = .error then reply.code else .io) ∧
        (refusal.code = .ok ↔ reply.kind = .error ∧ reply.code = .ok)) ∧
    forwarded.kind = call.method.replyKind ∧
    (forwarded.code = .ok ↔ (∃ v, answer = .ok v) ∨ reply.kind = .error ∧ reply.code = .ok) := by
  intro answer forwarded
  have hanswer : answer = reply.toAnswer call := backend_of_replied h
  have hforwarded : forwarded = .ofAnswer call answer :=
    congrArg Prod.fst (Handlers.handler_apply (backend machine address) call c)
  have hresult : (∃ v, answer = .ok v) ↔
      reply.kind = call.method.replyKind ∧ reply.code = .ok := by
    simp only [hanswer, Reply.toAnswer_eq_ok_iff, ← Reply.payload?_isSome_iff,
      Option.isSome_iff_exists, exists_and_right]
  refine ⟨hresult, fun v hv => ?_, fun refusal hrefusal => ?_, ?_, ?_⟩
  · exact (Reply.toAnswer_eq_ok_iff.1 (hanswer.symm.trans hv)).1
  · have hrefusal : reply.toAnswer call = .error refusal := hanswer.symm.trans hrefusal
    exact ⟨(Reply.code_of_toAnswer hrefusal).1, Reply.code_of_toAnswer_eq_ok_iff hrefusal⟩
  · rw [hforwarded, Reply.kind_ofAnswer]
  · rw [hforwarded, Reply.code_ofAnswer]
    cases hcase : answer with
    | ok v => exact iff_of_true rfl (.inl ⟨v, rfl⟩)
    | error refusal =>
      have hnone : ¬ ∃ v, (.error refusal : Answer call) = .ok v := by
        rintro ⟨v, ⟨⟩⟩
      rw [statusOf, Reply.code_of_toAnswer_eq_ok_iff (hanswer.symm.trans hcase),
        or_iff_right hnone]

/-- A handler that asks a client which is told of an error with status zero reports a success. -/
theorem answer_means_reply_of_oddError :
    Replied .monologue ⟨.ofText "agent.sock", 1024⟩ (new (Wire.frame oddError.toJson))
        (.get "m" 1) oddError ∧
      (Handlers.handler (.of (backend .monologue ⟨.ofText "agent.sock", 1024⟩)) .get (.get "m" 1)
        (new (Wire.frame oddError.toJson))).1.code = .ok :=
  ⟨replied_oddError, (answer_means_reply replied_oddError).2.2.2.2.2 (.inr ⟨rfl, rfl⟩)⟩

end Client
end ModelRegistry
