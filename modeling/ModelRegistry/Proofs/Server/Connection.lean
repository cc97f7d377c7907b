import ModelRegistry.Proofs.Server.Replies
import ModelRegistry.Proofs.Store.History

/-!
# Every frame of a connection is answered once

However the bytes of a connection arrive, they are the frames of some bodies and a rest that no
whole frame begins (`Frame.Splits`).  `Daemon.answerAll` is what the daemon makes of these bodies,
one after the other, and `Server.feedAll_of_splits` says that the server sends one frame for each of
them, in order, and nothing else.

That the connection lasts so long rests on sizes.  What cannot be sent is replaced by an error about
its length, and that error is short, provided that the length is a number of 64 bits.  For errors
about messages it is, because their words grow with the message alone, which is within the limit.
-/

namespace ModelRegistry

variable {β σ : Type}

/-! ## What is sent for a body -/

/-- What is sent for a reply under a limit at which an error about its length always fits. -/
def Reply.sent (limit : Nat) (r : Reply) : Reply :=
  if Wire.size r.toJson ≤ limit then r else r.oversize limit

theorem Reply.sent_of_le {limit : Nat} {r : Reply} (h : Wire.size r.toJson ≤ limit) :
    r.sent limit = r := if_pos h

/-- An error about the length of a reply fits, if that length is a number of 64 bits. -/
theorem Reply.sent?_eq_sent {limit : Nat} {r : Reply} (hlow : 4096 ≤ limit)
    (hhigh : limit < UInt32.size) (hsize : Wire.size r.toJson < UInt64.size) :
    r.sent? limit = some (r.sent limit) := by
  by_cases hfits : Wire.size r.toJson ≤ limit
  · rw [Reply.sent?_of_le hfits, Reply.sent_of_le hfits]
  · rw [Reply.sent?_of_lt (Nat.lt_of_not_le hfits) hlow hhigh hsize, Reply.sent, if_neg hfits]

theorem Reply.size_sent_le {limit : Nat} {r : Reply} (hlow : 4096 ≤ limit)
    (hhigh : limit < UInt32.size) (hsize : Wire.size r.toJson < UInt64.size) :
    Wire.size (r.sent limit).toJson ≤ limit :=
  Reply.size_le_of_sent? (Reply.sent?_eq_sent hlow hhigh hsize)

namespace Server

/-- The reply to a message, or to a body that holds none. -/
def replyTo : Except WireError Reply → Reply
  | .ok reply => reply
  | .error e => .error .invalidParameter e.message

/-- A body that holds no message is answered with an error about a parameter, whichever of the two
errors it is. -/
theorem sent_refusal (limit : Nat) (e : WireError) :
    ∃ message, (replyTo (.error e)).sent limit = .error .invalidParameter message := by
  unfold Reply.sent
  split
  · exact ⟨_, rfl⟩
  · exact ⟨_, rfl⟩

end Server

/-! ## What the daemon makes of bodies -/

namespace Daemon

/-- The reply that names an object which is not there grows with the path alone. -/
theorem size_noObject_lt {limit : Nat} (hlimit : limit < UInt32.size) {objectPath : String}
    (h : objectPath.length ≤ limit) : Wire.size (noObject objectPath).toJson < UInt64.size := by
  have hpath : objectPath.length < 0x100000000 := Nat.lt_of_le_of_lt h hlimit
  have hmessage : ("no object at '" ++ objectPath ++ "'").length = objectPath.length + 15 := by
    rw [String.length_append, String.length_append]
    show 14 + objectPath.length + 1 = _
    omega
  have hbytes := Text.length_bytes_le ("no object at '" ++ objectPath ++ "'")
  have hsize := Reply.size_error_le .unavailable ("no object at '" ++ objectPath ++ "'")
  show Wire.size (noObject objectPath).toJson < 0x10000000000000000
  rw [noObject]
  omega

/-- What becomes of the bodies of frames in order: the reply to the message in each, or why there is
none. -/
def answerAll (limit : Nat) : List Bytes → Daemon β σ → List (Except WireError Reply) × Daemon β σ
  | [], d => ([], d)
  | body :: bodies, d =>
    match Message.decode limit body with
    | .error e =>
      let (outcomes, d) := answerAll limit bodies d
      (.error e :: outcomes, d)
    | .ok m =>
      let (reply, d) := d.dispatch m
      let (outcomes, d) := answerAll limit bodies d
      (.ok reply :: outcomes, d)

/-- The call that the body of a frame puts to the backend: that of a message to an object that is
there. -/
def call? (limit : Nat) (d : Daemon β σ) (body : Bytes) : Option Call :=
  match Message.decode limit body with
  | .error _ => none
  | .ok m => if (d.context.service? m.objectPath).isSome then some m.call else none

/-- The calls that the bodies of frames put to the backend, in order. -/
def calls (limit : Nat) (d : Daemon β σ) (bodies : List Bytes) : List Call :=
  bodies.filterMap (d.call? limit)

variable {limit : Nat} {backend : Backend σ}

/-- There is one outcome for each body. -/
theorem length_answerAll (bodies : List Bytes) (d : Daemon β σ) :
    (answerAll limit bodies d).1.length = bodies.length := by
  induction bodies generalizing d with
  | nil => rfl
  | cons body bodies ih =>
    rw [answerAll]
    cases Message.decode limit body with
    | error e => simp only [List.length_cons, ih]
    | ok m => simp only [List.length_cons, ih]

theorem answerAll_append (bodies bodies' : List Bytes) (d : Daemon β σ) :
    answerAll limit (bodies ++ bodies') d =
      ((answerAll limit bodies d).1 ++ (answerAll limit bodies' (answerAll limit bodies d).2).1,
        (answerAll limit bodies' (answerAll limit bodies d).2).2) := by
  induction bodies generalizing d with
  | nil => rfl
  | cons body bodies ih =>
    rw [List.cons_append, answerAll, answerAll]
    cases Message.decode limit body with
    | error e => simp only [ih, List.cons_append]
    | ok m => simp only [ih, List.cons_append]

/-- The daemon with its backend in another state. -/
def withBackend (state : σ) (d : Daemon β σ) : Daemon β σ :=
  { d with context := { d.context with backend := state } }

/-- A body that puts a call to the backend is answered by what the backend says. -/
theorem answerAll_of_call {d : Daemon β σ} (h : d.Answers backend) {body : Bytes} {c : Call}
    (hcall : d.call? limit body = some c) (bodies : List Bytes) :
    answerAll limit (body :: bodies) d =
      (.ok (.ofAnswer c (backend c d.context.backend).1) ::
          (answerAll limit bodies (d.withBackend (backend c d.context.backend).2)).1,
        (answerAll limit bodies (d.withBackend (backend c d.context.backend).2)).2) := by
  unfold call? at hcall
  rw [answerAll]
  split at hcall
  · cases hcall
  · next m hdecode =>
    obtain ⟨hservice, hm⟩ := Option.ite_none_right_eq_some.1 hcall
    obtain rfl := Option.some.inj hm
    simp only [dispatch_of_answers h, if_pos hservice, withBackend]

/-- Any other body is refused, in words that a number of 64 bits can count, and changes nothing. -/
theorem answerAll_of_no_call {d : Daemon β σ} (h : d.Answers backend) {body : Bytes}
    (hcall : d.call? limit body = none) (bodies : List Bytes) :
    ∃ outcome, answerAll limit (body :: bodies) d =
        (outcome :: (answerAll limit bodies d).1, (answerAll limit bodies d).2) ∧
      (body.length ≤ limit → limit < UInt32.size →
        Wire.size (Server.replyTo outcome).toJson < UInt64.size) := by
  unfold call? at hcall
  rw [answerAll]
  split at hcall
  · next e hdecode =>
    exact ⟨.error e, rfl, fun hfits hlimit => Message.size_refused_lt hlimit hfits hdecode⟩
  · next m hdecode =>
    have hservice : ¬ (d.context.service? m.objectPath).isSome := by
      intro hsome
      rw [if_pos hsome] at hcall
      cases hcall
    simp only [dispatch_of_answers h, if_neg hservice]
    refine ⟨.ok (noObject m.objectPath), rfl, ?_⟩
    intro hfits hlimit
    exact size_noObject_lt hlimit (Nat.le_trans (Message.length_objectPath_le hdecode) hfits)

theorem answerAll_state {d : Daemon β σ} (h : d.Answers backend) (bodies : List Bytes) :
    (answerAll limit bodies d).2 =
      d.withBackend (backend.run (d.calls limit bodies) d.context.backend).2 := by
  induction bodies generalizing d with
  | nil => rfl
  | cons body bodies ih =>
    cases hcall : d.call? limit body with
    | none =>
      obtain ⟨outcome, hanswer, -⟩ := answerAll_of_no_call h hcall bodies
      rw [hanswer, calls, List.filterMap_cons_none hcall]
      exact ih h
    | some c =>
      rw [answerAll_of_call h hcall, calls, List.filterMap_cons_some hcall]
      exact ih (d := d.withBackend (backend c d.context.backend).2) h

/-- When the answers of the backend are counted by numbers of 64 bits, all replies are. -/
theorem size_replyTo_lt {d : Daemon β σ} (h : d.Answers backend) (hlimit : limit < UInt32.size)
    {bodies : List Bytes} (hbodies : ∀ body ∈ bodies, body.length ≤ limit)
    (hanswers : ∀ e ∈ (backend.run (d.calls limit bodies) d.context.backend).1,
      Wire.size (Reply.ofAnswer e.call e.answer).toJson < UInt64.size) :
    ∀ outcome ∈ (answerAll limit bodies d).1,
      Wire.size (Server.replyTo outcome).toJson < UInt64.size := by
  induction bodies generalizing d with
  | nil => simp [answerAll]
  | cons body bodies ih =>
    obtain ⟨hbody, hbodies⟩ := List.forall_mem_cons.1 hbodies
    cases hcall : d.call? limit body with
    | none =>
      rw [calls, List.filterMap_cons_none hcall] at hanswers
      obtain ⟨outcome, hanswer, hsize⟩ := answerAll_of_no_call h hcall bodies
      rw [hanswer]
      exact List.forall_mem_cons.2 ⟨hsize hbody hlimit, ih h hbodies hanswers⟩
    | some c =>
      rw [calls, List.filterMap_cons_some hcall] at hanswers
      obtain ⟨hfirst, hlater⟩ := List.forall_mem_cons.1 hanswers
      rw [answerAll_of_call h hcall]
      exact List.forall_mem_cons.2
        ⟨hfirst, ih (d := d.withBackend (backend c d.context.backend).2) h hbodies hlater⟩

end Daemon

/-! ## What the server sends -/

namespace Server

/-- The replies that are sent for some outcomes. -/
def replies (limit : Nat) (outcomes : List (Except WireError Reply)) : List Reply :=
  outcomes.map fun outcome => (replyTo outcome).sent limit

/-- The frames of some replies, one behind the other. -/
def frames (rs : List Reply) : Bytes := rs.flatMap fun r => Wire.frame r.toJson

theorem frames_replies_append (limit : Nat) (outcomes outcomes' : List (Except WireError Reply)) :
    frames (replies limit (outcomes ++ outcomes')) =
      frames (replies limit outcomes) ++ frames (replies limit outcomes') := by
  simp only [frames, replies, List.map_append, List.flatMap_append]

/-- A body is handled as the daemon does, and only the daemon changes. -/
theorem handle_eq_answerAll (body : Bytes) (bodies : List Bytes) (s : Server β σ) :
    ∃ outcome d, handle body s = (replyTo outcome, { s with daemon := d }) ∧
      s.daemon.answerAll s.limit (body :: bodies) =
        (outcome :: (d.answerAll s.limit bodies).1, (d.answerAll s.limit bodies).2) := by
  rw [handle, Daemon.answerAll]
  cases Message.decode s.limit body with
  | error e => exact ⟨.error e, s.daemon, rfl, rfl⟩
  | ok m => exact ⟨.ok (s.daemon.dispatch m).1, (s.daemon.dispatch m).2, rfl, rfl⟩

/-- Bytes are answered with one frame for each frame in them. -/
theorem serve_of_splits {s : Server β σ} (hadmits : s.drain.draining = false)
    (hlow : 4096 ≤ s.limit) (hhigh : s.limit < UInt32.size) {unread rest : Bytes}
    {bodies : List Bytes} (hsplits : Frame.Splits s.limit unread bodies rest)
    (hsizes : ∀ outcome ∈ (s.daemon.answerAll s.limit bodies).1,
      Wire.size (replyTo outcome).toJson < UInt64.size) :
    serve unread s =
      ⟨frames (replies s.limit (s.daemon.answerAll s.limit bodies).1), Frame.kept s.limit rest,
        { s with daemon := (s.daemon.answerAll s.limit bodies).2 }⟩ := by
  obtain ⟨rfl, hfits, hends⟩ := hsplits
  induction bodies generalizing s with
  | nil => exact serve_of_ends hends
  | cons body bodies ih =>
    obtain ⟨hbody, hfits⟩ := List.forall_mem_cons.1 hfits
    obtain ⟨outcome, d, hhandle, hall⟩ := handle_eq_answerAll body bodies s
    have hanswer := (answer_of_admits hadmits body).trans hhandle
    rw [hall] at hsizes
    obtain ⟨hsize, hsizes⟩ := List.forall_mem_cons.1 hsizes
    have hframe := Nat.lt_of_le_of_lt hbody hhigh
    have hserve := serve_framed hbody hframe (Frame.stream bodies ++ rest)
    have hlater := ih (s := { s with daemon := d }) hadmits hlow hhigh hsizes hfits hends
    rw [Frame.stream, List.flatMap_cons, List.append_assoc, ← Frame.stream, hserve, hanswer]
    simp only [Reply.delivered?_eq_sent? hhigh, Reply.sent?_eq_sent hlow hhigh hsize, hlater, hall]
    rfl

/-! ## Chunks of a stream -/

/-- Take the bytes of a connection as they arrive; the answer is what is sent back in all. -/
def feedAll (id : Nat) : List Bytes → Server β σ → Bytes × Server β σ
  | [], s => ([], s)
  | bytes :: chunks, s =>
    let (output, s) := s.feed id bytes
    let (later, s) := feedAll id chunks s
    (output ++ later, s)

/-- A connection that is gone takes nothing. -/
theorem feedAll_of_closed {id : Nat} {s : Server β σ} (h : s.connections.lookup id = none)
    (chunks : List Bytes) : feedAll id chunks s = ([], s) := by
  induction chunks with
  | nil => rfl
  | cons bytes chunks ih =>
    have hfeed : s.feed id bytes = ([], s) := by simp only [feed, h]
    simp only [feedAll, hfeed, ih, List.append_nil]

theorem lookup_left {connections : List (Nat × Bytes)} {id : Nat} {unread left : Bytes}
    (h : connections.lookup id = some unread) :
    (connections.map fun c => if c.1 = id then (id, left) else c).lookup id = some left := by
  induction connections with
  | nil => cases h
  | cons c connections ih =>
    rw [List.map_cons]
    by_cases hc : c.1 = id
    · rw [if_pos hc, List.lookup_cons_self]
    · have hne : (id == c.1) = false := beq_eq_false_iff_ne.2 (Ne.symm hc)
      rw [if_neg hc, List.lookup_cons, hne]
      rw [List.lookup_cons, hne] at h
      exact ih h

theorem lookup_drop (id : Nat) (s : Server β σ) : (s.drop id).connections.lookup id = none := by
  rw [List.lookup_eq_none_iff]
  intro c hc
  have hne : c.1 ≠ id := by
    unfold drop at hc
    split at hc
    · exact of_decide_eq_true (List.mem_filter.1 hc).2
    · next hclosed =>
      intro heq
      exact hclosed (List.any_eq_true.2 ⟨c, hc, decide_eq_true heq⟩)
  exact bne_iff_ne.2 hne.symm

/-- A connection on which no whole frame waits sends one frame for each frame that arrives. -/
theorem feedAll_of_splits {id : Nat} {s : Server β σ} (hadmits : s.drain.draining = false)
    (hlow : 4096 ≤ s.limit) (hhigh : s.limit < UInt32.size) {unread : Bytes}
    (hopen : s.connections.lookup id = some unread) (hwaits : Frame.Splits s.limit unread [] unread)
    (chunks : List Bytes) {bodies : List Bytes} {rest : Bytes}
    (hsplits : Frame.Splits s.limit (unread ++ chunks.flatten) bodies rest)
    (hsizes : ∀ outcome ∈ (s.daemon.answerAll s.limit bodies).1,
      Wire.size (replyTo outcome).toJson < UInt64.size) :
    (feedAll id chunks s).1 = frames (replies s.limit (s.daemon.answerAll s.limit bodies).1) ∧
      (feedAll id chunks s).2.daemon = (s.daemon.answerAll s.limit bodies).2 := by
  induction chunks generalizing s unread bodies rest with
  | nil =>
    rw [List.flatten_nil, List.append_nil] at hsplits
    rw [hsplits.unique hhigh hwaits]
    exact ⟨rfl, rfl⟩
  | cons bytes chunks ih =>
    -- What arrives now is split first; its rest is split again with what arrives later.
    obtain ⟨bodies₁, rest₁, hnow⟩ := Frame.exists_splits s.limit (unread ++ bytes)
    obtain ⟨bodies₂, rest₂, hlater⟩ := Frame.exists_splits s.limit (rest₁ ++ chunks.flatten)
    have hall := hnow.append hlater
    rw [List.append_assoc, ← List.flatten_cons] at hall
    obtain rfl := hsplits.unique hhigh hall
    rw [Daemon.answerAll_append] at hsizes ⊢
    obtain ⟨hsizes₁, hsizes₂⟩ := List.forall_mem_append.1 hsizes
    have hserve := serve_of_splits hadmits hlow hhigh hnow hsizes₁
    simp only [feedAll, feed, hopen, hserve]
    cases hkept : Frame.kept s.limit rest₁ with
    | none =>
      have hnone : bodies₂ = [] :=
        hlater.unique hhigh (Frame.Splits.nil (Frame.ends_of_kept_eq_none hkept _))
      simp only [feedAll_of_closed (lookup_drop id _), hnone, Daemon.answerAll, List.append_nil,
        true_and]
      unfold drop
      split <;> rfl
    | some left =>
      obtain rfl := Frame.eq_of_kept hkept
      obtain ⟨houtput, hdaemon⟩ := ih
        (s := { s with
          daemon := (s.daemon.answerAll s.limit bodies₁).2
          connections := s.connections.map fun c => if c.1 = id then (id, left) else c })
        hadmits hlow hhigh (lookup_left hopen) (.nil hnow.ends) hlater hsizes₂
      simp only [houtput, hdaemon, frames_replies_append, and_self]

/-- Every frame of a connection is answered once.  Whatever arrives, and in whatever pieces, is the
frames of some bodies within the limit and a rest: a length over the limit, a frame that is cut off,
or nothing.  A started daemon sends one frame within the limit for each body, in order, and nothing
else.  A reply decodes to what the daemon says to the message in its body, or to an error when that
is too long or when the body holds no message; and the calls that reach the backend are those of the
messages to a published object, in order. -/
theorem answers_every_frame (bus : Bus β σ) (backend : Backend σ) (b : β) (state : σ)
    {s : Server β σ} {id : Nat}
    (hstarted : s.daemon = (Daemon.start.run (.new bus backend b state)).state)
    (hadmits : s.drain.draining = false) (hlow : 4096 ≤ s.limit) (hhigh : s.limit < UInt32.size)
    (hopen : s.connections.lookup id = some []) (chunks : List Bytes)
    (hanswers : ∀ e ∈ (backend.run
        (s.daemon.calls s.limit (Frame.split s.limit chunks.flatten).1) state).1,
      Wire.size (Reply.ofAnswer e.call e.answer).toJson < UInt64.size) :
    ∃ bodies rest rs,
      Frame.Splits s.limit chunks.flatten bodies rest ∧
      (feedAll id chunks s).1 = frames rs ∧
      rs = replies s.limit (s.daemon.answerAll s.limit bodies).1 ∧
      rs.length = bodies.length ∧
      (∀ r ∈ rs, Wire.size r.toJson ≤ s.limit ∧
        Reply.decode s.limit (Text.bytes r.toJson.compact) = .ok r) ∧
      (feedAll id chunks s).2.daemon = (s.daemon.answerAll s.limit bodies).2 ∧
      (feedAll id chunks s).2.daemon.context.backend =
        (backend.run (s.daemon.calls s.limit bodies) state).2 := by
  obtain ⟨hserves, hstate⟩ := Daemon.answers_start bus backend b state
  rw [← hstarted] at hserves hstate
  obtain ⟨bodies, rest, hsplits⟩ := Frame.exists_splits s.limit chunks.flatten
  rw [hsplits.split_eq hhigh, ← hstate] at hanswers
  have hsizes := Daemon.size_replyTo_lt hserves hhigh hsplits.fits hanswers
  have hwaits : Frame.Splits s.limit [] [] [] := .nil fun body later h => by cases h
  obtain ⟨houtput, hdaemon⟩ :=
    feedAll_of_splits hadmits hlow hhigh hopen hwaits chunks hsplits hsizes
  refine ⟨bodies, rest, _, hsplits, houtput, rfl, ?_, ?_, hdaemon, ?_⟩
  · rw [replies, List.length_map, Daemon.length_answerAll]
  · intro r hr
    obtain ⟨outcome, houtcome, rfl⟩ := List.mem_map.1 hr
    have hsize := Reply.size_sent_le hlow hhigh (hsizes outcome houtcome)
    exact ⟨hsize, Reply.decode_compact hsize⟩
  · rw [hdaemon, Daemon.answerAll_state hserves, hstate]
    rfl

/-- An empty frame in two pieces, a call, and the first byte of a third frame: the first frame holds
no message, the second is answered from the registry, and the third is waited for. -/
theorem answers_two_frames :
    let call : Call := .activate "m" 1
    let daemon := (Daemon.start.run (.new LocalBus.bus Store.backend .new .empty)).state
    let s : Server LocalBus Store := { Server.new daemon 4096 1 with connections := [(0, [])] }
    let chunks := [[0, 0], [0, 0] ++ Wire.frame (Message.toModel call).toJson ++ [0]]
    ∃ message, (feedAll 0 chunks s).1 = frames [.error .invalidParameter message,
      .status (statusOf (Store.backend call .empty).1)] := by
  intro call daemon s chunks
  obtain ⟨hserves, hstate⟩ := Daemon.serves_start Store.backend .empty
  obtain ⟨document, hdocument⟩ :
      ∃ document, document = Text.bytes (Message.toModel call).toJson.compact := ⟨_, rfl⟩
  have hfits : document.length ≤ s.limit := by
    rw [hdocument]
    decide +kernel
  -- What the two bodies hold.
  obtain ⟨e, hrefused⟩ : ∃ e, Message.decode s.limit [] = .error e := ⟨_, rfl⟩
  have hdecode : Message.decode s.limit document = .ok (.toModel call) := by
    rw [hdocument] at hfits ⊢
    exact Message.decode_compact hfits
  have hcalls : s.daemon.calls s.limit [[], document] = [call] := by
    obtain ⟨service, hservice, -⟩ := hserves
    have hsome : (s.daemon.context.service? (Message.toModel call).objectPath).isSome :=
      Option.isSome_iff_exists.2 ⟨service, hservice⟩
    simp only [Daemon.calls, Daemon.call?, List.filterMap_cons, List.filterMap_nil, hrefused,
      hdecode, hsome, if_true]
    rfl
  have hall : (s.daemon.answerAll s.limit [[], document]).1 =
      [.error e, .ok (.ofAnswer call (Store.backend call .empty).1)] := by
    have hdispatch := Daemon.dispatch_of_serves hserves call
    rw [hstate] at hdispatch
    have hdispatched : (s.daemon.dispatch (.toModel call)).1 =
        .ofAnswer call (Store.backend call .empty).1 := congrArg Prod.fst hdispatch
    simp only [Daemon.answerAll, hrefused, hdecode, hdispatched]
  have hsmall (status : Status) : Wire.size (Reply.status status).toJson ≤ s.limit :=
    Nat.le_trans (Reply.size_status_le status) (by decide)
  -- The stream, whichever document it carries.
  have hchunks (document : Bytes) :
      [[0, 0], [0, 0] ++ Frame.framed document ++ [0]].flatten =
        Frame.stream [[], document] ++ [0] := by
    simp only [Frame.stream, List.flatten_cons, List.flatten_nil, List.flatMap_cons,
      List.flatMap_nil, List.append_nil]
    rfl
  have hsplits : Frame.Splits s.limit chunks.flatten [[], document] [0] := by
    refine ⟨?_, ?_, ?_⟩
    · rw [hdocument]
      exact hchunks _
    · exact List.forall_mem_cons.2 ⟨Nat.zero_le _, List.forall_mem_singleton.2 hfits⟩
    · intro body later h
      cases h
  have hanswers : ∀ e ∈ (Store.backend.run
      (s.daemon.calls s.limit (Frame.split s.limit chunks.flatten).1) .empty).1,
      Wire.size (Reply.ofAnswer e.call e.answer).toJson < UInt64.size := by
    rw [hsplits.split_eq (by decide), hcalls]
    refine List.forall_mem_singleton.2 ?_
    exact Nat.lt_of_le_of_lt (hsmall _) (by decide)
  have hopen : s.connections.lookup 0 = some [] := rfl
  obtain ⟨bodies, rest, rs, hbodies, houtput, hreplies, -⟩ :=
    answers_every_frame LocalBus.bus Store.backend .new .empty (s := s) rfl rfl (by decide)
      (by decide) hopen chunks hanswers
  rw [houtput, hreplies, hbodies.unique (by decide) hsplits, hall]
  obtain ⟨message, hmessage⟩ := sent_refusal s.limit e
  refine ⟨message, ?_⟩
  show frames [(replyTo (.error e)).sent s.limit, (Reply.status _).sent s.limit] = _
  rw [hmessage, Reply.sent_of_le (hsmall _)]
  rfl

end Server
end ModelRegistry
