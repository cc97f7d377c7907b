import ModelRegistry.Proofs.Daemon.Serving
import ModelRegistry.Proofs.Wire.Frames
import ModelRegistry.Proofs.Wire.Size
import ModelRegistry.Server

/-!
# What the server sends for a request

A server that is not draining answers the frame of a model call with one frame.  What that frame
holds is `Reply.sent?`: the reply itself if its document fits, else the error that stands in for it.
Nothing of the server changes but the state of the backend (`Server.after`).

The server ends the connection only when not even the error fits, which cannot happen for lengths of
64 bits under a limit of 4096 bytes or more, or when a document within the limit is longer than the
header of a frame can say (`Reply.delivered?`), which cannot happen under a limit of 32 bits.
-/

namespace ModelRegistry

variable {β σ : Type}

/-! ## Replies under a limit -/

/-- The error that stands in for a reply whose document is too long. -/
def Reply.oversize (limit : Nat) (r : Reply) : Reply :=
  .error .invalidParameter (WireError.tooLarge (Wire.size r.toJson) limit).message

/-- What is sent for a reply under a limit. -/
def Reply.sent? (limit : Nat) (r : Reply) : Option Reply :=
  if Wire.size r.toJson ≤ limit then some r
  else if Wire.size (r.oversize limit).toJson ≤ limit then some (r.oversize limit)
  else none

theorem Reply.sent?_of_le {limit : Nat} {r : Reply} (h : Wire.size r.toJson ≤ limit) :
    r.sent? limit = some r := if_pos h

/-- A reply that is too long is replaced by an error, if its length is a number of 64 bits. -/
theorem Reply.sent?_of_lt {limit : Nat} {r : Reply} (h : limit < Wire.size r.toJson)
    (hlow : 4096 ≤ limit) (hhigh : limit < UInt32.size) (hsize : Wire.size r.toJson < UInt64.size) :
    r.sent? limit = some (r.oversize limit) := by
  have hlimit : limit < UInt64.size := Nat.lt_trans hhigh (by decide)
  rw [Reply.sent?, if_neg (Nat.not_le.2 h)]
  exact if_pos (Nat.le_trans (size_tooLarge_le hsize hlimit) hlow)

theorem Reply.size_le_of_sent? {limit : Nat} {r sent : Reply} (h : r.sent? limit = some sent) :
    Wire.size sent.toJson ≤ limit := by
  unfold Reply.sent? at h
  split at h
  · next hfits =>
    cases h
    exact hfits
  · obtain ⟨hfits, hsent⟩ := Option.ite_none_right_eq_some.1 h
    obtain rfl := Option.some.inj hsent
    exact hfits

/-- What the other end is given: what is sent, unless a header cannot say how long it is. -/
def Reply.delivered? (limit : Nat) (r : Reply) : Option Reply :=
  (r.sent? limit).filter fun sent => Wire.size sent.toJson < UInt32.size

/-- Under a limit of 32 bits every header can say how long a document is. -/
theorem Reply.delivered?_eq_sent? {limit : Nat} (hlimit : limit < UInt32.size) (r : Reply) :
    r.delivered? limit = r.sent? limit := by
  rw [Reply.delivered?]
  cases hsent : r.sent? limit with
  | none => rfl
  | some sent =>
    have hframe := Nat.lt_of_le_of_lt (Reply.size_le_of_sent? hsent) hlimit
    rw [Option.filter_some, if_pos (decide_eq_true hframe)]

theorem Reply.delivered?_of_le {limit : Nat} {r : Reply} (h : Wire.size r.toJson ≤ limit)
    (hframe : Wire.size r.toJson < UInt32.size) : r.delivered? limit = some r := by
  rw [Reply.delivered?, Reply.sent?_of_le h, Option.filter_some, if_pos (decide_eq_true hframe)]

theorem Reply.delivered?_of_ge {limit : Nat} {r : Reply} (h : Wire.size r.toJson ≤ limit)
    (hframe : UInt32.size ≤ Wire.size r.toJson) : r.delivered? limit = none := by
  have hnot : ¬ decide (Wire.size r.toJson < UInt32.size) = true := by
    rw [decide_eq_true_eq]
    exact Nat.not_lt.2 hframe
  rw [Reply.delivered?, Reply.sent?_of_le h, Option.filter_some, if_neg hnot]

/-- The error in place of a reply that is too long is short enough for any header. -/
theorem Reply.delivered?_of_lt {limit : Nat} {r : Reply} (h : limit < Wire.size r.toJson)
    (hlow : 4096 ≤ limit) (hsize : Wire.size r.toJson < UInt64.size) :
    r.delivered? limit = some (r.oversize limit) := by
  have herror : Wire.size (r.oversize limit).toJson ≤ 4096 :=
    size_tooLarge_le hsize (Nat.lt_trans h hsize)
  have hframe : Wire.size (r.oversize limit).toJson < UInt32.size :=
    Nat.lt_of_le_of_lt herror (by decide)
  rw [Reply.delivered?, Reply.sent?, if_neg (Nat.not_le.2 h), if_pos (Nat.le_trans herror hlow),
    Option.filter_some, if_pos (decide_eq_true hframe)]

theorem Reply.size_of_delivered? {limit : Nat} {r sent : Reply}
    (h : r.delivered? limit = some sent) :
    Wire.size sent.toJson ≤ limit ∧ Wire.size sent.toJson < UInt32.size := by
  obtain ⟨hsent, hframe⟩ := Option.filter_eq_some_iff.1 h
  exact ⟨Reply.size_le_of_sent? hsent, of_decide_eq_true hframe⟩

namespace Server

theorem replyDocument_eq (limit : Nat) (r : Reply) :
    replyDocument limit r = (r.sent? limit).map fun sent => Text.bytes sent.toJson.compact := by
  unfold replyDocument Reply.sent? Reply.encode
  by_cases hfits : Wire.size r.toJson ≤ limit
  · simp only [Wire.encode_of_le hfits, if_pos hfits, Option.map_some]
  · simp only [Wire.encode_of_lt (Nat.lt_of_not_le hfits), if_neg hfits]
    by_cases herror : Wire.size (r.oversize limit).toJson ≤ limit
    · rw [if_pos herror]
      show (Wire.encode limit (r.oversize limit).toJson).toOption = _
      rw [Wire.encode_of_le herror]
      rfl
    · rw [if_neg herror]
      show (Wire.encode limit (r.oversize limit).toJson).toOption = _
      rw [Wire.encode_of_lt (Nat.lt_of_not_le herror)]
      rfl

/-- The frame that is sent is that of the reply that is delivered. -/
theorem replyFrame_eq (limit : Nat) (r : Reply) :
    replyFrame limit r = (r.delivered? limit).map fun sent => Wire.frame sent.toJson := by
  rw [replyFrame, replyDocument_eq, Reply.delivered?]
  cases hsent : r.sent? limit with
  | none => rfl
  | some sent =>
    have hfits := Reply.size_le_of_sent? hsent
    show (Frame.encode limit (Text.bytes sent.toJson.compact)).toOption = _
    rw [Option.filter_some]
    by_cases hframe : Wire.size sent.toJson < UInt32.size
    · rw [if_pos (decide_eq_true hframe), Frame.encode_of_lt hframe hfits]
      rfl
    · rw [if_neg (by simpa using hframe), Frame.encode_of_ge (Nat.le_of_not_lt hframe)]
      rfl

/-! ## Requests -/

/-- The server once its backend has been called. -/
def after (backend : Backend σ) (c : Call) (s : Server β σ) : Server β σ :=
  { s with
    daemon := { s.daemon with
      context := { s.daemon.context with
        backend := (backend c s.daemon.context.backend).2 } } }

variable {backend : Backend σ} {s : Server β σ} {c : Call}

/-- The message in a body is answered by the daemon. -/
theorem handle_of_decode {body : Bytes} {m : Message}
    (hdecode : Message.decode s.limit body = .ok m) :
    handle body s = ((s.daemon.dispatch m).1, { s with daemon := (s.daemon.dispatch m).2 }) := by
  simp only [handle, hdecode]

/-- Without a drain a body is only handled: the call has been counted in between, and is not counted
any more. -/
theorem answer_of_admits (hadmits : s.drain.draining = false) (body : Bytes) :
    answer body s = handle body s := by
  have htrack : s.drain.track? = some s.drain.enter := by simp [Drain.track?, hadmits]
  have hleave : s.drain.enter.leave = s.drain := rfl
  simp only [answer, htrack, handle]
  cases Message.decode s.limit body with
  | error e => simp only [hleave]
  | ok m => simp only [hleave]

theorem answer_of_serves (hserves : s.daemon.Serves backend) (hadmits : s.drain.draining = false)
    (hfits : Wire.size (Message.toModel c).toJson ≤ s.limit) :
    answer (Text.bytes (Message.toModel c).toJson.compact) s =
      (.ofAnswer c (backend c s.daemon.context.backend).1, s.after backend c) := by
  have hdecode : Message.decode s.limit (Text.bytes (Message.toModel c).toJson.compact) =
      .ok (.toModel c) := Message.decode_compact hfits
  rw [answer_of_admits hadmits, handle_of_decode hdecode, Daemon.dispatch_of_serves hserves]
  rfl

/-- A stream that no whole frame begins is not answered. -/
theorem serve_of_ends {rest : Bytes}
    (h : ∀ body later, Frame.cut s.limit rest ≠ .whole body later) :
    serve rest s = ⟨[], Frame.kept s.limit rest, s⟩ := by
  rw [serve, serveFrom, Frame.kept]
  split
  · next hcut => simp only [hcut, List.reverse_nil, List.flatten_nil]
  · next hcut => simp only [hcut, List.reverse_nil, List.flatten_nil]
  · next hcut => simp only [hcut, List.reverse_nil, List.flatten_nil]
  · next hcut => exact absurd hcut (h _ _)

/-- The frame at the front of a stream is answered with one frame, before what comes behind it, or
the connection ends. -/
theorem serve_framed {body : Bytes} (hbody : body.length ≤ s.limit)
    (hframe : body.length < UInt32.size) (rest : Bytes) :
    serve (Frame.framed body ++ rest) s =
      match (answer body s).1.delivered? s.limit with
      | some sent =>
        { serve rest (answer body s).2 with
          output := Wire.frame sent.toJson ++ (serve rest (answer body s).2).output }
      | none => ⟨[], none, (answer body s).2⟩ := by
  have hcut : Frame.cut s.limit (Frame.framed body ++ rest) = .whole body rest := by
    rw [Frame.framed, Frame.cut_header s.limit hframe, if_neg (Nat.not_lt.2 hbody)]
  rw [serve, serveFrom]
  split
  · next h => rw [hcut] at h; cases h
  · next h => rw [hcut] at h; cases h
  · next h => rw [hcut] at h; cases h
  · next h =>
    rw [hcut] at h
    cases h
    simp only [replyFrame_eq]
    cases hsent : (answer body s).1.delivered? s.limit with
    | none => rfl
    | some sent =>
      simp only [Option.map_some, serveFrom_eq [Wire.frame sent.toJson]]
      simp

/-- A request that makes up all unread bytes is answered with one frame, or the connection ends. -/
theorem serve_of_answer {body : Bytes} {r : Reply} {s' : Server β σ} (hbody : body.length ≤ s.limit)
    (hframe : body.length < UInt32.size) (hanswer : answer body s = (r, s')) :
    serve (Frame.header body.length ++ body) s =
      match r.delivered? s.limit with
      | some sent => ⟨Wire.frame sent.toJson, some [], s'⟩
      | none => ⟨[], none, s'⟩ := by
  have hserve := serve_framed hbody hframe []
  rw [List.append_nil, hanswer] at hserve
  have hnil : serve [] s' = ⟨[], some [], s'⟩ :=
    serve_of_ends fun body later h => by cases h
  rw [← Frame.framed, hserve]
  simp only [hnil, List.append_nil]

/-! ## Connections -/

/-- The only connection ends. -/
theorem drop_of_single {id : Nat} {waiting : Bytes} (h : s.connections = [(id, waiting)]) :
    s.drop id = { s with limiter := s.limiter.release, connections := [] } := by
  have hopen : s.isOpen id = true := by simp [isOpen, h]
  rw [drop, if_pos hopen]
  simp [h]

/-- The server once its backend has been called and its only connection has ended. -/
def afterLast (backend : Backend σ) (c : Call) (s : Server β σ) : Server β σ :=
  { s.after backend c with limiter := s.limiter.release, connections := [] }

/-- A request on the only connection: one frame is sent and the connection stays, or it ends. -/
theorem feed_request {id : Nat} (hserves : s.daemon.Serves backend)
    (hadmits : s.drain.draining = false)
    (hfits : Wire.size (Message.toModel c).toJson ≤ s.limit)
    (hframe : Wire.size (Message.toModel c).toJson < UInt32.size)
    (hconnections : s.connections = [(id, [])]) :
    s.feed id (Wire.frame (Message.toModel c).toJson) =
      match (Reply.ofAnswer c (backend c s.daemon.context.backend).1).delivered? s.limit with
      | some sent => (Wire.frame sent.toJson, s.after backend c)
      | none => ([], s.afterLast backend c) := by
  have hserve := serve_of_answer hfits hframe (answer_of_serves hserves hadmits hfits)
  have hlookup : s.connections.lookup id = some [] := by simp [hconnections]
  simp only [feed, hlookup, List.nil_append, Wire.frame, Wire.size, hserve]
  cases (Reply.ofAnswer c (backend c s.daemon.context.backend).1).delivered? s.limit with
  | some sent =>
    simp only [after, hconnections, List.map_cons, List.map_nil, if_true]
  | none =>
    have hdrop : drop id (s.after backend c) = s.afterLast backend c :=
      drop_of_single hconnections
    simp only [hdrop]

end Server
end ModelRegistry
