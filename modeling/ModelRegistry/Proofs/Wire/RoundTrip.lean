import ModelRegistry.Frame
import ModelRegistry.Proofs.Wire.Meanings

/-!
# Messages and replies survive the wire

What `Message.encode` and `Reply.encode` write, `Message.decode` and `Reply.decode` read back under
the same limit, and encoding fails exactly when the document is longer than the limit.  A schema is
found among the members it was written with, so what was written is read as what it was made from.

The limit is exact on both sides, and it comes first: a document is refused for its length if and
only if it is longer than the limit, whatever stands in it (`Wire.decode_eq_tooLarge_iff`).
-/

namespace ModelRegistry

open Text (utf8)
open Json (Reader valuesOf)

/-! ## Documents -/

namespace Wire

/-- How many bytes a value takes as a document. -/
def size (j : Json) : Nat := (Text.bytes j.compact).length

/-- The frame of a document. -/
def frame (j : Json) : Bytes := Frame.header (size j) ++ Text.bytes j.compact

theorem bytes_compact (j : Json) : Text.bytes j.compact = utf8 j.write := Text.bytes_ofList j.write

theorem encode_of_le {limit : Nat} {j : Json} (h : size j ≤ limit) :
    encode limit j = .ok (Text.bytes j.compact) := if_neg (Nat.not_lt.2 h)

theorem encode_of_lt {limit : Nat} {j : Json} (h : limit < size j) :
    encode limit j = .error (.tooLarge (size j) limit) := if_pos h

/-- A value that was written within a limit is read back within it. -/
theorem decode_compact {α : Type} {reader : Reader α} {limit : Nat} {j : Json} {v : α}
    (hmeans : reader.Means j (some v)) (hwritten : Json.Written j (utf8 j.write))
    (h : size j ≤ limit) : decode reader limit (Text.bytes j.compact) = .ok v :=
  Json.eq_ok_of_toOption (toOption_decode hmeans (Json.document_compact hwritten) h)

/-- What was written is read as JSON, if it does not nest too deep. -/
theorem parse_compact {j : Json} (hwritten : Json.Written j (utf8 j.write))
    (hnesting : j.nesting ≤ Json.depthLimit) : Json.parse (Text.bytes j.compact) = .ok j :=
  Json.eq_ok_of_toOption
    ((Json.value_means hnesting).document (Json.document_compact hwritten))

/-- A document is refused for its length just when it is too long. -/
theorem decode_eq_tooLarge_iff {α : Type} {reader : Reader α} {limit : Nat} {document : Bytes} :
    decode reader limit document = .error (.tooLarge document.length limit) ↔
      limit < document.length := by
  unfold decode
  by_cases hlarge : limit < document.length
  · rw [if_pos hlarge]
    exact iff_of_true rfl hlarge
  · rw [if_neg hlarge]
    refine iff_of_false ?_ hlarge
    intro h
    cases hread : Json.document reader document with
    | ok v => simp only [hread, reduceCtorEq] at h
    | error failure => simp only [hread, Except.error.injEq, reduceCtorEq] at h

/-- A document is that of a value under every limit: it is what encoding gives and what decoding
takes, and it is refused for its own length. -/
structure Represents {α : Type} (encode : Nat → α → Except WireError Bytes)
    (decode : Nat → Bytes → Except WireError α) (v : α) (document : Bytes) : Prop where
  encoded : ∀ limit, document.length ≤ limit → encode limit v = .ok document
  refused : ∀ limit, limit < document.length →
    encode limit v = .error (.tooLarge document.length limit)
  decoded : ∀ limit, document.length ≤ limit → decode limit document = .ok v

end Wire

/-! ## Messages -/

namespace Call

/-- The members a call is written with. -/
def toMembers (c : Call) : List (String × Json) :=
  (union.tag, .text (union.name c.method)) ::
    Json.toMembers Json.Kind.toJson (union.fields c.method) c.values

theorem toJson_eq (c : Call) : c.toJson = .object c.toMembers := rfl

theorem written_toJson (c : Call) : Json.Written c.toJson (utf8 c.toJson.write) :=
  Json.Union.written_toJson union c.method c.values

theorem among?_toMembers (c : Call) : among? c.toMembers = some c := by
  have htagged := Json.Union.among?_tagged lawful_union c.method c.values
  have hcall := congrArg (Option.map fun choice => ofValues choice.1 choice.2) htagged
  exact hcall.trans (congrArg some (ofValues_values c))

/-- The tag of a written call is the event that carries it. -/
theorem valuesOf_method (c : Call) : valuesOf c.toMembers "method" = [.text c.event] := by
  have hfields : valuesOf (Json.toMembers Json.Kind.toJson (union.fields c.method) c.values)
      union.tag = [] := Json.valuesOf_toMembers (lawful_union.tag_notMem c.method) c.values
  show valuesOf c.toMembers union.tag = _
  rw [toMembers, Json.valuesOf_cons, if_pos rfl, hfields]
  exact congrArg (fun tag => [Json.text tag]) (Method.tag_eq_event c.method)

end Call

namespace Message

/-- The members a message is written with. -/
def toMembers (m : Message) : List (String × Json) :=
  [("object_path", .text m.objectPath), ("call", .object m.call.toMembers)]

theorem toJson_eq (m : Message) : m.toJson = .object m.toMembers := rfl

theorem written_toJson (m : Message) : Json.Written m.toJson (utf8 m.toJson.write) := by
  apply Json.written_object
  apply Json.written_toMembers
  intro p v
  cases p with
  | address => exact Json.written_text v
  | call => exact Call.written_toJson v

theorem nesting_toJson (m : Message) : m.toJson.nesting = 2 := by
  have hcall : m.call.toJson.nesting = 1 :=
    Json.Union.nesting_toJson Call.union m.call.method m.call.values
  rw [toJson_eq, toMembers, ← Call.toJson_eq]
  simp [Json.nesting, Json.membersNesting, hcall]

theorem among?_toMembers (m : Message) : among? m.toMembers = some m := by
  have hmeaning (p : Part) (v : p.Value) : p.meaning (p.toJson v) = some v := by
    cases p with
    | address => rfl
    | call => exact Call.among?_toMembers v
  have hvalues := Json.Values.among?_toMembers hmeaning (by decide) m.values
  exact congrArg (Option.map ofValues) hvalues

theorem means_toJson (m : Message) : reader.Means m.toJson (some m) := by
  have hmeans : reader.Means m.toJson (among? m.toMembers) :=
    reader_means (Nat.le_trans (Nat.le_of_eq m.nesting_toJson) (by decide))
      (fun j hj => ⟨_, List.mem_singleton.1 hj⟩)
  rwa [among?_toMembers] at hmeans

theorem decode_compact {limit : Nat} {m : Message} (h : Wire.size m.toJson ≤ limit) :
    Message.decode limit (Text.bytes m.toJson.compact) = .ok m :=
  Wire.decode_compact m.means_toJson m.written_toJson h

theorem represents_compact (m : Message) :
    Wire.Represents encode Message.decode m (Text.bytes m.toJson.compact) where
  encoded _ hfits := Wire.encode_of_le hfits
  refused _ hlarge := Wire.encode_of_lt hlarge
  decoded _ hfits := decode_compact hfits

end Message

/-! ## Replies -/

namespace Reply

/-- The members a reply is written with. -/
def toMembers (r : Reply) : List (String × Json) :=
  (union.tag, .text (union.name r.kind)) ::
    Json.toMembers Json.Kind.toJson (union.fields r.kind) r.values

theorem written_toJson (r : Reply) : Json.Written r.toJson (utf8 r.toJson.write) :=
  Json.Union.written_toJson union r.kind r.values

theorem among?_toMembers (r : Reply) : among? r.toMembers = some r := by
  have htagged := Json.Union.among?_tagged lawful_union r.kind r.values
  have hreply := congrArg (Option.map fun choice => ofValues choice.1 choice.2) htagged
  exact hreply.trans (congrArg some (ofValues_values r))

theorem means_toJson (r : Reply) : reader.Means r.toJson (some r) := by
  have hnesting : (Json.object r.toMembers).nesting = 1 :=
    Json.Union.nesting_toJson union r.kind r.values
  have hmeans : reader.Means r.toJson (among? r.toMembers) :=
    reader_means (Nat.le_trans (Nat.le_of_eq hnesting) (by decide))
  rwa [among?_toMembers] at hmeans

theorem decode_compact {limit : Nat} {r : Reply} (h : Wire.size r.toJson ≤ limit) :
    Reply.decode limit (Text.bytes r.toJson.compact) = .ok r :=
  Wire.decode_compact r.means_toJson r.written_toJson h

theorem represents_compact (r : Reply) :
    Wire.Represents encode Reply.decode r (Text.bytes r.toJson.compact) where
  encoded _ hfits := Wire.encode_of_le hfits
  refused _ hlarge := Wire.encode_of_lt hlarge
  decoded _ hfits := decode_compact hfits

end Reply

/-! ## Both -/

/-- Every message and every reply has a document that it is written as and read from under just the
limits that the document keeps.  The document of a message names the event of the call, and nothing
but the length of a document makes it too long. -/
theorem wire_round_trip :
    (∀ m : Message, ∃ document, Wire.Represents Message.encode Message.decode m document ∧
      ∃ members args, Json.parse document = .ok (.object members) ∧
        valuesOf members "call" = [.object args] ∧
        valuesOf args "method" = [.text m.call.event]) ∧
    (∀ r : Reply, ∃ document, Wire.Represents Reply.encode Reply.decode r document) ∧
    (∀ limit document, Message.decode limit document = .error (.tooLarge document.length limit) ↔
      limit < document.length) ∧
    (∀ limit document, Reply.decode limit document = .error (.tooLarge document.length limit) ↔
      limit < document.length) := by
  refine ⟨?_, fun r => ⟨_, r.represents_compact⟩,
    fun limit document => Wire.decode_eq_tooLarge_iff,
    fun limit document => Wire.decode_eq_tooLarge_iff⟩
  intro m
  have hnesting : m.toJson.nesting ≤ Json.depthLimit :=
    Nat.le_trans (Nat.le_of_eq m.nesting_toJson) (by decide)
  exact ⟨_, m.represents_compact, m.toMembers, m.call.toMembers,
    Wire.parse_compact m.written_toJson hnesting, rfl, m.call.valuesOf_method⟩

end ModelRegistry
