import Mathlib.Algebra.Ring.Nat
import ModelRegistry.Proofs.Json.Bounds
import ModelRegistry.Proofs.Wire.RoundTrip

/-!
# How long a reply gets

A reply without a text is a few dozen bytes, whatever it carries (`size_status_le`,
`size_version_le`); only a reply with the text of a record, or with a message, can be long.  An
error that says that a document was too long is short again: its message holds two numbers of at
most twenty digits.  All of these fit under a limit of 4096 bytes, the least that can be set.
-/

namespace ModelRegistry
namespace Json

open Text (utf8)

/-! ## Scalars -/

/-- Writing a character takes at most six bytes for each of its own. -/
theorem length_escapeChar_le (c : Char) : (utf8 (escapeChar c)).length ≤ 6 * c.utf8Size := by
  have hpos := c.utf8Size_pos
  unfold escapeChar
  split
  iterate 7
    · show 2 ≤ _
      omega
  · split
    · next hcontrol =>
      have hfirst := Text.utf8EncodeChar_of_ascii (hexDigit_ascii (c.toNat / 16) (by omega))
      have hsecond := Text.utf8EncodeChar_of_ascii (hexDigit_ascii (c.toNat % 16) (by omega))
      simp only [Text.utf8_cons, Text.utf8_nil, hfirst, hsecond]
      show 6 ≤ _
      omega
    · rw [Text.utf8_cons, Text.utf8_nil, List.append_nil, String.length_utf8EncodeChar]
      omega

theorem length_writeText_le (s : String) :
    (utf8 (writeText s)).length ≤ 6 * (Text.bytes s).length + 2 := by
  have hchars (cs : List Char) : (utf8 (cs.flatMap escapeChar)).length ≤ 6 * (utf8 cs).length := by
    induction cs with
    | nil => exact Nat.le_refl 0
    | cons c cs ih =>
      have hc := length_escapeChar_le c
      rw [List.flatMap_cons, Text.utf8_append, Text.utf8_cons, List.length_append,
        List.length_append, String.length_utf8EncodeChar]
      omega
  have hs := hchars s.toList
  rw [utf8_writeText, Text.bytes_eq_utf8, List.length_cons, List.length_append,
    List.length_singleton]
  omega

theorem length_digits_le {n k : Nat} (hk : 0 < k) (hn : n < 10 ^ k) :
    (utf8 (Nat.toDigits 10 n)).length ≤ k := by
  rw [utf8_digits, List.length_map]
  exact (Nat.length_toDigits_le_iff (by decide) hk).2 hn

/-- An integer of 32 bits, signed or not, takes at most eleven bytes. -/
theorem length_writeNumber_le {z : Int} (hlow : -10000000000 < z) (hhigh : z < 10000000000) :
    (utf8 (writeNumber (.integer z))).length ≤ 11 := by
  cases z with
  | ofNat n =>
    rw [Int.ofNat_eq_natCast] at hhigh
    rw [writeNumber_ofNat]
    exact Nat.le_succ_of_le (length_digits_le (by decide) (by omega : n < 10 ^ 10))
  | negSucc n =>
    have hdigits := length_digits_le (by decide) (by omega : n + 1 < 10 ^ 10)
    rw [writeNumber_negSucc, Text.utf8_cons, List.length_append]
    show 1 + _ ≤ 11
    omega

theorem length_version_le (v : UInt32) : (utf8 (write (Kind.toJson .version v))).length ≤ 11 := by
  have hlt : v.toNat < 0x100000000 := UInt32.toNat_lt v
  rw [Kind.toJson, write]
  exact length_writeNumber_le (by omega) (by omega)

theorem length_status_le (s : Status) : (utf8 (write (Kind.toJson .status s))).length ≤ 11 := by
  have hlow := Int32.le_toInt s
  have hhigh := Int32.toInt_lt s
  rw [Kind.toJson, write]
  exact length_writeNumber_le (by omega) (by omega)

/-! ## Objects -/

/-- The bytes of a member with its colon and a comma. -/
def memberSize (m : String × Json) : Nat :=
  (utf8 (writeText m.1)).length + (utf8 (write m.2)).length + 2

theorem length_writeMembers {ms : List (String × Json)} (hms : ms ≠ []) :
    (utf8 (writeMembers ms)).length + 1 = (ms.map memberSize).sum := by
  have hmember (m : String × Json) :
      (utf8 (writeText m.1 ++ ':' :: write m.2)).length + 1 = memberSize m := by
    simp only [memberSize, utf8_member, utf8_writeText, List.length_cons, List.length_append,
      List.length_nil]
    omega
  induction ms with
  | nil => exact absurd rfl hms
  | cons m ms ih =>
    have hm := hmember m
    cases ms with
    | nil =>
      rw [utf8_writeMembers_last, List.map_singleton, List.sum_singleton]
      exact hm
    | cons next ms =>
      have hlater := ih (List.cons_ne_nil _ _)
      rw [utf8_writeMembers_cons, List.map_cons, List.sum_cons, List.length_append,
        List.length_cons]
      omega

/-- An object takes one more byte than its members: two for its braces, and none for a comma behind
the last member. -/
theorem length_object {ms : List (String × Json)} (hms : ms ≠ []) :
    (utf8 (write (.object ms))).length = (ms.map memberSize).sum + 1 := by
  have hmembers := length_writeMembers hms
  rw [utf8_object, List.length_cons, List.length_append, List.length_singleton]
  omega

theorem length_object_le (ms : List (String × Json)) :
    (utf8 (write (.object ms))).length ≤ (ms.map memberSize).sum + 2 := by
  cases ms with
  | nil => exact Nat.le_refl 2
  | cons m ms =>
    rw [length_object (List.cons_ne_nil m ms)]
    exact Nat.le_succ _

end Json

/-! ## Replies -/

namespace Reply

open Text (utf8)
open Json (memberSize)

/-- A member whose name is as short as those of a reply. -/
theorem memberSize_le {name : String} (hname : (Text.bytes name).length ≤ 7) (j : Json) :
    memberSize (name, j) ≤ 46 + (utf8 j.write).length := by
  have hwritten := Json.length_writeText_le name
  show (utf8 (Json.writeText name)).length + (utf8 j.write).length + 2 ≤ _
  omega

/-- The member that holds the tag. -/
theorem memberSize_tag_le (k : ReplyKind) : memberSize ("kind", .text k.tag) ≤ 90 := by
  have htag : (Text.bytes k.tag).length ≤ 7 := by cases k <;> decide
  have hvalue := Json.length_writeText_le k.tag
  have hmember := memberSize_le (by decide : (Text.bytes "kind").length ≤ 7) (.text k.tag)
  rw [Json.write] at hmember
  omega

theorem memberSize_status_le (s : Status) :
    memberSize ("status", Json.Kind.toJson .status s) ≤ 57 := by
  have hmember := memberSize_le (by decide : (Text.bytes "status").length ≤ 7)
    (Json.Kind.toJson .status s)
  have hvalue := Json.length_status_le s
  omega

theorem size_object_le {r : Reply} {ms : List (String × Json)} (h : r.toJson = .object ms) :
    Wire.size r.toJson ≤ (ms.map memberSize).sum + 2 := by
  rw [Wire.size, Wire.bytes_compact, h]
  exact Json.length_object_le ms

/-- A reply with a status alone is short. -/
theorem size_status_le (s : Status) : Wire.size (status s).toJson ≤ 250 := by
  have hjson : (status s).toJson =
      .object [("kind", .text ReplyKind.status.tag), ("status", Json.Kind.toJson .status s)] := rfl
  have hsize := size_object_le hjson
  have htag := memberSize_tag_le .status
  have hstatus := memberSize_status_le s
  simp only [List.map_cons, List.map_nil, List.sum_cons, List.sum_nil] at hsize
  omega

/-- A reply with a version is short. -/
theorem size_version_le (v : UInt32) (s : Status) : Wire.size (version v s).toJson ≤ 250 := by
  have hjson : (version v s).toJson =
      .object [("kind", .text ReplyKind.version.tag), ("version", Json.Kind.toJson .version v),
        ("status", Json.Kind.toJson .status s)] := rfl
  have hsize := size_object_le hjson
  have htag := memberSize_tag_le .version
  have hmember := memberSize_le (by decide : (Text.bytes "version").length ≤ 7)
    (Json.Kind.toJson .version v)
  have hversion := Json.length_version_le v
  have hstatus := memberSize_status_le s
  simp only [List.map_cons, List.map_nil, List.sum_cons, List.sum_nil] at hsize
  omega

/-- An error grows with its message alone. -/
theorem size_error_le (s : Status) (message : String) :
    Wire.size (error s message).toJson ≤ 250 + 6 * (Text.bytes message).length := by
  have hjson : (error s message).toJson =
      .object [("kind", .text ReplyKind.error.tag), ("status", Json.Kind.toJson .status s),
        ("message", .text message)] := rfl
  have hsize := size_object_le hjson
  have htag := memberSize_tag_le .error
  have hstatus := memberSize_status_le s
  have hmember := memberSize_le (by decide : (Text.bytes "message").length ≤ 7) (.text message)
  have hmessage := Json.length_writeText_le message
  rw [Json.write] at hmember
  simp only [List.map_cons, List.map_nil, List.sum_cons, List.sum_nil] at hsize
  omega

end Reply

/-! ## Errors about size -/

theorem length_bytes_toString_le {n k : Nat} (hk : 0 < k) (hn : n < 10 ^ k) :
    (Text.bytes (toString n)).length ≤ k := by
  have hdigits := Json.length_digits_le hk hn
  rwa [Text.bytes_eq_utf8, Nat.toString_eq_repr, Nat.toList_repr]

theorem length_tooLarge_le {size limit : Nat} (hsize : size < UInt64.size)
    (hlimit : limit < UInt64.size) :
    (Text.bytes (WireError.tooLarge size limit).message).length ≤ 72 := by
  have hdigits {n : Nat} (hn : n < UInt64.size) : (Text.bytes (toString n)).length ≤ 20 :=
    length_bytes_toString_le (by decide) (Nat.lt_trans hn (by decide))
  have hsizeDigits := hdigits hsize
  have hlimitDigits := hdigits hlimit
  have hbegin : (Text.bytes "Message too large: ").length = 19 := rfl
  have hmiddle : (Text.bytes " bytes (max ").length = 12 := rfl
  have hend : (Text.bytes ")").length = 1 := rfl
  have hmessage : (WireError.tooLarge size limit).message =
      "Message too large: " ++ toString size ++ " bytes (max " ++ toString limit ++ ")" := rfl
  simp only [hmessage, Text.bytes_append, List.length_append]
  omega

/-- The error that stands in for a document that was too long is short itself, if the length of that
document is a number of 64 bits. -/
theorem size_tooLarge_le {size limit : Nat} (hsize : size < UInt64.size)
    (hlimit : limit < UInt64.size) :
    Wire.size (Reply.error .invalidParameter (WireError.tooLarge size limit).message).toJson ≤
      4096 := by
  have hmessage := length_tooLarge_le hsize hlimit
  have herror := Reply.size_error_le .invalidParameter (WireError.tooLarge size limit).message
  omega

/-! ## Errors about messages -/

/-- What the schema of calls puts into messages fits there. -/
theorem Call.roomy_union : Call.union.Roomy where
  tag := by decide
  title := by decide
  known := by
    have hnames : ∀ name ∈ Call.union.cases.map Call.union.name, name.length ≤ 31 := by decide
    exact Nat.le_trans (Json.Fault.length_alternatives_le hnames) (by decide)
  record m := by
    refine ⟨?_, ?_, ?_⟩
    · intro f hf
      cases m <;> revert f <;> decide
    · cases m <;> decide
    · cases m <;> decide

namespace Message

variable {n : Nat}

theorem roomy_fields : Json.Roomy "struct BusMessage" Message.fields where
  named := by
    intro f hf
    revert f
    decide
  fields := by decide
  title := by decide

/-- A path is no longer than the message. -/
def Part.Within (n : Nat) : (p : Part) → p.Value → Prop
  | address, path => path.length ≤ n
  | call, _ => True

/-- The faults of a message name only what stands in it, and so does its address. -/
theorem bounded_reader : Message.reader.Bounded n fun m => m.objectPath.length ≤ n := by
  have hread (p : Part) : p.read.Bounded n (p.Within n) := by
    cases p with
    | address => exact Json.Kind.bounded_readText
    | call =>
      have hunion := Json.Union.bounded_reader Call.roomy_union
        (Json.Reader.bounded_value (n := n) (Json.depthLimit - 2))
      exact hunion.map fun _ _ => trivial
  have hrecord := Json.bounded_recordReader hread (by simp [Message.fields]) roomy_fields
  exact hrecord.map fun _ hvalues => hvalues.1

end Message

/-- The report about a document is a few words longer than what its fault says. -/
theorem length_report_le (document : Bytes) (failure : Json.Failure) :
    (failure.report document).length ≤ failure.fault.message.length + 2 * document.length + 20 := by
  unfold Json.Failure.report
  split
  · omega
  · next unread hplace =>
    have hread : (document.take (document.length - unread)).length ≤ document.length := by
      rw [List.length_take]
      omega
    generalize document.take (document.length - unread) = read at hread
    have hline := length_toString_nat_le (1 + read.count 0x0A)
    have hcount : read.count 0x0A ≤ read.length := List.count_le_length
    have hcolumn := length_toString_nat_le (read.reverse.takeWhile (· != 0x0A)).length
    have htake := (List.takeWhile_sublist (l := read.reverse) (· != 0x0A)).length_le
    rw [List.length_reverse] at htake
    show (failure.fault.message ++ " at line " ++ toString (1 + read.count 0x0A) ++ " column " ++
      toString (read.reverse.takeWhile (· != 0x0A)).length).length ≤ _
    simp only [String.length_append]
    show failure.fault.message.length + 9 + (toString (1 + read.count 0x0A)).length + 8 +
      (toString (read.reverse.takeWhile (· != 0x0A)).length).length ≤ _
    omega

/-- What is said about an unreadable message grows with the message alone. -/
theorem Message.length_unreadable_le {document : Bytes} {failure : Json.Failure}
    (h : Json.document Message.reader document = .error failure) :
    (WireError.unreadable document failure).message.length ≤ 12 * document.length + 1250 := by
  have hfault := Json.Fault.length_message_le (Message.bounded_reader.document_error h)
  have hreport := length_report_le document failure
  show ("Serialization error: " ++ failure.report document).length ≤ _
  rw [String.length_append]
  show 21 + (failure.report document).length ≤ _
  omega

/-- An object path is no longer than the message that names it. -/
theorem Message.length_objectPath_le {limit : Nat} {document : Bytes} {m : Message}
    (h : Message.decode limit document = .ok m) : m.objectPath.length ≤ document.length := by
  unfold Message.decode Wire.decode at h
  split at h
  · cases h
  · split at h
    · next hread =>
      cases h
      exact Message.bounded_reader.document_ok hread
    · cases h

/-- The error that answers a message within the limit that cannot be read, before it is itself
checked against the limit. -/
theorem Message.size_refused_lt {limit : Nat} {document : Bytes} {e : WireError}
    (hlimit : limit < UInt32.size) (hfits : document.length ≤ limit)
    (h : Message.decode limit document = .error e) :
    Wire.size (Reply.error .invalidParameter e.message).toJson < UInt64.size := by
  have hdocument : document.length < 0x100000000 := Nat.lt_of_le_of_lt hfits hlimit
  unfold Message.decode Wire.decode at h
  rw [if_neg (Nat.not_lt.2 hfits)] at h
  split at h
  · cases h
  · next failure hfailure =>
    cases h
    have hmessage := Message.length_unreadable_le hfailure
    have hbytes := Text.length_bytes_le (WireError.unreadable document failure).message
    have hsize := Reply.size_error_le .invalidParameter
      (WireError.unreadable document failure).message
    show _ < 0x10000000000000000
    omega

end ModelRegistry
