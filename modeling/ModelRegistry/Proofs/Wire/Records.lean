import ModelRegistry.Proofs.Wire.Size
import ModelRegistry.Record

/-!
# Records as texts

The text of a record is read back as that record, whatever its fields hold (`decode_text`).

How long the text gets depends on what has to be escaped in it.  The request that registers the
record escapes the same texts once as well and holds a few more words, so the text is no longer than
the request (`ModelRecord.size_le_registration`), and neither is the request that looks the record
up (`ModelRecord.size_lookup_le`).  The reply to that is another matter: it holds the text of the
record as a text, so what is escaped there is escaped a second time.
-/

namespace ModelRegistry

open Text (utf8)
open Json (PlainField Values Kind Reader memberSize)

/-! ## Reading records back -/

/-- A record of scalars is read from the members that were made from its values. -/
theorem Json.record_means_toMembers (name : String) {fs : List PlainField}
    (hnodup : (fs.map Field.name).Nodup) (vs : Values fs) :
    (recordReader Kind.read name fs).Means (.object (toMembers Kind.toJson fs vs)) (some vs) := by
  have hkinds : ∀ (k : Kind) (v : k.Value), accepted Kind.accept k (k.toJson v) = some v :=
    fun k v => Kind.accepted_eq_some_iff.2 rfl
  rw [← Values.among?_toMembers hkinds hnodup vs]
  exact record_means name hnodup fun m _ f _ _ => Kind.read_means f.kind m.2

/-- What members that were made from values are read as, their document is read as. -/
theorem Json.document_toMembers {α : Type} {reader : Reader α} {fs : List PlainField}
    {vs : Values fs} {r : α} (h : reader.Means (.object (toMembers Kind.toJson fs vs)) (some r)) :
    document reader (Text.bytes (object (toMembers Kind.toJson fs vs)).compact) = .ok r :=
  eq_ok_of_toOption
    (h.document (document_compact (written_object (written_toMembers Kind.written_toJson vs))))

theorem ModelRecord.means_toJson (r : ModelRecord) : reader.Means r.toJson (some r) :=
  (Json.record_means_toMembers "struct ModelRecord" (by decide) r.values).map ofValues

theorem ModelRecord.decode_text (r : ModelRecord) : decode (Text.bytes r.text) = .ok r :=
  Json.document_toMembers r.means_toJson

theorem PipelineRecord.decode_text (r : PipelineRecord) : decode (Text.bytes r.text) = .ok r :=
  Json.document_toMembers
    ((Json.record_means_toMembers "struct PipelineRecord" (by decide) r.values).map ofValues)

theorem ResourceRecord.decode_text (r : ResourceRecord) : decode (Text.bytes r.text) = .ok r :=
  Json.document_toMembers
    ((Json.record_means_toMembers "struct ResourceRecord" (by decide) r.values).map ofValues)

/-! ## Sizes -/

/-- An object takes one more byte than its members. -/
theorem Wire.size_object {ms : List (String × Json)} (hms : ms ≠ []) :
    size (.object ms) = (ms.map memberSize).sum + 1 := by
  rw [size, bytes_compact]
  exact Json.length_object hms

theorem Wire.size_version_le (v : UInt32) : size (Kind.toJson .version v) ≤ 11 := by
  rw [size, bytes_compact]
  exact Json.length_version_le v

theorem Wire.size_text_le (t : String) : size (.text t) ≤ 6 * (Text.bytes t).length + 2 := by
  rw [size, bytes_compact, Json.write]
  exact Json.length_writeText_le t

/-- A member whose name is known takes two more bytes than the name and the value. -/
theorem Json.memberSize_eq {name : String} {length : Nat}
    (hname : (utf8 (Json.writeText name)).length = length) (j : Json) :
    memberSize (name, j) = length + Wire.size j + 2 := by
  rw [Wire.size, Wire.bytes_compact, ← hname]
  rfl

/-- A message takes the bytes of its call and some that are the same for all calls. -/
theorem Message.size_toModel (c : Call) : Wire.size (toModel c).toJson =
    Wire.size c.toJson + memberSize ("object_path", .text modelObjectPath) + 9 := by
  have hsize : Wire.size (toModel c).toJson =
      memberSize ("object_path", .text modelObjectPath) + (memberSize ("call", c.toJson) + 0) + 1 :=
    Wire.size_object (List.cons_ne_nil _ _)
  have hcall := Json.memberSize_eq (by rfl : (utf8 (Json.writeText "call")).length = 6) c.toJson
  omega

namespace ModelRecord

variable (r : ModelRecord)

/-- The call that registers a record. -/
def registration : Call := .register r.name r.path r.active r.description r.appInfo

/-- The call that looks a record up. -/
def lookup : Call := .get r.name r.version

/-- The bytes that the record and its registration have in common. -/
def sharedSize : Nat :=
  memberSize ("name", .text r.name) + memberSize ("path", .text r.path) +
    Wire.size (.flag r.active) + memberSize ("description", .text r.description) +
    memberSize ("app_info", .text r.appInfo)

theorem size_toJson :
    Wire.size r.toJson = r.sharedSize + Wire.size (Kind.toJson .version r.version) + 22 := by
  have hsize : Wire.size r.toJson =
      memberSize ("name", .text r.name) + (memberSize ("path", .text r.path) +
        (memberSize ("version", Kind.toJson .version r.version) +
          (memberSize ("active", .flag r.active) +
            (memberSize ("description", .text r.description) +
              (memberSize ("app_info", .text r.appInfo) + 0))))) + 1 :=
    Wire.size_object (List.cons_ne_nil _ _)
  have hversion := Json.memberSize_eq (by rfl : (utf8 (Json.writeText "version")).length = 9)
    (Kind.toJson .version r.version)
  have hactive := Json.memberSize_eq (by rfl : (utf8 (Json.writeText "active")).length = 8)
    (.flag r.active)
  rw [sharedSize]
  omega

theorem size_registration : Wire.size r.registration.toJson = r.sharedSize + 41 := by
  have hsize : Wire.size r.registration.toJson =
      memberSize ("method", .text "handle-register") + (memberSize ("name", .text r.name) +
        (memberSize ("path", .text r.path) + (memberSize ("is_active", .flag r.active) +
          (memberSize ("description", .text r.description) +
            (memberSize ("app_info", .text r.appInfo) + 0))))) + 1 :=
    Wire.size_object (List.cons_ne_nil _ _)
  have hmethod : memberSize ("method", .text "handle-register") = 27 := rfl
  have hactive := Json.memberSize_eq (by rfl : (utf8 (Json.writeText "is_active")).length = 11)
    (.flag r.active)
  rw [sharedSize]
  omega

theorem size_lookup : Wire.size r.lookup.toJson =
    memberSize ("name", .text r.name) + Wire.size (Kind.toJson .version r.version) + 34 := by
  have hsize : Wire.size r.lookup.toJson =
      memberSize ("method", .text "handle-get") + (memberSize ("name", .text r.name) +
        (memberSize ("version", Kind.toJson .version r.version) + 0)) + 1 :=
    Wire.size_object (List.cons_ne_nil _ _)
  have hmethod : memberSize ("method", .text "handle-get") = 22 := rfl
  have hversion := Json.memberSize_eq (by rfl : (utf8 (Json.writeText "version")).length = 9)
    (Kind.toJson .version r.version)
  omega

/-- A record is no longer than its registration. -/
theorem size_le_registration : Wire.size r.toJson ≤ Wire.size r.registration.toJson := by
  have hversion := Wire.size_version_le r.version
  rw [size_toJson, size_registration]
  omega

/-- Looking a record up takes no more bytes than registering it. -/
theorem size_lookup_le : Wire.size r.lookup.toJson ≤ Wire.size r.registration.toJson := by
  have hversion := Wire.size_version_le r.version
  rw [size_lookup, size_registration, sharedSize]
  simp only [memberSize]
  omega

end ModelRecord

/-! ## Escaping twice -/

namespace Json

/-- The characters of a text as they are written between quotes. -/
def escape (cs : List Char) : List Char := cs.flatMap escapeChar

/-- How many bytes characters take between quotes. -/
def escapedSize (cs : List Char) : Nat := (utf8 (escape cs)).length

theorem escape_append (cs ds : List Char) : escape (cs ++ ds) = escape cs ++ escape ds :=
  List.flatMap_append

theorem escapedSize_append (cs ds : List Char) :
    escapedSize (cs ++ ds) = escapedSize cs + escapedSize ds := by
  rw [escapedSize, escape_append, Text.utf8_append, List.length_append]
  rfl

theorem escapedSize_mono {cs ds : List Char} (h : cs <:+: ds) :
    escapedSize cs ≤ escapedSize ds := by
  obtain ⟨before, behind, rfl⟩ := h
  rw [escapedSize_append, escapedSize_append]
  omega

theorem size_text (s : String) : Wire.size (.text s) = escapedSize s.toList + 2 := by
  rw [Wire.size, Wire.bytes_compact, write, utf8_writeText, List.length_cons, List.length_append,
    List.length_singleton]
  rfl

/-- Escaping the same character over and over. -/
theorem escapedSize_replicate (n : Nat) (c : Char) :
    escapedSize (List.replicate n c) = n * escapedSize [c] ∧
      escapedSize (escape (List.replicate n c)) = n * escapedSize (escapeChar c) := by
  induction n with
  | zero => simp [escapedSize, escape]
  | succ n ih =>
    obtain ⟨honce, htwice⟩ := ih
    have hcons : List.replicate (n + 1) c = [c] ++ List.replicate n c := List.replicate_succ
    have hsingle : escape [c] = escapeChar c := List.flatMap_singleton ..
    rw [hcons, escapedSize_append, escape_append, escapedSize_append, honce, htwice, hsingle]
    exact ⟨by rw [Nat.succ_mul, Nat.add_comm], by rw [Nat.succ_mul, Nat.add_comm]⟩

/-- The value of a member is part of what is written for the object. -/
theorem write_part_of_mem {m : String × Json} {ms : List (String × Json)} (h : m ∈ ms) :
    write m.2 <:+: writeMembers ms := by
  induction ms with
  | nil => cases h
  | cons first ms ih =>
    cases ms with
    | nil =>
      obtain rfl := List.mem_singleton.1 h
      exact ⟨writeText m.1 ++ [':'], [], by simp [writeMembers]⟩
    | cons next ms =>
      rcases List.mem_cons.1 h with rfl | h
      · exact ⟨writeText m.1 ++ [':'], ',' :: writeMembers (next :: ms), by simp [writeMembers]⟩
      · refine (ih h).trans ⟨writeText first.1 ++ ':' :: (write first.2 ++ [',']), [], ?_⟩
        simp [writeMembers]

/-- A text in an object is escaped twice where the object is written into a text. -/
theorem escapedSize_escape_le {name t : String} {ms : List (String × Json)}
    (h : (name, .text t) ∈ ms) :
    escapedSize (escape t.toList) + 2 ≤ Wire.size (.text (object ms).compact) := by
  have htext : escape t.toList <:+: write (.text t) :=
    ⟨['\x22'], ['\x22'], by simp [write, writeText, escape]⟩
  have hobject : writeMembers ms <:+: write (.object ms) :=
    ⟨['\x7b'], ['\x7d'], by simp [write]⟩
  have hpart := (htext.trans (write_part_of_mem h)).trans hobject
  rw [size_text, compact, String.toList_ofList]
  exact Nat.add_le_add_right (escapedSize_mono hpart) 2

end Json

/-- A reply with a text takes the bytes of the text, those of its status and a few more. -/
theorem Reply.size_info (t : String) (s : Status) : Wire.size (info t s).toJson =
    Wire.size (.text t) + Wire.size (Kind.toJson .status s) + 33 := by
  have hsize : Wire.size (info t s).toJson = memberSize ("kind", .text "info") +
      (memberSize ("info", .text t) + (memberSize ("status", Kind.toJson .status s) + 0)) + 1 :=
    Wire.size_object (List.cons_ne_nil _ _)
  have hkind : memberSize ("kind", .text "info") = 14 := rfl
  have hinfo := Json.memberSize_eq (by rfl : (utf8 (Json.writeText "info")).length = 6) (.text t)
  have hstatus := Json.memberSize_eq (by rfl : (utf8 (Json.writeText "status")).length = 8)
    (Kind.toJson .status s)
  omega

end ModelRegistry
