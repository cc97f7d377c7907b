import ModelRegistry.Proofs.Wire.Records
import ModelRegistry.Store

/-!
# Records inside of replies

A record is looked up as a text, and a reply carries this text as a text of its own.  So what stands
in the fields of a record is written with escapes, and these are escaped once more; reading the
reply undoes the one and reading the text in it the other.  `relay` is the whole way, and
`records_survive_nesting` says that a record or a list of records is at its end what it was, if only
the reply keeps the limit of a document.

Who writes a record need not keep to the order of the fields, and may leave out a text that is empty
if the schema has that as the fallback of its field (`SameRecord`).
-/

namespace ModelRegistry

open Text (utf8)
open Json (PlainField Values Kind)

/-! ## Lists of records -/

theorem ModelRecord.written_toJson (r : ModelRecord) : Json.Written r.toJson (utf8 r.toJson.write) :=
  Json.written_object (Json.written_toMembers Kind.written_toJson r.values)

theorem ModelRecord.decodeList_listText (rs : List ModelRecord) :
    decodeList (Text.bytes (listText rs)) = .ok rs := by
  have hitems : List.Forall₂ (fun j r => reader.Means j (some r)) (rs.map toJson) rs :=
    List.forall₂_map_left_iff.2 (List.forall₂_same.2 fun r _ => r.means_toJson)
  have hwritten : ∀ j ∈ rs.map toJson, Json.Written j (utf8 j.write) :=
    List.forall_mem_map.2 fun r _ => r.written_toJson
  exact Json.eq_ok_of_toOption
    ((Json.list_means hitems).document (Json.document_compact (Json.written_array hwritten)))

/-! ## Texts in replies -/

/-- What is read of a text that goes through a reply, if the reply keeps the limit. -/
def Reply.relay {α : Type} (decode : Bytes → Except Json.Failure α) (limit : Nat) (s : Status)
    (text : String) : Option α :=
  match Reply.encode limit (.info text s) with
  | .error _ => none
  | .ok document =>
    match Reply.decode limit document with
    | .ok (.info text _) => (decode (Text.bytes text)).toOption
    | _ => none

/-- The way through a reply changes nothing. -/
theorem Reply.relay_eq {α : Type} (decode : Bytes → Except Json.Failure α) (limit : Nat)
    (s : Status) (text : String) :
    relay decode limit s text =
      if Wire.size (info text s).toJson ≤ limit then (decode (Text.bytes text)).toOption
      else none := by
  have hreply := (info text s).represents_compact
  split
  · next hfits =>
    rw [relay, hreply.encoded limit hfits]
    simp only [hreply.decoded limit hfits]
  · next hlarge => rw [relay, hreply.refused limit (Nat.lt_of_not_le hlarge)]

/-- What a store answers is on the other side of a reply what the store has looked up. -/
theorem Reply.relay_of_lookup {α : Type} {decode : Bytes → Except Json.Failure α} {write : α → String}
    (hread : ∀ v, decode (Text.bytes (write v)) = .ok v) {found : Except Refusal α} {text : String}
    (htext : found.map write = .ok text) {limit : Nat} {s : Status}
    (hfits : Wire.size (info text s).toJson ≤ limit) :
    relay decode limit s text = found.toOption := by
  cases found with
  | error refusal => cases htext
  | ok v =>
    cases htext
    rw [relay_eq, if_pos hfits, hread]
    rfl

/-! ## Other ways to write a record -/

/-- Texts that are empty, of fields that may be absent for that. -/
def emptyTexts : List (String × Json) := [("description", .text ""), ("app_info", .text "")]

/-- Documents of the same members in any order, one of them without some texts that are empty. -/
def SameRecord (document document' : Bytes) : Prop :=
  ∃ ms ms' left : List (String × Json),
    Json.Document (.object ms) document ∧ Json.Document (.object ms') document' ∧
      ms.Perm (ms' ++ left) ∧ left.Sublist emptyTexts ∧ ∀ m ∈ left, m.1 ∉ ms'.map Prod.fst

/-- A record of scalars is the same in both documents, or in neither. -/
theorem SameRecord.toOption_eq {α : Type} (name : String) {fs : List PlainField}
    {ofValues : Values fs → α} {document document' : Bytes} (h : SameRecord document document')
    (hnodup : (fs.map Json.Field.name).Nodup)
    (hfields : ∀ m ∈ emptyTexts, ∀ f ∈ fs, f.name = m.1 →
      ∃ v, f.fallback = some v ∧ m.2 = f.kind.toJson v) :
    let reader := (Json.recordReader Kind.read name fs).map ofValues
    (Json.document reader document).toOption = (Json.document reader document').toOption := by
  intro reader
  have hmeans (ms : List (String × Json)) : reader.Means (.object ms)
      ((Values.among? (Json.accepted Kind.accept) fs ms).map ofValues) :=
    (Json.record_means name hnodup fun m _ f _ _ => Kind.read_means f.kind m.2).map ofValues
  obtain ⟨ms, ms', left, hdocument, hdocument', hperm, hleft, hother⟩ := h
  have honce : (left.map Prod.fst).Nodup := (hleft.map Prod.fst).nodup (by decide)
  rw [(hmeans ms).document hdocument, (hmeans ms').document hdocument',
    Values.among?_eq_of_left hperm honce hother fun m hm => hfields m (hleft.subset hm)]

theorem ModelRecord.fallback_of_emptyTexts :
    ∀ m ∈ emptyTexts, ∀ f ∈ fields, f.name = m.1 →
      ∃ v, f.fallback = some v ∧ m.2 = f.kind.toJson v := by
  simp [emptyTexts, fields, PlainField.text, PlainField.version, PlainField.flag,
    PlainField.optionalText, Kind.toJson]

theorem ResourceRecord.fallback_of_emptyTexts :
    ∀ m ∈ emptyTexts, ∀ f ∈ fields, f.name = m.1 →
      ∃ v, f.fallback = some v ∧ m.2 = f.kind.toJson v := by
  simp [emptyTexts, fields, PlainField.text, PlainField.optionalText, Kind.toJson]

/-! ## All ways -/

/-- **Records survive the way to a client.**  A list of records, and a single record, is after its
way through a reply what it was before, whatever its texts hold, exactly if the reply keeps the
limit; so what a store answers to a look-up arrives as what the store has found.  Every kind of
record is read back from its own text.  And records of models and of resources are read the same in
whichever order the members are written, and without a description or a tag that is empty. -/
theorem records_survive_nesting :
    (∀ (rs : List ModelRecord) (limit : Nat) (s : Status),
      Reply.relay ModelRecord.decodeList limit s (ModelRecord.listText rs) =
        if Wire.size (Reply.info (ModelRecord.listText rs) s).toJson ≤ limit then some rs
        else none) ∧
    (∀ (r : ModelRecord) (limit : Nat) (s : Status),
      Reply.relay ModelRecord.decode limit s r.text =
        if Wire.size (Reply.info r.text s).toJson ≤ limit then some r else none) ∧
    (∀ (store : Store) (name : String) (version : UInt32) (text : String) (limit : Nat) (s : Status),
      Wire.size (Reply.info text s).toJson ≤ limit →
        ((Store.backend (.get name version) store).1 = .ok text →
          Reply.relay ModelRecord.decode limit s text = (store.get name version).toOption) ∧
        ((Store.backend (.getActive name) store).1 = .ok text →
          Reply.relay ModelRecord.decode limit s text = (store.getActive name).toOption) ∧
        ((Store.backend (.getAll name) store).1 = .ok text →
          Reply.relay ModelRecord.decodeList limit s text = (store.getAll name).toOption)) ∧
    (∀ r : ModelRecord, ModelRecord.decode (Text.bytes r.text) = .ok r) ∧
    (∀ r : PipelineRecord, PipelineRecord.decode (Text.bytes r.text) = .ok r) ∧
    (∀ r : ResourceRecord, ResourceRecord.decode (Text.bytes r.text) = .ok r) ∧
    ∀ document document' : Bytes, SameRecord document document' →
      (ModelRecord.decode document).toOption = (ModelRecord.decode document').toOption ∧
        (ResourceRecord.decode document).toOption = (ResourceRecord.decode document').toOption := by
  refine ⟨fun rs limit s => ?_, fun r limit s => ?_, fun store name version text limit s hfits => ?_,
    ModelRecord.decode_text, PipelineRecord.decode_text, ResourceRecord.decode_text,
    fun document document' hsame => ⟨?_, ?_⟩⟩
  · rw [Reply.relay_eq, ModelRecord.decodeList_listText]
    rfl
  · rw [Reply.relay_eq, ModelRecord.decode_text]
    rfl
  · exact ⟨fun h => Reply.relay_of_lookup ModelRecord.decode_text h hfits,
      fun h => Reply.relay_of_lookup ModelRecord.decode_text h hfits,
      fun h => Reply.relay_of_lookup ModelRecord.decodeList_listText h hfits⟩
  · exact hsame.toOption_eq "struct ModelRecord" (by decide) ModelRecord.fallback_of_emptyTexts
  · exact hsame.toOption_eq "struct ResourceRecord" (by decide)
      ResourceRecord.fallback_of_emptyTexts

end ModelRegistry
