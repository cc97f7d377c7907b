import ModelRegistry.Proofs.Json.Schemas

/-!
# What the printer writes

The printer writes a value in one of the ways in which it can be written (`Written`), so whatever
holds of all of them holds of printed documents.  An object is written as soon as the values of its
members are (`written_object`), which leaves the scalars.

Members that were made from the values of a record or union have just these values
(`Values.among?_toMembers`, `Union.among?_tagged`): what a schema writes it reads.
-/

namespace ModelRegistry
namespace Json

open Text (utf8)

/-! ## Objects -/

/-- The bytes of a member. -/
theorem utf8_member (name : String) (value : Json) :
    utf8 (writeText name ++ ':' :: write value) =
      0x22 :: (utf8 (name.toList.flatMap escapeChar) ++ 0x22 :: 0x3A :: utf8 (write value)) := by
  have hcolon : String.utf8EncodeChar ':' = [0x3A] := rfl
  simp [utf8_writeText, hcolon]

theorem utf8_writeMembers_last (m : String × Json) :
    utf8 (writeMembers [m]) = utf8 (writeText m.1 ++ ':' :: write m.2) := rfl

theorem utf8_writeMembers_cons (m next : String × Json) (ms : List (String × Json)) :
    utf8 (writeMembers (m :: next :: ms)) =
      utf8 (writeText m.1 ++ ':' :: write m.2) ++ 0x2C :: utf8 (writeMembers (next :: ms)) := by
  have hcomma : String.utf8EncodeChar ',' = [0x2C] := rfl
  simp [writeMembers, hcomma]

theorem utf8_object (ms : List (String × Json)) :
    utf8 (write (.object ms)) = 0x7B :: (utf8 (writeMembers ms) ++ [0x7D]) := by
  have hopen : String.utf8EncodeChar '\x7b' = [0x7B] := rfl
  have hclose : String.utf8EncodeChar '\x7d' = [0x7D] := rfl
  simp [write, hopen, hclose]

theorem blanks_nil : Blanks [] := by simp [Blanks]

theorem writtenMember_write {m : String × Json} (hm : Written m.2 (utf8 (write m.2))) :
    WrittenMember m (utf8 (writeText m.1 ++ ':' :: write m.2)) := by
  rw [utf8_member]
  exact .mk (spelled_written m.1.toList) blanks_nil blanks_nil hm

theorem writtenMembers_write {ms : List (String × Json)}
    (hms : ∀ m ∈ ms, Written m.2 (utf8 (write m.2))) :
    WrittenMembers ms (utf8 (writeMembers ms)) := by
  induction ms with
  | nil => exact .nil blanks_nil
  | cons m ms ih =>
    obtain ⟨hm, hms⟩ := List.forall_mem_cons.1 hms
    have hmember := writtenMember_write hm
    cases ms with
    | nil =>
      have hlast := WrittenMembers.last blanks_nil hmember blanks_nil
      rwa [List.append_nil] at hlast
    | cons next ms =>
      rw [utf8_writeMembers_cons]
      exact .cons blanks_nil hmember blanks_nil (ih hms)

/-- An object is written when the values of its members are. -/
theorem written_object {ms : List (String × Json)}
    (hms : ∀ m ∈ ms, Written m.2 (utf8 (write m.2))) :
    Written (.object ms) (utf8 (write (.object ms))) := by
  rw [utf8_object]
  exact .object (writtenMembers_write hms)

theorem utf8_array (items : List Json) :
    utf8 (write (.array items)) = 0x5B :: (utf8 (writeItems items) ++ [0x5D]) := by
  have hopen : String.utf8EncodeChar '[' = [0x5B] := rfl
  have hclose : String.utf8EncodeChar ']' = [0x5D] := rfl
  simp [write, hopen, hclose]

theorem utf8_writeItems_cons (item next : Json) (items : List Json) :
    utf8 (writeItems (item :: next :: items)) =
      utf8 (write item) ++ 0x2C :: utf8 (writeItems (next :: items)) := by
  have hcomma : String.utf8EncodeChar ',' = [0x2C] := rfl
  simp [writeItems, hcomma]

theorem writtenItems_write {items : List Json}
    (hitems : ∀ item ∈ items, Written item (utf8 (write item))) :
    WrittenItems items (utf8 (writeItems items)) := by
  induction items with
  | nil => exact .nil blanks_nil
  | cons item items ih =>
    obtain ⟨hitem, hitems⟩ := List.forall_mem_cons.1 hitems
    cases items with
    | nil =>
      have hlast := WrittenItems.last blanks_nil hitem blanks_nil
      rwa [List.append_nil] at hlast
    | cons next items =>
      rw [utf8_writeItems_cons]
      exact .cons blanks_nil hitem blanks_nil (ih hitems)

/-- An array is written when its items are. -/
theorem written_array {items : List Json}
    (hitems : ∀ item ∈ items, Written item (utf8 (write item))) :
    Written (.array items) (utf8 (write (.array items))) := by
  rw [utf8_array]
  exact .array (writtenItems_write hitems)

/-- What is printed without blanks is a document. -/
theorem document_compact {j : Json} (hj : Written j (utf8 j.write)) :
    Document j (Text.bytes j.compact) := by
  have hdocument := Document.mk blanks_nil hj blanks_nil
  rwa [List.nil_append, List.append_nil, ← Text.bytes_ofList] at hdocument

/-! ## Records -/

theorem written_text (t : String) : Written (.text t) (utf8 (write (.text t))) := by
  rw [write, utf8_writeText]
  exact .text (spelled_written t.toList)

theorem Kind.written_toJson (k : Kind) (v : k.Value) :
    Written (k.toJson v) (utf8 (write (k.toJson v))) := by
  cases k with
  | text => exact written_text v
  | flag =>
    cases v with
    | true => exact .on
    | false => exact .off
  | version =>
    have hlt : v.toNat < 0x100000000 := UInt32.toNat_lt v
    rw [toJson, write]
    exact written_integer (by omega) (by omega)
  | status =>
    have hlow := Int32.le_toInt v
    have hhigh := Int32.toInt_lt v
    rw [toJson, write]
    exact written_integer (by omega) (by omega)

section Records

variable {κ : Type} {V : κ → Type} {writer : (k : κ) → V k → Json}

theorem written_toMembers (hwriter : ∀ k v, Written (writer k v) (utf8 (write (writer k v))))
    {fs : List (Field κ V)} (vs : Values fs) :
    ∀ m ∈ toMembers writer fs vs, Written m.2 (utf8 (write m.2)) := by
  induction fs with
  | nil =>
    intro m hm
    cases hm
  | cons f fs ih =>
    obtain ⟨v, vs⟩ := vs
    exact List.forall_mem_cons.2 ⟨hwriter f.kind v, ih vs⟩

/-- A name that is no field's has no value. -/
theorem valuesOf_toMembers {fs : List (Field κ V)} {name : String}
    (hname : name ∉ fs.map Field.name) (vs : Values fs) :
    valuesOf (toMembers writer fs vs) name = [] := by
  induction fs with
  | nil => rfl
  | cons f fs ih =>
    obtain ⟨v, vs⟩ := vs
    obtain ⟨hf, hfs⟩ := not_or.1 (mt List.mem_cons.2 hname)
    rw [toMembers, valuesOf_cons, if_neg (Ne.symm hf), ih hfs]

/-- A record is found among the members that were made from it. -/
theorem Values.among?_toMembers {meaning : (k : κ) → Json → Option (V k)}
    (hmeaning : ∀ k v, meaning k (writer k v) = some v) {fs : List (Field κ V)}
    (hnodup : (fs.map Field.name).Nodup) (vs : Values fs) :
    Values.among? meaning fs (toMembers writer fs vs) = some vs := by
  induction fs with
  | nil => rfl
  | cons f fs ih =>
    obtain ⟨v, vs⟩ := vs
    obtain ⟨hf, hfs⟩ := List.nodup_cons.1 hnodup
    have hfirst : f.among? meaning (toMembers writer (f :: fs) (v, vs)) = some v := by
      rw [toMembers, Field.among?, valuesOf_cons, if_pos rfl, valuesOf_toMembers hf]
      exact hmeaning f.kind v
    have hlater : Values.among? meaning fs (toMembers writer (f :: fs) (v, vs)) = some vs := by
      rw [← ih hfs vs]
      apply Values.among?_congr
      intro g hg
      have hne : f.name ≠ g.name := fun heq => hf (heq ▸ List.mem_map_of_mem hg)
      rw [toMembers, valuesOf_cons, if_neg hne]
    rw [Values.among?, hfirst, hlater]
    rfl

end Records

/-! ## Unions -/

namespace Union

variable {ι : Type} {u : Union ι}

theorem written_toJson (u : Union ι) (i : ι) (vs : Values (u.fields i)) :
    Written (u.toJson i vs) (utf8 (write (u.toJson i vs))) :=
  written_object
    (List.forall_mem_cons.2 ⟨written_text (u.name i), written_toMembers Kind.written_toJson vs⟩)

/-- A choice is found among its tag and the members that were made from it. -/
theorem among?_tagged (hu : u.Lawful) (i : ι) (vs : Values (u.fields i)) :
    u.among? ((u.tag, .text (u.name i)) :: toMembers Kind.toJson (u.fields i) vs) =
      some ⟨i, vs⟩ := by
  have htag : (u.acceptTag (Json.text (u.name i)).found).toOption = some i :=
    (acceptTag_eq_some_iff hu).2 rfl
  have hvalues : Values.among? (accepted Kind.accept) (u.fields i)
      ((u.tag, .text (u.name i)) :: toMembers Kind.toJson (u.fields i) vs) = some vs := by
    have hkinds : ∀ (k : Kind) (v : k.Value), accepted Kind.accept k (k.toJson v) = some v :=
      fun k v => Kind.accepted_eq_some_iff.2 rfl
    rw [← Values.among?_toMembers hkinds (hu.nodup i) vs]
    apply Values.among?_congr
    intro f hf
    have hne : u.tag ≠ f.name := fun heq => hu.tag_notMem i (heq ▸ List.mem_map_of_mem hf)
    rw [valuesOf_cons, if_neg hne]
  rw [among?, valuesOf_cons, if_pos rfl, valuesOf_toMembers (hu.tag_notMem i)]
  simp only [htag, hvalues, Option.bind_some, Option.map_some]

end Union

/-! ## Nesting -/

theorem Kind.nesting_toJson (k : Kind) (v : k.Value) : (k.toJson v).nesting = 0 := by
  cases k <;> rfl

/-- Members whose values are scalars. -/
theorem membersNesting_toMembers {fs : List PlainField} (vs : Values fs) :
    membersNesting (toMembers Kind.toJson fs vs) = 0 := by
  induction fs with
  | nil => rfl
  | cons f fs ih =>
    obtain ⟨v, vs⟩ := vs
    rw [toMembers, membersNesting, ih, Kind.nesting_toJson, Nat.max_self]

theorem Union.nesting_toJson {ι : Type} (u : Union ι) (i : ι) (vs : Values (u.fields i)) :
    (u.toJson i vs).nesting = 1 := by
  rw [toJson, Json.nesting, membersNesting, membersNesting_toMembers]
  rfl

end Json
end ModelRegistry
