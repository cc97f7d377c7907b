import ModelRegistry.Proofs.Json.Writing
import ModelRegistry.Wire

/-!
# What messages and replies are read as

A message is what its object has among its members: the address under `object_path`, and the call
that the object under `call` has among its own (`Message.among?`); a reply is found in the same way
(`Reply.among?`).  The readers read any document of an object as just that, however it is written,
as long as it nests no deeper than readers go (`Message.reader_means`, `Reply.reader_means`).

Calls and replies are unions whose tags tell the cases apart (`Call.lawful_union`,
`Reply.lawful_union`).  Nothing else is said here of a single method or kind of reply.
-/

namespace ModelRegistry

open Json (Reader Values Union accepted valuesOf)

/-- A document within the limit is read as its value. -/
theorem Wire.toOption_decode {α : Type} {reader : Reader α} {limit : Nat} {j : Json}
    {o : Option α} {document : Bytes} (hmeans : reader.Means j o)
    (hdocument : Json.Document j document) (hfits : document.length ≤ limit) :
    (decode reader limit document).toOption = o := by
  rw [← hmeans.document hdocument, decode, if_neg (Nat.not_lt.2 hfits)]
  cases Json.document reader document <;> rfl

/-- A union below the root is read from any object that nests no deeper than the gathered values. -/
theorem Json.Union.reader_means_of_nesting {ι : Type} {u : Union ι} (hu : u.Lawful) {depth : Nat}
    {ms : List (String × Json)} (hms : (Json.object ms).nesting ≤ depth + 1) :
    (u.reader (Reader.value depth)).Means (.object ms) (u.among? ms) := by
  apply reader_means hu
  intro m hm
  have hle := Json.nesting_le_of_mem_members hm
  rw [Json.nesting] at hms
  exact Json.value_means (by omega)

/-! ## Calls -/

namespace Call

theorem lawful_union : union.Lawful where
  case?_name m := by cases m <;> rfl
  nodup m := by cases m <;> decide
  tag_notMem m := by cases m <;> decide

/-- The call that members hold. -/
def among? (ms : List (String × Json)) : Option Call :=
  (union.among? ms).map fun c => ofValues c.1 c.2

theorem reader_means {ms : List (String × Json)}
    (hms : (Json.object ms).nesting ≤ Json.depthLimit - 1) :
    reader.Means (.object ms) (among? ms) :=
  (Union.reader_means_of_nesting lawful_union hms).map fun c => ofValues c.1 c.2

end Call

/-! ## Messages -/

namespace Message

/-- What a part of a message is read as.  A call is an object here. -/
def Part.meaning : (p : Part) → Json → Option p.Value
  | address, j => accepted Json.Kind.accept .text j
  | call, .object ms => Call.among? ms
  | call, _ => none

/-- The message that members hold. -/
def among? (ms : List (String × Json)) : Option Message :=
  (Values.among? Part.meaning fields ms).map ofValues

theorem reader_means {ms : List (String × Json)}
    (hms : (Json.object ms).nesting ≤ Json.depthLimit)
    (hcalls : ∀ j ∈ valuesOf ms "call", ∃ args, j = .object args) :
    reader.Means (.object ms) (among? ms) := by
  refine (Json.record_means "struct BusMessage" (by decide) ?_).map ofValues
  intro m hm
  refine List.forall_mem_cons.2 ⟨?_, List.forall_mem_singleton.2 ?_⟩
  · intro hname
    exact Json.Kind.read_means .text m.2
  · intro hname
    have hle := Json.nesting_le_of_mem_members hm
    rw [Json.nesting] at hms
    obtain ⟨name, value⟩ := m
    obtain rfl : "call" = name := hname
    obtain ⟨args, rfl⟩ := hcalls value (Json.mem_valuesOf.2 hm)
    exact Call.reader_means (Nat.le_sub_one_of_lt (Nat.lt_of_le_of_lt hle (by omega)))

end Message

/-! ## Replies -/

namespace Reply

theorem lawful_union : union.Lawful where
  case?_name k := by cases k <;> rfl
  nodup k := by cases k <;> decide
  tag_notMem k := by cases k <;> decide

/-- The reply that members hold. -/
def among? (ms : List (String × Json)) : Option Reply :=
  (union.among? ms).map fun c => ofValues c.1 c.2

theorem reader_means {ms : List (String × Json)}
    (hms : (Json.object ms).nesting ≤ Json.depthLimit) :
    reader.Means (.object ms) (among? ms) :=
  (Union.reader_means_of_nesting lawful_union hms).map fun c => ofValues c.1 c.2

end Reply
end ModelRegistry
