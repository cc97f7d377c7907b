import ModelRegistry.Proofs.Json.Writing

/-!
# Values over several lines

The printer with one member on a line writes a value in one of the ways in which it can be written,
too: what it puts between the tokens are line ends and indentation, which are blanks.  As without
blanks, an object is written as soon as the values of its members are (`written_objectLines`).

The induction is over the members.  What stands before the first and behind the last of them is kept
open in it (`writtenMembers_lines`), so that the line end in front of a member can be that of the
comma before it as well as that of the brace.
-/

namespace ModelRegistry
namespace Json

open Text (utf8)

/-! ## Line ends -/

theorem blanks_newLine (level : Nat) : Blanks (utf8 (newLine level)) := by
  intro b hb
  obtain ⟨c, hc, hb⟩ := List.mem_flatMap.1 hb
  rcases List.mem_cons.1 hc with rfl | hc
  · obtain rfl := List.mem_singleton.1 hb
    rfl
  · obtain rfl := List.eq_of_mem_replicate hc
    obtain rfl := List.mem_singleton.1 hb
    rfl

/-! ## Objects -/

/-- A member with a blank behind its colon. -/
theorem writtenMember_line {level : Nat} {m : String × Json}
    (hm : Written m.2 (utf8 (writeLines level m.2))) :
    WrittenMember m (utf8 (writeText m.1 ++ ':' :: ' ' :: writeLines level m.2)) := by
  have hcolon : String.utf8EncodeChar ':' = [0x3A] := rfl
  have hblank : String.utf8EncodeChar ' ' = [0x20] := rfl
  have hspace : Blanks [0x20] := by simp [Blanks, isBlank]
  have hmember := WrittenMember.mk (spelled_written m.1.toList) blanks_nil hspace hm
  simpa [utf8_writeText, hcolon, hblank] using hmember

/-- Members on lines, with any blanks before the first and behind the last of them. -/
theorem writtenMembers_lines {level : Nat} {ms : List (String × Json)} (hne : ms ≠ [])
    (hms : ∀ m ∈ ms, Written m.2 (utf8 (writeLines level m.2))) {w v : Bytes} (hw : Blanks w)
    (hv : Blanks v) : WrittenMembers ms (w ++ (utf8 (writeMemberLines level ms) ++ v)) := by
  induction ms generalizing w with
  | nil => exact absurd rfl hne
  | cons m ms ih =>
    obtain ⟨hm, hms⟩ := List.forall_mem_cons.1 hms
    have hmember := writtenMember_line hm
    cases ms with
    | nil => exact .last hw hmember hv
    | cons next ms =>
      have hlater := ih (List.cons_ne_nil _ _) hms (blanks_newLine level)
      have hcomma : String.utf8EncodeChar ',' = [0x2C] := rfl
      have hall := WrittenMembers.cons hw hmember blanks_nil hlater
      simpa [writeMemberLines, hcomma] using hall

/-- An object is written over several lines when the values of its members are. -/
theorem written_objectLines {level : Nat} {ms : List (String × Json)}
    (hms : ∀ m ∈ ms, Written m.2 (utf8 (writeLines (level + 1) m.2))) :
    Written (.object ms) (utf8 (writeLines level (.object ms))) := by
  have hopen : String.utf8EncodeChar '\x7b' = [0x7B] := rfl
  have hclose : String.utf8EncodeChar '\x7d' = [0x7D] := rfl
  cases ms with
  | nil => exact .object (.nil blanks_nil)
  | cons m ms =>
    have hobject := Written.object (writtenMembers_lines (List.cons_ne_nil _ _) hms
      (blanks_newLine (level + 1)) (blanks_newLine level))
    simpa [writeLines, hopen, hclose] using hobject

/-! ## Documents -/

/-- A text takes no lines of its own. -/
theorem written_textLines (level : Nat) (t : String) :
    Written (.text t) (utf8 (writeLines level (.text t))) := written_text t

/-- What is printed over several lines is a document. -/
theorem document_pretty {j : Json} (hj : Written j (utf8 (j.writeLines 0))) :
    Document j (Text.bytes j.pretty) := by
  have hdocument := Document.mk blanks_nil hj blanks_nil
  rwa [List.nil_append, List.append_nil, ← Text.bytes_ofList] at hdocument

end Json
end ModelRegistry
