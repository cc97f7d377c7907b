/-!
# Text as bytes

The wire, the files and the environment hold bytes; names and descriptions are text.  The two
functions here join the views: `Text.bytes` writes a text in UTF-8, and `Text.ofBytes?` reads it
back, refusing every byte list that is not the UTF-8 form of a text.  `ofBytes?_bytes` says that
nothing is lost on the way.
-/

namespace ModelRegistry

/-- A finite run of bytes: a file, a frame, a message body. -/
abbrev Bytes := List UInt8

namespace Text

/-- The UTF-8 form of a text. -/
def bytes (s : String) : Bytes :=
  s.toUTF8.data.toList

/-- The text whose UTF-8 form the bytes are, if there is one. -/
def ofBytes? (bs : Bytes) : Option String :=
  String.fromUTF8? ⟨bs.toArray⟩

theorem ofBytes?_bytes (s : String) : ofBytes? (bytes s) = some s := by
  have h : String.fromUTF8? s.toUTF8 = some s := by
    simp only [String.fromUTF8?, String.toUTF8_eq_toByteArray, dif_pos s.isValidUTF8]
    rfl
  simpa [ofBytes?, bytes] using h

theorem bytes_injective {s t : String} (h : bytes s = bytes t) : s = t := by
  have h' : some s = some t := by rw [← ofBytes?_bytes s, ← ofBytes?_bytes t, h]
  exact Option.some.inj h'

end Text

end ModelRegistry
