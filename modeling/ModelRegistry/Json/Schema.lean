import ModelRegistry.Json.Reader

/-!
# Records and tagged unions

A record is described once, by the list of its fields: name, kind of value and, for a field that
may be absent, the value it then has.  The description gives the type of its values (`Values`), the
members it is written with (`toMembers`) and two ways of reading it.  `recordReader` reads a record
straight from a document, each field as soon as its name has been read; `ofMembers` and `ofItems`
read it from values that were gathered before their kinds were known.  `listReader` reads any number
of records, or of anything else, from an array.

A tagged union (`Union`) is an object with one member that names the case, at any place.  Only the
tag is checked while the object is read; the other members are gathered and then read as the record
of the case, so a fault of the grammar is reported before a fault of a field.

Both may also be written as an array of the values in order, the tag of a union first.
-/

namespace ModelRegistry
namespace Json

/-- A field of a record whose kinds of value are `κ`, a value of kind `k` having type `V k`. -/
structure Field (κ : Type) (V : κ → Type) where
  name : String
  kind : κ
  /-- The value of an absent field; a field without one has to be there. -/
  fallback : Option (V kind)

section Records

variable {κ : Type} {V : κ → Type}

/-- A value for each field. -/
def Values : List (Field κ V) → Type
  | [] => Unit
  | f :: fs => V f.kind × Values fs

/-- A value for each field that has been read. -/
def Slots : List (Field κ V) → Type
  | [] => Unit
  | f :: fs => Option (V f.kind) × Slots fs

def Slots.empty : (fs : List (Field κ V)) → Slots fs
  | [] => ()
  | _ :: fs => (none, Slots.empty fs)

/-- The values once everything has been read: the first field that is missing is reported. -/
def Slots.finish : (fs : List (Field κ V)) → Slots fs → Except Fault (Values fs)
  | [], () => .ok ()
  | f :: fs, (slot, slots) =>
    match slot.or f.fallback with
    | none => .error (.missingField f.name)
    | some v =>
      match Slots.finish fs slots with
      | .error e => .error e
      | .ok vs => .ok (v, vs)

/-- The values of fields for which there are no more items; `index` is that of the first field. -/
def Values.fallbacks (expected : String) :
    (fs : List (Field κ V)) → Nat → Except Fault (Values fs)
  | [], _ => .ok ()
  | f :: fs, index =>
    match f.fallback with
    | none => .error (.wrongLength index expected)
    | some v =>
      match Values.fallbacks expected fs (index + 1) with
      | .error e => .error e
      | .ok vs => .ok (v, vs)

/-! ## Reading from a document -/

/-- After a name: the reader of the field's value.  A name of no field is passed over, a field's
second mention is refused. -/
def Slots.step (read : (k : κ) → Reader (V k)) :
    (fs : List (Field κ V)) → Slots fs → String → Except Fault (Reader (Slots fs))
  | [], (), _ => .ok Reader.skip
  | f :: fs, (slot, slots), name =>
    if name = f.name then
      match slot with
      | some _ => .error (.duplicateField name)
      | none => .ok ((read f.kind).map fun v => (some v, slots))
    else
      match Slots.step read fs slots name with
      | .error e => .error e
      | .ok reader => .ok (reader.map fun slots => (slot, slots))

/-- The values from the items of an array, up to its end. -/
def Values.fromItems (read : (k : κ) → Reader (V k)) (expected : String) :
    (fs : List (Field κ V)) → Bool → Nat → Bytes → Except Failure (Values fs × Bytes)
  | [], _, _, s => (Reader.closeItems s).map fun r => ((), r)
  | f :: fs, first, index, s =>
    match Reader.nextItem first s with
    | .error e => .error e
    | .ok (.close r) =>
      match Values.fallbacks expected (f :: fs) index with
      | .error fault => stop fault r
      | .ok vs => .ok (vs, r)
    | .ok (.item t) =>
      match (read f.kind).run t with
      | .error e => .error (e.settle arrayEnd t)
      | .ok (v, r) =>
        match Values.fromItems read expected fs false (index + 1) r with
        | .error e => .error e
        | .ok (vs, r) => .ok ((v, vs), r)

theorem Values.fromItems_lt {read : (k : κ) → Reader (V k)} {expected : String}
    {fs : List (Field κ V)} {first : Bool} {index : Nat} {s r : Bytes} {vs : Values fs}
    (h : Values.fromItems read expected fs first index s = .ok (vs, r)) :
    r.length < s.length := by
  induction fs generalizing first index s r with
  | nil =>
    simp only [fromItems, Except.map] at h
    split at h
    · cases h
    · next hc => cases h; exact Reader.closeItems_lt hc
  | cons f fs ih =>
    simp only [fromItems] at h
    split at h
    · cases h
    · next hn =>
      split at h
      · simp [stop] at h
      · cases h; exact (Reader.nextItem_le hn).2 _ rfl
    · next hn =>
      have := (Reader.nextItem_le hn).1
      split at h
      · cases h
      · next hv =>
        have := (read f.kind).progress hv
        split at h
        · cases h
        · next hr =>
          cases h
          have := ih hr
          simp only [Reader.NextItem.rest] at *
          omega

/-- How many elements, in a message. -/
def elements (n : Nat) : String :=
  toString n ++ if n = 1 then " element" else " elements"

/-- A record from the place where its value begins. -/
def recordRun (read : (k : κ) → Reader (V k)) (name : String) (fs : List (Field κ V))
    (s : Bytes) : Except Failure (Values fs × Bytes) :=
  match foundAt (skipBlank s) with
  | .error e => .error e
  | .ok (.array, r) =>
    Values.fromItems read (name ++ " with " ++ elements fs.length) fs true 0 (r.drop 1)
  | .ok (.object, r) =>
    match (Reader.members (Slots.step read fs) (Slots.empty fs)).run (r.drop 1) with
    | .error e => .error (e.settle objectEnd s)
    | .ok (slots, r) =>
      match Slots.finish fs slots with
      | .error fault => stop fault r
      | .ok vs => .ok (vs, r)
  | .ok (found, r) => stop (.wrongType found name) r

theorem recordRun_lt {read : (k : κ) → Reader (V k)} {name : String} {fs : List (Field κ V)}
    {s r : Bytes} {vs : Values fs} (h : recordRun read name fs s = .ok (vs, r)) :
    r.length < s.length := by
  unfold recordRun at h
  have hs := skipBlank_le s
  split at h
  · cases h
  · next heq =>
    have := Values.fromItems_lt h
    simp only [List.length_drop] at this
    rcases foundAt_lt heq with h' | ⟨-, rfl⟩ <;> omega
  · next heq =>
    split at h
    · cases h
    · next hm =>
      split at h
      · simp [stop] at h
      · cases h
        have := (Reader.members _ _).progress hm
        simp only [List.length_drop] at this
        rcases foundAt_lt heq with h' | ⟨-, rfl⟩ <;> omega
  · simp [stop] at h

/-- The reader of a record; `name` is what messages call it. -/
def recordReader (read : (k : κ) → Reader (V k)) (name : String) (fs : List (Field κ V)) :
    Reader (Values fs) where
  run := recordRun read name fs
  progress := recordRun_lt

/-- A list from the place where its value begins. -/
def listRun {α : Type} (item : Reader α) (s : Bytes) : Except Failure (List α × Bytes) :=
  match foundAt (skipBlank s) with
  | .error e => .error e
  | .ok (.array, r) =>
    match (Reader.items item).run (r.drop 1) with
    | .error e => .error (e.settle arrayEnd s)
    | .ok (vs, r) => .ok (vs, r)
  | .ok (found, r) => stop (.wrongType found "a sequence") r

theorem listRun_lt {α : Type} {item : Reader α} {s r : Bytes} {vs : List α}
    (h : listRun item s = .ok (vs, r)) : r.length < s.length := by
  unfold listRun at h
  have hs := skipBlank_le s
  split at h
  · cases h
  · next heq =>
    split at h
    · cases h
    · next hi =>
      cases h
      have := (Reader.items _).progress hi
      simp only [List.length_drop] at this
      rcases foundAt_lt heq with h' | ⟨-, rfl⟩ <;> omega
  · simp [stop] at h

/-- The reader of a list of any length. -/
def listReader {α : Type} (item : Reader α) : Reader (List α) where
  run := listRun item
  progress := listRun_lt

/-! ## Reading from gathered values -/

/-- Take a gathered member. -/
def Slots.take (accept : (k : κ) → Found → Except Fault (V k)) :
    (fs : List (Field κ V)) → Slots fs → String × Json → Except Fault (Slots fs)
  | [], (), _ => .ok ()
  | f :: fs, (slot, slots), (name, value) =>
    if name = f.name then
      match slot with
      | some _ => .error (.duplicateField name)
      | none =>
        match accept f.kind value.found with
        | .error e => .error e
        | .ok v => .ok (some v, slots)
    else
      match Slots.take accept fs slots (name, value) with
      | .error e => .error e
      | .ok slots => .ok (slot, slots)

/-- Take gathered members in order. -/
def Slots.takeAll (accept : (k : κ) → Found → Except Fault (V k)) (fs : List (Field κ V)) :
    Slots fs → List (String × Json) → Except Fault (Slots fs)
  | slots, [] => .ok slots
  | slots, m :: ms =>
    match Slots.take accept fs slots m with
    | .error e => .error e
    | .ok slots => Slots.takeAll accept fs slots ms

/-- The record that gathered members hold. -/
def ofMembers (accept : (k : κ) → Found → Except Fault (V k)) (fs : List (Field κ V))
    (ms : List (String × Json)) : Except Fault (Values fs) :=
  match Slots.takeAll accept fs (Slots.empty fs) ms with
  | .error e => .error e
  | .ok slots => Slots.finish fs slots

/-- The values at the front of gathered items, and how many items are left over. -/
def Values.takeItems (accept : (k : κ) → Found → Except Fault (V k)) (expected : String) :
    (fs : List (Field κ V)) → Nat → List Json → Except Fault (Values fs × Nat)
  | [], _, items => .ok ((), items.length)
  | f :: fs, index, [] =>
    match Values.fallbacks expected (f :: fs) index with
    | .error e => .error e
    | .ok vs => .ok (vs, 0)
  | f :: fs, index, item :: items =>
    match accept f.kind item.found with
    | .error e => .error e
    | .ok v =>
      match Values.takeItems accept expected fs (index + 1) items with
      | .error e => .error e
      | .ok (vs, left) => .ok ((v, vs), left)

/-- The record that gathered items hold in order. -/
def ofItems (accept : (k : κ) → Found → Except Fault (V k)) (name : String)
    (fs : List (Field κ V)) (items : List Json) : Except Fault (Values fs) :=
  match Values.takeItems accept (name ++ " with " ++ elements fs.length) fs 0 items with
  | .error e => .error e
  | .ok (vs, left) =>
    if left = 0 then .ok vs
    else .error (.wrongLength items.length (elements fs.length ++ " in sequence"))

/-! ## Writing -/

/-- The members a record is written with: every field, in order. -/
def toMembers (write : (k : κ) → V k → Json) :
    (fs : List (Field κ V)) → Values fs → List (String × Json)
  | [], () => []
  | f :: fs, (v, vs) => (f.name, write f.kind v) :: toMembers write fs vs

end Records

/-! ## Kinds of scalar -/

/-- What a field of a plain record holds. -/
inductive Kind
  | text
  | flag
  /-- An unsigned number of 32 bits. -/
  | version
  /-- A signed number of 32 bits. -/
  | status
  deriving DecidableEq, Repr

namespace Kind

abbrev Value : Kind → Type
  | text => String
  | flag => Bool
  | version => UInt32
  | status => Int32

/-- What a message says was wanted. -/
def expected : Kind → String
  | text => "a string"
  | flag => "a boolean"
  | version => "u32"
  | status => "i32"

/-- The value of what was found, if it is of the kind and in its range. -/
def accept : (k : Kind) → Found → Except Fault k.Value
  | text, .text s => .ok s
  | flag, .flag b => .ok b
  | version, .number (.integer n) =>
    if 0 ≤ n ∧ n < UInt32.size then .ok (UInt32.ofNat n.toNat) else .error (.outOfRange n "u32")
  | status, .number (.integer n) =>
    if -0x80000000 ≤ n ∧ n < 0x80000000 then .ok (Int32.ofInt n) else .error (.outOfRange n "i32")
  | k, found => .error (.wrongType found k.expected)

def read (k : Kind) : Reader k.Value := Reader.scalar k.expected k.accept

def toJson : (k : Kind) → k.Value → Json
  | text, s => .text s
  | flag, b => .flag b
  | version, n => .number (.integer n.toNat)
  | status, n => .number (.integer n.toInt)

end Kind

/-- A field of a plain record. -/
abbrev PlainField := Field Kind Kind.Value

namespace PlainField

/-- A text that has to be there. -/
def text (name : String) : PlainField := ⟨name, .text, none⟩

/-- A text that is empty when absent. -/
def optionalText (name : String) : PlainField := ⟨name, .text, some ""⟩

def flag (name : String) : PlainField := ⟨name, .flag, none⟩

/-- A flag that is off when absent. -/
def optionalFlag (name : String) : PlainField := ⟨name, .flag, some false⟩

def version (name : String) : PlainField := ⟨name, .version, none⟩

def status (name : String) : PlainField := ⟨name, .status, none⟩

end PlainField

/-! ## Tagged unions -/

/-- A tagged union with cases `ι`. -/
structure Union (ι : Type) where
  /-- The member that names the case. -/
  tag : String
  /-- What messages call the union. -/
  typeName : String
  cases : List ι
  /-- The tag of a case. -/
  name : ι → String
  /-- What messages call a case. -/
  caseName : ι → String
  fields : ι → List PlainField

namespace Union

variable {ι : Type} (u : Union ι)

/-- A case together with the values of its fields. -/
abbrev Choice := (i : ι) × Values (u.fields i)

/-- The case with a tag. -/
def case? (tag : String) : Option ι := u.cases.find? fun i => u.name i = tag

def acceptTag : Found → Except Fault ι
  | .text t =>
    match u.case? t with
    | some i => .ok i
    | none => .error (.unknownVariant t (u.cases.map u.name))
  | found => .error (.wrongType found "variant identifier")

def readTag : Reader ι := Reader.scalar "variant identifier" u.acceptTag

/-- What messages call the record of a case. -/
def recordName (i : ι) : String := "struct variant " ++ u.typeName ++ "::" ++ u.caseName i

/-- The tag read so far, and the other members in reverse. -/
abbrev Gathered (ι : Type) := Option ι × List (String × Json)

/-- After a name: the tag is read as a tag, everything else is gathered. -/
def step (inner : Reader Json) (seen : Gathered ι) (name : String) :
    Except Fault (Reader (Gathered ι)) :=
  if name = u.tag then
    match seen.1 with
    | some _ => .error (.duplicateField name)
    | none => .ok (u.readTag.map fun i => (some i, seen.2))
  else .ok (inner.map fun v => (seen.1, (name, v) :: seen.2))

/-- The members or items of a case, before they are read as its record. -/
inductive Content
  | members (ms : List (String × Json))
  | items (items : List Json)

/-- The case and what belongs to it, from the place where the value begins. -/
def gather (inner : Reader Json) (s : Bytes) : Except Failure ((ι × Content) × Bytes) :=
  match foundAt (skipBlank s) with
  | .error e => .error e
  | .ok (.array, r) =>
    match Reader.nextItem true (r.drop 1) with
    | .error e => .error e
    | .ok (.close r) => stop (.missingField u.tag) r
    | .ok (.item t) =>
      match u.readTag.run t with
      | .error e => .error e
      | .ok (i, r) =>
        match Reader.itemsFrom inner false [] r with
        | .error e => .error e
        | .ok (items, r) => .ok ((i, .items items), r)
  | .ok (.object, r) =>
    match (Reader.members (u.step inner) (none, [])).run (r.drop 1) with
    | .error e => .error (e.settle objectEnd s)
    | .ok ((none, _), r) => stop (.missingField u.tag) r
    | .ok ((some i, ms), r) => .ok ((i, .members ms.reverse), r)
  | .ok (found, r) => stop (.wrongType found ("internally tagged enum " ++ u.typeName)) r

theorem gather_lt {inner : Reader Json} {s r : Bytes} {g : ι × Content}
    (h : u.gather inner s = .ok (g, r)) : r.length < s.length := by
  unfold gather at h
  have hs := skipBlank_le s
  split at h
  · cases h
  · next t heq =>
    have ht : t.length ≤ (skipBlank s).length := by
      rcases foundAt_lt heq with h' | ⟨-, rfl⟩ <;> omega
    split at h
    · cases h
    · simp [stop] at h
    · next hn =>
      split at h
      · cases h
      · next hr =>
        split at h
        · cases h
        · next hi =>
          cases h
          have := (Reader.nextItem_le hn).1
          have := u.readTag.progress hr
          have := Reader.itemsFrom_lt hi
          simp only [Reader.NextItem.rest, List.length_drop] at *
          omega
  · next t heq =>
    have ht : t.length ≤ (skipBlank s).length := by
      rcases foundAt_lt heq with h' | ⟨-, rfl⟩ <;> omega
    split at h
    · cases h
    · simp [stop] at h
    · next hm =>
      cases h
      have := (Reader.members _ _).progress hm
      simp only [List.length_drop] at this
      omega
  · simp [stop] at h

/-- Read what was gathered as the record of its case. -/
def resolve (i : ι) : Content → Except Fault (Values (u.fields i))
  | .members ms => ofMembers Kind.accept (u.fields i) ms
  | .items items => ofItems Kind.accept (u.recordName i) (u.fields i) items

/-- A union from the place where its value begins. -/
def run (inner : Reader Json) (s : Bytes) : Except Failure (u.Choice × Bytes) :=
  match u.gather inner s with
  | .error e => .error e
  | .ok ((i, content), r) =>
    match u.resolve i content with
    | .error fault => refuse fault r
    | .ok vs => .ok (⟨i, vs⟩, r)

theorem run_lt {inner : Reader Json} {s r : Bytes} {c : u.Choice}
    (h : u.run inner s = .ok (c, r)) : r.length < s.length := by
  unfold run at h
  split at h
  · cases h
  · next hg =>
    split at h
    · simp [refuse] at h
    · cases h; exact u.gather_lt hg

/-- The reader of a union whose gathered values are read by `inner`. -/
def reader (inner : Reader Json) : Reader u.Choice where
  run := u.run inner
  progress := u.run_lt

/-- A case is written with its tag first and then the members of its record. -/
def toJson (i : ι) (vs : Values (u.fields i)) : Json :=
  .object ((u.tag, .text (u.name i)) :: toMembers Kind.toJson (u.fields i) vs)

end Union
end Json
end ModelRegistry
