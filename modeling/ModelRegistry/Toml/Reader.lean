import ModelRegistry.Toml.Scalar

/-!
# Reading TOML

`Toml.parse` reads a document line by line into the table it describes, and answers nothing for a
text that is no document.  Arrays and tables between braces may be nested less than eighty deep, and
a dotted key has fewer than eighty parts.

Every reader leaves no more than it was given.  Of the readers of values, which take each other as
arguments, this is part of the type, so the loops over items and pairs end for any of them.
-/

namespace ModelRegistry
namespace Toml

/-- Values are nested less deep than this, and keys have fewer parts. -/
def nestingLimit : Nat := 80

/-! ## Keys -/

/-- What a key may hold without quotes. -/
def isBare (c : Char) : Bool := c.isAlphanum || c = '_' || c = '-'

/-- One part of a key. -/
def keyPart (s : List Char) : Option (String × List Char) :=
  match s with
  | '\x22' :: r => basic [] r
  | '\x27' :: r => literal [] r
  | _ =>
    let front := s.takeWhile isBare
    if front = [] then none else some (String.ofList front, s.drop front.length)

theorem keyPart_le {s r : List Char} {part : String} (h : keyPart s = some (part, r)) :
    r.length ≤ s.length := by
  unfold keyPart at h
  split at h
  · have := basic_le h
    simp only [List.length_cons]; omega
  · have := literal_le h
    simp only [List.length_cons]; omega
  · simp only at h
    split at h
    · cases h
    · cases h; simp

/-- The parts of a dotted key behind those in `seen`, which is reversed, with the blanks around
them: the path to a table, and the last part. -/
def keyParts (seen : List String) (s : List Char) :
    Option ((List String × String) × List Char) :=
  match hk : keyPart (skipBlanks s) with
  | none => none
  | some (part, r) =>
    match hb : skipBlanks r with
    | '.' :: t =>
      have : t.length < s.length := by
        have := skipBlanks_le s
        have := keyPart_le hk
        have := skipBlanks_le r
        simp only [hb, List.length_cons] at this
        omega
      keyParts (part :: seen) t
    | t => some ((seen.reverse, part), t)
  termination_by s.length

theorem keyParts_le {seen : List String} {s r : List Char} {k : List String × String}
    (h : keyParts seen s = some (k, r)) : r.length ≤ s.length := by
  fun_induction keyParts seen s with
  | case1 => cases h
  | case2 seen s part u hk t hb hlt ih => have := ih h; omega
  | case3 seen s part u hk hdot =>
    cases h
    have := skipBlanks_le s
    have := keyPart_le hk
    have := skipBlanks_le u
    omega

/-- A key: the path to its table and its last part. -/
def key (s : List Char) : Option ((List String × String) × List Char) :=
  (keyParts [] s).filter fun found => found.1.1.length + 1 < nestingLimit

theorem key_le {s r : List Char} {k : List String × String} (h : key s = some (k, r)) :
    r.length ≤ s.length :=
  keyParts_le (Option.filter_eq_some_iff.1 h).1

/-! ## Comments -/

/-- What follows a comment. -/
def skipComment (s : List Char) : List Char := s.dropWhile isPlain

/-- What follows blanks, line breaks and comments; the text may begin within a comment. -/
def skipSpace (inComment : Bool) : List Char → List Char
  | [] => []
  | c :: r =>
    if inComment && isPlain c then skipSpace true r
    else if c = '#' then skipSpace true r
    else if c = '\n' ∨ isSpaceOrTab c ∨ (c = '\r' ∧ r.head? = some '\n') then skipSpace false r
    else c :: r

theorem skipComment_le (s : List Char) : (skipComment s).length ≤ s.length :=
  (List.dropWhile_sublist isPlain).length_le

theorem skipSpace_le (inComment : Bool) (s : List Char) :
    (skipSpace inComment s).length ≤ s.length := by
  fun_induction skipSpace inComment s with
  | case1 => simp
  | case2 _ c r _ ih => simp only [List.length_cons]; omega
  | case3 _ r _ ih => simp only [List.length_cons]; omega
  | case4 _ c r _ _ _ ih => simp only [List.length_cons]; omega
  | case5 => simp

/-! ## Values -/

/-- A reader of values, which leaves no more than it was given. -/
structure ValueReader where
  run : List Char → Option (Toml × List Char)
  progress : ∀ {s v r}, run s = some (v, r) → r.length ≤ s.length

/-- The rest of an array; `item` reads one of its items, and `seen` holds those before, in
reverse. -/
def items (item : ValueReader) (seen : List Toml) (s : List Char) : Option (Toml × List Char) :=
  match hs : skipSpace false s with
  | ']' :: r => some (array seen.reverse, r)
  | r =>
    match hv : item.run r with
    | none => none
    | some (v, t) =>
      match ht : skipSpace false t with
      | ']' :: u => some (array (v :: seen).reverse, u)
      | ',' :: u =>
        have : u.length < s.length := by
          have h1 := skipSpace_le false s
          have h2 := item.progress hv
          have h3 := skipSpace_le false t
          simp only [ht, List.length_cons] at h3
          rw [hs] at h1
          omega
        items item (v :: seen) u
      | _ => none
  termination_by s.length

theorem items_le {item : ValueReader} {seen : List Toml} {s r : List Char} {v : Toml}
    (h : items item seen s = some (v, r)) : r.length ≤ s.length := by
  fun_induction items item seen s with
  | case1 seen s u hs =>
    cases h
    have := skipSpace_le false s
    simp only [hs, List.length_cons] at this
    omega
  | case2 => cases h
  | case3 seen s v t u ht _ hv =>
    cases h
    have h1 := skipSpace_le false s
    have h2 := item.progress hv
    have h3 := skipSpace_le false t
    simp only [ht, List.length_cons] at h3
    omega
  | case4 seen s v t u ht hlt _ hv ih => have := ih h; omega
  | case5 => cases h

/-- A key and its value; `item` reads the value. -/
def pair (item : ValueReader) (s : List Char) :
    Option (((List String × String) × Toml) × List Char) :=
  match key s with
  | some (k, '=' :: r) => (item.run (skipBlanks r)).map fun found => ((k, found.1), found.2)
  | _ => none

theorem pair_lt {item : ValueReader} {s r : List Char} {p : (List String × String) × Toml}
    (h : pair item s = some (p, r)) : r.length < s.length := by
  unfold pair at h
  split at h
  · next k t hk =>
    obtain ⟨found, hf, he⟩ := Option.map_eq_some_iff.1 h
    cases he
    have h1 := key_le hk
    have h2 := skipBlanks_le t
    have h3 : found.2.length ≤ (skipBlanks t).length := item.progress hf
    simp only [List.length_cons] at h1
    omega
  · cases h

/-- The rest of a table between braces, after at least one pair or before the first. -/
def members (item : ValueReader) (seen : Members) (s : List Char) : Option (Toml × List Char) :=
  match hp : pair item s with
  | none => none
  | some (((path, key), v), r) =>
    match assign path key v .inline seen with
    | none => none
    | some seen =>
      match hr : skipBlanks r with
      | '\x7d' :: t => some (table .inline seen, t)
      | ',' :: t =>
        have : t.length < s.length := by
          have h1 := pair_lt hp
          have h2 := skipBlanks_le r
          simp only [hr, List.length_cons] at h2
          omega
        members item seen t
      | _ => none
  termination_by s.length

theorem members_le {item : ValueReader} {seen : Members} {s r : List Char} {v : Toml}
    (h : members item seen s = some (v, r)) : r.length ≤ s.length := by
  fun_induction members item seen s with
  | case1 => cases h
  | case2 => cases h
  | case3 seen s path key v u hp _ _ t hr =>
    cases h
    have h1 := pair_lt hp
    have h2 := skipBlanks_le u
    simp only [hr, List.length_cons] at h2
    omega
  | case4 seen s path key v u hp _ _ t hr hlt ih => have := ih h; omega
  | case5 => cases h

/-- What follows an opening brace: a table, in which `item` reads the values. -/
def braces (item : ValueReader) (s : List Char) : Option (Toml × List Char) :=
  match skipBlanks s with
  | '\x7d' :: r => some (table .inline [], r)
  | r => members item [] r

theorem braces_le {item : ValueReader} {s r : List Char} {v : Toml}
    (h : braces item s = some (v, r)) : r.length ≤ s.length := by
  unfold braces at h
  have hs := skipBlanks_le s
  split at h
  · next heq =>
    rw [heq] at hs
    cases h
    simp only [List.length_cons] at hs; omega
  · have := members_le h
    omega

/-- A value that may be an array or a table, with parts read by `item`. -/
def compound (item : ValueReader) (s : List Char) : Option (Toml × List Char) :=
  match s with
  | '[' :: r => items item [] r
  | '\x7b' :: r => braces item r
  | s => readScalar s

theorem compound_le {item : ValueReader} {s r : List Char} {v : Toml}
    (h : compound item s = some (v, r)) : r.length ≤ s.length := by
  unfold compound at h
  split at h
  · have := items_le h
    simp only [List.length_cons]; omega
  · have := braces_le h
    simp only [List.length_cons]; omega
  · exact readScalar_le h

/-- A value nested at most so deep; a scalar is not nested. -/
def value : Nat → ValueReader
  | 0 => ⟨readScalar, readScalar_le⟩
  | depth + 1 => ⟨compound (value depth), compound_le⟩

/-! ## Lines -/

/-- What follows blanks and a comment. -/
def skipRemark (s : List Char) : List Char :=
  match skipBlanks s with
  | '#' :: r => skipComment r
  | r => r

theorem skipRemark_le (s : List Char) : (skipRemark s).length ≤ s.length := by
  have hs := skipBlanks_le s
  unfold skipRemark
  split
  · next t heq =>
    have := skipComment_le t
    rw [heq] at hs
    simp only [List.length_cons] at hs; omega
  · exact hs

/-- What follows the end of a line: blanks, a comment and a line break, or the end of the text. -/
def endLine (s : List Char) : Option (List Char) :=
  match skipRemark s with
  | [] => some []
  | r => lineBreak? r

theorem endLine_le {s r : List Char} (h : endLine s = some r) : r.length ≤ s.length := by
  have hs := skipRemark_le s
  unfold endLine at h
  split at h
  · cases h; simp
  · have := lineBreak?_lt h
    omega

/-- What has been read of a document, and the table that was opened last. -/
structure Progress where
  root : Members
  opened : List String

/-- A header with so many brackets behind its first ones: the table that it opens, and what follows
its line. -/
def header (brackets : List Char)
    (opening : List String → String → Members → Option Members) (root : Members) (s : List Char) :
    Option (Progress × List Char) :=
  match key s with
  | none => none
  | some ((path, last), r) =>
    if brackets.isPrefixOf r then
      match opening path last root, endLine (r.drop brackets.length) with
      | some root, some r => some (⟨root, path ++ [last]⟩, r)
      | _, _ => none
    else none

theorem header_le {brackets : List Char}
    {opening : List String → String → Members → Option Members} {root : Members} {s r : List Char}
    {p : Progress} (h : header brackets opening root s = some (p, r)) : r.length ≤ s.length := by
  unfold header at h
  split at h
  · cases h
  · next t hk =>
    have h1 := key_le hk
    split at h
    · split at h
      · next he =>
        have h2 := endLine_le he
        cases h
        simp only [List.length_drop] at h2; omega
      · cases h
    · cases h

/-- A line that gives a key of the open table its value. -/
def assignment (p : Progress) (s : List Char) : Option (Progress × List Char) :=
  match pair (value (nestingLimit - 1)) s with
  | none => none
  | some (((path, last), v), r) =>
    match assignIn p.opened path last v p.root, endLine r with
    | some root, some r => some (⟨root, p.opened⟩, r)
    | _, _ => none

theorem assignment_lt {p q : Progress} {s r : List Char} (h : assignment p s = some (q, r)) :
    r.length < s.length := by
  unfold assignment at h
  split at h
  · cases h
  · next hp =>
    have h1 := pair_lt hp
    split at h
    · next he =>
      have h2 := endLine_le he
      cases h; omega
    · cases h

/-- Read one line that is not blank. -/
def line (p : Progress) (s : List Char) : Option (Progress × List Char) :=
  match s with
  | '#' :: r => (endLine (skipComment r)).map fun r => (p, r)
  | '[' :: '[' :: r => header [']', ']'] openNext p.root r
  | '[' :: r => header [']'] openTable p.root r
  | s => assignment p s

theorem line_lt {p q : Progress} {s r : List Char} (h : line p s = some (q, r)) :
    r.length < s.length := by
  unfold line at h
  split at h
  · next t =>
    obtain ⟨u, hu, he⟩ := Option.map_eq_some_iff.1 h
    cases he
    have h1 := endLine_le hu
    have h2 := skipComment_le t
    simp only [List.length_cons]; omega
  · have := header_le h
    simp only [List.length_cons]; omega
  · have := header_le h
    simp only [List.length_cons]; omega
  · exact assignment_lt h

/-- Read the lines of a document. -/
def lines (p : Progress) (s : List Char) : Option Members :=
  match hs : skipBlanks s with
  | [] => some p.root
  | c :: r =>
    match hb : lineBreak? (c :: r) with
    | some t =>
      have : t.length < s.length := by
        have h1 := skipBlanks_le s
        have h2 := lineBreak?_lt hb
        rw [hs] at h1
        omega
      lines p t
    | none =>
      match hl : line p (c :: r) with
      | some (p, t) =>
        have : t.length < s.length := by
          have h1 := skipBlanks_le s
          have h2 := line_lt hl
          rw [hs] at h1
          omega
        lines p t
      | none => none
  termination_by s.length

/-- The mark that may stand before a text. -/
def byteOrderMark : Char := '\ufeff'

/-- The table that a document describes. -/
def parse (document : String) : Option Members :=
  let s := document.toList
  lines ⟨[], []⟩ (if s.head? = some byteOrderMark then s.tail else s)

end Toml
end ModelRegistry
