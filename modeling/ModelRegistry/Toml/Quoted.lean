import ModelRegistry.Toml.Numeral

/-!
# Quoted texts in TOML

Texts have four spellings: on one line or on several, and with or without backslashes.  A reader of
a text is given what follows the opening quotes and returns what follows the closing ones, which is
never longer; so the readers that use it end.
-/

namespace ModelRegistry
namespace Toml

/-! ## Characters -/

def tab : Char := '\t'

def isSpaceOrTab (c : Char) : Bool := c = ' ' || c = tab

/-- What may stand in a text or a comment as it is. -/
def isPlain (c : Char) : Bool := c = tab || (0x20 ≤ c.toNat && c.toNat ≠ 0x7F)

/-- The character of a code, unless the code belongs to a surrogate or is too large. -/
def charOfCode? (n : Nat) : Option Char :=
  if h : n.isValidChar then some (Char.ofNatAux n h) else none

/-- A character written as so many hexadecimal digits, and what follows. -/
def coded? (count : Nat) (s : List Char) : Option (Char × List Char) :=
  let ds := s.take count
  if ds.length < count then none
  else ((digits? 16 ds).bind charOfCode?).map fun c => (c, s.drop count)

/-- What a backslash and the characters after it stand for, and what follows. -/
def escape? : List Char → Option (Char × List Char)
  | [] => none
  | c :: r =>
    match c with
    | 'b' => some ('\x08', r)
    | 't' => some ('\t', r)
    | 'n' => some ('\n', r)
    | 'f' => some ('\x0c', r)
    | 'r' => some ('\r', r)
    | '\x22' => some ('\x22', r)
    | '\\' => some ('\\', r)
    | 'u' => coded? 4 r
    | 'U' => coded? 8 r
    | _ => none

theorem coded?_le {count : Nat} {s r : List Char} {c : Char} (h : coded? count s = some (c, r)) :
    r.length ≤ s.length := by
  simp only [coded?] at h
  split at h
  · cases h
  · obtain ⟨_, _, he⟩ := Option.map_eq_some_iff.1 h
    cases he
    simp

theorem escape?_lt {s r : List Char} {c : Char} (h : escape? s = some (c, r)) :
    r.length < s.length := by
  unfold escape? at h
  split at h
  · cases h
  · next d t =>
    split at h <;>
      first
        | (cases h <;> simp)
        | (have hle := coded?_le h; simp only [List.length_cons]; omega)

/-! ## Blanks and line breaks -/

/-- What follows a line break, if the text begins with one. -/
def lineBreak? : List Char → Option (List Char)
  | '\n' :: r => some r
  | '\r' :: '\n' :: r => some r
  | _ => none

/-- What follows the blanks within a line. -/
def skipBlanks (s : List Char) : List Char := s.dropWhile isSpaceOrTab

/-- What follows blanks and line breaks. -/
def skipLines : List Char → List Char
  | [] => []
  | '\r' :: '\n' :: r => skipLines r
  | c :: r => if c = '\n' ∨ isSpaceOrTab c then skipLines r else c :: r

theorem lineBreak?_lt {s r : List Char} (h : lineBreak? s = some r) : r.length < s.length := by
  unfold lineBreak? at h
  split at h
  · cases h; simp
  · cases h; simp only [List.length_cons]; omega
  · cases h

theorem skipBlanks_le (s : List Char) : (skipBlanks s).length ≤ s.length :=
  (List.dropWhile_sublist isSpaceOrTab).length_le

theorem skipLines_le (s : List Char) : (skipLines s).length ≤ s.length := by
  fun_induction skipLines s with
  | case1 => simp
  | case2 r ih => simp only [List.length_cons]; omega
  | case3 c r _ _ ih => simp only [List.length_cons]; omega
  | case4 => simp

/-! ## Texts on one line -/

/-- The rest of a text between double quotes. -/
def basic (done : List Char) (s : List Char) : Option (String × List Char) :=
  match s with
  | [] => none
  | c :: r =>
    if c = '\x22' then some (String.ofList done.reverse, r)
    else if c = '\\' then
      match h : escape? r with
      | some (c, t) =>
        have := escape?_lt h
        basic (c :: done) t
      | none => none
    else if isPlain c then basic (c :: done) r
    else none
  termination_by s.length
  decreasing_by all_goals simp_all only [List.length_cons]; omega

/-- The rest of a text between single quotes. -/
def literal (done : List Char) : List Char → Option (String × List Char)
  | [] => none
  | c :: r =>
    if c = '\x27' then some (String.ofList done.reverse, r)
    else if isPlain c then literal (c :: done) r
    else none

theorem basic_le {done s r : List Char} {t : String} (h : basic done s = some (t, r)) :
    r.length ≤ s.length := by
  fun_induction basic done s with
  | case1 => cases h
  | case2 => cases h; simp
  | case3 done u c v hc he hlt ih => have := ih h; simp only [List.length_cons]; omega
  | case4 => cases h
  | case5 done c u hq hb hp ih => have := ih h; simp only [List.length_cons]; omega
  | case6 => cases h

theorem literal_le {done s r : List Char} {t : String} (h : literal done s = some (t, r)) :
    r.length ≤ s.length := by
  fun_induction literal done s with
  | case1 => cases h
  | case2 => cases h; simp
  | case3 done c u hq hp ih => have := ih h; simp only [List.length_cons]; omega
  | case4 => cases h

/-! ## Texts on several lines -/

/-- The closing quotes of a text over several lines: three, after up to two that belong to the
text. -/
def closing? (quote : Char) (s : List Char) : Option (List Char × List Char) :=
  let run := ((s.take 5).takeWhile (· = quote)).length
  if run < 3 then none else some (List.replicate (run - 3) quote, s.drop run)

/-- The rest of a text between triple double quotes. -/
def basicLines (done : List Char) (s : List Char) : Option (String × List Char) :=
  match closing? '\x22' s with
  | some (own, r) => some (String.ofList (done.reverse ++ own), r)
  | none =>
    match s with
    | [] => none
    | c :: r =>
      if c = '\\' then
        match hb : lineBreak? (skipBlanks r) with
        | some t =>
          have := lineBreak?_lt hb
          have := skipBlanks_le r
          have := skipLines_le t
          basicLines done (skipLines t)
        | none =>
          match he : escape? r with
          | some (c, t) =>
            have := escape?_lt he
            basicLines (c :: done) t
          | none => none
      else if isPlain c then basicLines (c :: done) r
      else
        match hb : lineBreak? (c :: r) with
        | some t =>
          have := lineBreak?_lt hb
          basicLines ('\n' :: done) t
        | none => none
  termination_by s.length
  decreasing_by all_goals simp_all only [List.length_cons] <;> omega

/-- The rest of a text between triple single quotes. -/
def literalLines (done : List Char) (s : List Char) : Option (String × List Char) :=
  match closing? '\x27' s with
  | some (own, r) => some (String.ofList (done.reverse ++ own), r)
  | none =>
    match s with
    | [] => none
    | c :: r =>
      if isPlain c then literalLines (c :: done) r
      else
        match hb : lineBreak? (c :: r) with
        | some t =>
          have := lineBreak?_lt hb
          literalLines ('\n' :: done) t
        | none => none
  termination_by s.length
  decreasing_by all_goals simp_all only [List.length_cons] <;> omega

theorem closing?_le {quote : Char} {s own r : List Char} (h : closing? quote s = some (own, r)) :
    r.length ≤ s.length := by
  simp only [closing?] at h
  split at h
  · cases h
  · cases h; simp

theorem basicLines_le {done s r : List Char} {t : String} (h : basicLines done s = some (t, r)) :
    r.length ≤ s.length := by
  fun_induction basicLines done s <;>
    first
      | (cases h; done)
      | (cases h; exact closing?_le ‹_›)
      | (rename_i ih; have := ih h; simp only [List.length_cons] at *; omega)

theorem literalLines_le {done s r : List Char} {t : String}
    (h : literalLines done s = some (t, r)) : r.length ≤ s.length := by
  fun_induction literalLines done s <;>
    first
      | (cases h; done)
      | (cases h; exact closing?_le ‹_›)
      | (rename_i ih; have := ih h; simp only [List.length_cons] at *; omega)

/-! ## Any spelling -/

/-- A line break right after the opening quotes does not belong to the text. -/
def withoutFirstBreak (s : List Char) : List Char := (lineBreak? s).getD s

theorem withoutFirstBreak_le (s : List Char) : (withoutFirstBreak s).length ≤ s.length := by
  unfold withoutFirstBreak
  cases h : lineBreak? s with
  | none => simp
  | some r => have := lineBreak?_lt h; simp only [Option.getD_some]; omega

/-- Read a text in any spelling. -/
def readText : List Char → Option (String × List Char)
  | '\x22' :: '\x22' :: '\x22' :: r => basicLines [] (withoutFirstBreak r)
  | '\x22' :: r => basic [] r
  | '\x27' :: '\x27' :: '\x27' :: r => literalLines [] (withoutFirstBreak r)
  | '\x27' :: r => literal [] r
  | _ => none

theorem readText_le {s r : List Char} {t : String} (h : readText s = some (t, r)) :
    r.length ≤ s.length := by
  unfold readText at h
  split at h
  · next u =>
    have := basicLines_le h
    have := withoutFirstBreak_le u
    simp only [List.length_cons]; omega
  · have := basic_le h
    simp only [List.length_cons]; omega
  · next u =>
    have := literalLines_le h
    have := withoutFirstBreak_le u
    simp only [List.length_cons]; omega
  · have := literal_le h
    simp only [List.length_cons]; omega
  · cases h

end Toml
end ModelRegistry
