import ModelRegistry.Text.Blank
import ModelRegistry.Text.Letter

/-!
# Patterns

A pattern describes texts: by characters, classes of characters between brackets, groups,
alternatives and repetitions.  Nothing is matched here; `Pattern.isValid` says whether a text is a
pattern at all, so that a setting with a broken one can be refused.

Two things make a pattern invalid besides its grammar.  Properties of scripts are not known, so a
pattern over the characters of every script can name neither a property nor a class such as the
digits nor ask for both cases; and a pattern over single bytes has to keep to ASCII wherever it
would otherwise match a part of a character.  Repetitions cannot be counted.
-/

namespace ModelRegistry
namespace Text
namespace Pattern

/-! ## Modes -/

/-- How the characters of a pattern are taken.  A pattern can change its mode for the rest of a
group. -/
structure Mode where
  /-- Characters of every script, not single bytes. -/
  scripts : Bool
  /-- Both cases of a letter. -/
  anyCase : Bool
  /-- Blanks and comments mean nothing. -/
  spaced : Bool
  deriving DecidableEq, Repr

namespace Mode

def start : Mode := ⟨true, false, false⟩

/-- The mode after a letter has been switched on or off. -/
def switch (m : Mode) (on : Bool) : Char → Mode
  | 'i' => { m with anyCase := on }
  | 'u' => { m with scripts := on }
  | 'x' => { m with spaced := on }
  | _ => m

/-- What follows blanks and comments, a comment reaching to the end of its line. -/
def skipFrom (comment : Bool) : List Char → List Char
  | [] => []
  | c :: r =>
    if comment then skipFrom (c ≠ '\n') r
    else if isBlank c then skipFrom false r
    else if c = '#' then skipFrom true r
    else c :: r

def skip (m : Mode) (s : List Char) : List Char := if m.spaced then skipFrom false s else s

/-- The next character that is not blank.  Of a comment only its first mark is passed over, and if
nothing but blanks is left the next blank is taken. -/
def peek (m : Mode) (s : List Char) : Option Char :=
  if m.spaced then
    let marked :=
      match s.dropWhile isBlank with
      | '#' :: r => r.dropWhile isBlank
      | r => r
    marked.head?.or s.head?
  else s.head?

end Mode

/-- The letters that can be switched. -/
def switchLetters : List Char := ['i', 'm', 's', 'U', 'u', 'R', 'x']

/-- Switches up to a colon or a closing parenthesis, each letter and the sign `-` at most once.
`seen` holds what has been read, in reverse; the answer holds it too, with the mode and with what
begins at the end of the switches. -/
def switches (on : Bool) (seen : List Char) (m : Mode) :
    List Char → Option (Mode × List Char × List Char)
  | [] => none
  | c :: r =>
    if c = ':' ∨ c = ')' then
      if seen.head? = some '-' then none else some (m, seen, c :: r)
    else if seen.contains c then none
    else if c = '-' then switches false (c :: seen) m r
    else if switchLetters.contains c then switches on (c :: seen) (m.switch on c) r
    else none

/-! ## Atoms -/

/-- What stands for one character, or for a place between two. -/
inductive Atom
  /-- One character, which may be written as the number of a byte. -/
  | char (c : Char) (byte : Bool)
  /-- One of the classes digit, blank and word, or the rest. -/
  | shorthand (negated : Bool)
  /-- A place at an end of the text. -/
  | place
  /-- A place at the edge of a word, or not at one. -/
  | edge

namespace Atom

/-- Whether an atom may stand inside or outside brackets. -/
def stands (m : Mode) (bracketed : Bool) : Atom → Bool
  | char c byte =>
    if m.scripts then !m.anyCase
    else if bracketed then c.toNat < 0x80
    else !byte || c.toNat < 0x80
  | shorthand negated => !m.scripts && !negated
  | place => !bracketed
  | edge => !m.scripts && !bracketed

end Atom

def hexDigit? (c : Char) : Option Nat :=
  if c.isDigit then some (c.toNat - '0'.toNat)
  else if 'a' ≤ c ∧ c ≤ 'f' then some (c.toNat - 'a'.toNat + 10)
  else if 'A' ≤ c ∧ c ≤ 'F' then some (c.toNat - 'A'.toNat + 10)
  else none

/-- A number of exactly so many hexadecimal digits, and what follows. -/
def hexNumber (m : Mode) : Nat → Nat → List Char → Option (Nat × List Char)
  | 0, n, s => some (n, s)
  | _ + 1, _, [] => none
  | k + 1, n, c :: r =>
    match hexDigit? c with
    | some d => hexNumber m k (n * 16 + d) (m.skip r)
    | none => none

/-- The character with a number of so many digits, and what follows. -/
def numbered (m : Mode) (digits : Nat) (s : List Char) : Option (Atom × List Char) :=
  match hexNumber m digits 0 (m.skip s) with
  | some (n, r) => if n.isValidChar then some (.char (Char.ofNat n) (digits = 2), r) else none
  | none => none

/-- What the characters behind a backslash stand for, and what follows.  Punctuation stands for
itself. -/
def escape (m : Mode) : List Char → Option (Atom × List Char)
  | [] => none
  | c :: r =>
    match c with
    | 'x' => numbered m 2 r
    | 'u' => numbered m 4 r
    | 'U' => numbered m 8 r
    | 'd' | 's' | 'w' => some (.shorthand false, r)
    | 'D' | 'S' | 'W' => some (.shorthand true, r)
    | 'a' => some (.char '\x07' false, r)
    | 'f' => some (.char '\x0c' false, r)
    | 't' => some (.char '\t' false, r)
    | 'n' => some (.char '\n' false, r)
    | 'r' => some (.char '\r' false, r)
    | 'v' => some (.char '\x0b' false, r)
    | 'A' | 'z' => some (.place, r)
    | 'b' | 'B' | '<' | '>' => some (.edge, r)
    | c => if c.toNat < 0x80 ∧ ¬ c.isAlphanum then some (.char c false, r) else none

/-! ## Nesting -/

/-- How deep patterns may be nested. -/
def nestingLimit : Nat := 250

/-- The depth of parts that follow each other: one more than the deepest, unless there is only
one. -/
def joined : List Nat → Nat
  | [] => 0
  | [d] => d
  | ds => 1 + ds.foldl max 0

/-! ## Classes between brackets -/

/-- The classes with a name. -/
def classNames : List String :=
  ["alnum", "alpha", "ascii", "blank", "cntrl", "digit", "graph", "lower", "print", "punct",
    "space", "upper", "word", "xdigit"]

/-- A class with a name, between colons and behind an opening bracket: whether it is negated, and
what follows. -/
def namedClass? : List Char → Option (Bool × List Char)
  | ':' :: r =>
    let negated := r.head? = some '^'
    let r := if negated then r.tail else r
    match r.dropWhile (· ≠ ':') with
    | ':' :: ']' :: rest =>
      if classNames.contains (String.ofList (r.takeWhile (· ≠ ':'))) then some (negated, rest)
      else none
    | _ => none
  | _ => none

/-- A class whose bracket is open: the depths of its members so far, in reverse, and that of what
stands before the last operator. -/
structure OpenClass where
  members : List Nat
  left : Option Nat

namespace OpenClass

def add (o : OpenClass) (depth : Nat) : OpenClass := { o with members := depth :: o.members }

def depth (o : OpenClass) : Nat :=
  match o.left with
  | none => joined o.members
  | some left => 1 + max left (joined o.members)

end OpenClass

/-- One member of a class, and what follows. -/
def member (m : Mode) : List Char → Option (Atom × List Char)
  | [] => none
  | '\\' :: r => escape m r
  | c :: r => some (.char c false, r)

/-- The hyphens at the front of a class, which stand for themselves. -/
def hyphens (m : Mode) : Nat → OpenClass → List Char → OpenClass × List Char
  | fuel + 1, o, '-' :: r => hyphens m fuel (o.add 0) (m.skip r)
  | _, o, s => (o, s)

/-- The front of a class behind its opening bracket: a mark of negation, at most so many hyphens, or
a closing bracket that stands for itself. -/
def openClass (m : Mode) (fuel : Nat) (s : List Char) : Option (OpenClass × List Char) :=
  let s := m.skip s
  let negated := s.head? = some '^'
  let s := if negated then m.skip s.tail else s
  let (o, s) :=
    match hyphens m fuel ⟨[], none⟩ s with
    | (o, ']' :: r) => if o.members = [] then (o.add 0, m.skip r) else (o, ']' :: r)
    | found => found
  if negated ∧ ¬ m.scripts then none
  else if o.members ≠ [] ∧ ¬ (Atom.char '-' false).stands m true then none
  else some (o, s)

/-- The rest of the innermost of the open classes and of those around it: the depth of the
outermost, and what follows it. -/
def classFrom (m : Mode) : Nat → OpenClass → List OpenClass → List Char → Option (Nat × List Char)
  | 0, _, _, _ => none
  | fuel + 1, o, outer, s =>
    match m.skip s with
    | [] => none
    | '[' :: r =>
      match namedClass? r with
      | some (negated, r) =>
        if (if m.scripts then m.anyCase else negated) then none
        else classFrom m fuel (o.add 0) outer r
      | none =>
        match openClass m fuel r with
        | some (inner, r) => classFrom m fuel inner (o :: outer) r
        | none => none
    | ']' :: r =>
      match outer with
      | [] => some (1 + o.depth, r)
      | next :: outer => classFrom m fuel (next.add (1 + o.depth)) outer r
    | '&' :: '&' :: r => classFrom m fuel ⟨[], some o.depth⟩ outer r
    | '-' :: '-' :: r => classFrom m fuel ⟨[], some o.depth⟩ outer r
    | '~' :: '~' :: r => classFrom m fuel ⟨[], some o.depth⟩ outer r
    | s =>
      match member m s with
      | none => none
      | some (low, r) =>
        if ¬ low.stands m true then none
        else
          match m.skip r with
          | '-' :: t =>
            if m.peek t = some ']' ∨ m.peek t = some '-' then
              classFrom m fuel (o.add 0) outer ('-' :: t)
            else
              match low, member m (m.skip t) with
              | .char a _, some (.char b byte, t) =>
                if a ≤ b ∧ (Atom.char b byte).stands m true then
                  classFrom m fuel (o.add 0) outer t
                else none
              | _, _ => none
          | r => classFrom m fuel (o.add 0) outer r

/-- A class behind its opening bracket: its depth, and what follows. -/
def bracketed (m : Mode) (fuel : Nat) (s : List Char) : Option (Nat × List Char) :=
  match openClass m fuel s with
  | some (o, r) => classFrom m fuel o [] r
  | none => none

/-! ## Groups -/

/-- A group that is open, or the whole pattern: the depths of its finished alternatives and those
of the parts of the unfinished one, in reverse.  A part that changes the mode has no depth and
cannot be repeated. -/
structure OpenGroup where
  alternatives : List Nat
  parts : List (Option Nat)

namespace OpenGroup

def empty : OpenGroup := ⟨[], []⟩

def add (g : OpenGroup) (part : Option Nat) : OpenGroup := { g with parts := part :: g.parts }

def last (g : OpenGroup) : Nat := joined (g.parts.map fun d => d.getD 0)

def depth (g : OpenGroup) : Nat := joined (g.last :: g.alternatives)

end OpenGroup

/-- What has been read of a pattern. -/
structure State where
  mode : Mode
  group : OpenGroup
  /-- The groups around it, each with the mode that it returns to. -/
  outer : List (OpenGroup × Mode)
  /-- The names of groups. -/
  names : List String

namespace State

def start : State := ⟨.start, .empty, [], []⟩

/-- Add a part of a depth. -/
def add (st : State) (depth : Nat) : State := { st with group := st.group.add (some depth) }

/-- Open a group in a mode. -/
def enter (st : State) (mode : Mode) : State :=
  { st with mode, group := .empty, outer := (st.group, st.mode) :: st.outer }

/-- Open a group with a name, which ends before the sign `>`. -/
def enterNamed (st : State) (s : List Char) : Option (State × List Char) :=
  let name := s.takeWhile (· ≠ '>')
  match name, s.dropWhile (· ≠ '>') with
  | c :: cs, _ :: r =>
    let fits := (c = '_' || isLetter c) && cs.all fun c =>
      isLetter c || isNumeral c || ['_', '.', '[', ']'].contains c
    if fits ∧ ¬ st.names.contains (String.ofList name) then
      some ({ st.enter st.mode with names := String.ofList name :: st.names }, r)
    else none
  | _, _ => none

/-- Read what follows an opening parenthesis. -/
def openGroup (st : State) (s : List Char) : Option (State × List Char) :=
  match st.mode.skip s with
  | '?' :: 'P' :: '<' :: r => st.enterNamed r
  | '?' :: '<' :: r => st.enterNamed r
  | '?' :: r =>
    match switches true [] st.mode r with
    | some (mode, _, ':' :: r) => some (st.enter mode, r)
    | some (mode, _ :: _, _ :: r) => some ({ st with mode, group := st.group.add none }, r)
    | _ => none
  | r => some (st.enter st.mode, r)

/-- Close the innermost group. -/
def closeGroup (st : State) : Option State :=
  match st.outer with
  | [] => none
  | (group, mode) :: outer =>
    some { st with mode, group := group.add (some (1 + st.group.depth)), outer }

/-- Repeat the last part. -/
def repeated (st : State) : Option State :=
  match st.group.parts with
  | some depth :: parts =>
    some { st with group := { st.group with parts := some (1 + depth) :: parts } }
  | _ => none

/-- Begin another alternative. -/
def alternative (st : State) : State :=
  { st with group := ⟨st.group.last :: st.group.alternatives, []⟩ }

/-- Add an atom, if it may stand here. -/
def addAtom (st : State) (a : Atom) : Option State :=
  if a.stands st.mode false then some (st.add 0) else none

/-- Read one part of a pattern, which begins with the character given; `fuel` is more than what is
left of the pattern. -/
def step (st : State) (fuel : Nat) (c : Char) (r : List Char) : Option (State × List Char) :=
  match c with
  | '(' => st.openGroup r
  | ')' => st.closeGroup.map fun st => (st, r)
  | '|' => some (st.alternative, r)
  | '[' => (bracketed st.mode fuel r).map fun (depth, r) => (st.add depth, r)
  | '?' | '*' | '+' =>
    st.repeated.map fun st => (st, if r.head? = some '?' then r.tail else r)
  | '\x7b' => none
  | '\\' => (escape st.mode r).bind fun (a, r) => (st.addAtom a).map fun st => (st, r)
  | '.' => if st.mode.scripts then some (st.add 0, r) else none
  | '^' | '$' => some (st.add 0, r)
  | c => (st.addAtom (.char c false)).map fun st => (st, r)

/-- Read a pattern to its end. -/
def run : Nat → State → List Char → Option State
  | 0, _, _ => none
  | fuel + 1, st, s =>
    match st.mode.skip s with
    | [] => some st
    | c :: r =>
      match st.step fuel c r with
      | some (st, r) => run fuel st r
      | none => none

end State

/-- Whether a text is a pattern. -/
def isValid (s : List Char) : Bool :=
  match State.run (s.length + 1) .start s with
  | some st => st.outer.isEmpty && st.group.depth ≤ nestingLimit
  | none => false

end Pattern
end Text
end ModelRegistry
