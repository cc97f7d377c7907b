import ModelRegistry.Log.Event
import ModelRegistry.Text.Cut
import ModelRegistry.Text.Pattern

/-!
# Log filters

A filter is a list of directives between commas.  A directive selects events by where they come
from, by a field that they have, or not at all, and says how serious an event has to be:

    origin[span{field=value}]=threshold

Every part may be missing, and a word alone is a threshold if it can be read as one and an origin
otherwise.  The directive that says most about an event decides: the longest origin first, then the
field.  A directive that asks for a span or for the value of a field selects nothing here, since no
event is reported inside a span; but it has to be well formed.
-/

namespace ModelRegistry
namespace LogFilter

/-- How serious an event has to be; none when nothing is serious enough. -/
abbrev Threshold := Option Level

/-- One directive. -/
structure Directive where
  /-- What the origin of an event has to begin with. -/
  origin : Option String
  /-- The field that an event has to have. -/
  field : Option String
  threshold : Threshold
  deriving DecidableEq, Repr

/-- The field that a directive names. -/
structure FieldTest where
  name : String
  /-- Whether a value of the field is asked for too. -/
  valued : Bool
  deriving DecidableEq, Repr

/-- A directive as it is written: it may also ask for a span or for the value of its field. -/
structure Written where
  origin : Option String
  span : Option String
  field : Option FieldTest
  threshold : Threshold
  deriving DecidableEq, Repr

/-- The directive, if it can select an event outside any span. -/
def Written.plain? (w : Written) : Option Directive :=
  if w.span.isSome ∨ w.field.any (·.valued) then none
  else some ⟨w.origin, w.field.map (·.name), w.threshold⟩

/-! ## Thresholds -/

/-- The digits of a decimal number, which may have a plus sign, without zeros in front. -/
def digits? (s : List Char) : Option (List Char) :=
  let s := if s.head? = some '+' then s.tail else s
  if s ≠ [] ∧ s.all Char.isDigit then some (s.dropWhile (· = '0')) else none

/-- The threshold that a text spells, by its number or by its name in any case.  Zero lets nothing
pass. -/
def threshold? (s : List Char) : Option Threshold :=
  let levels := [Level.error, .warn, .info, .debug, .trace]
  match digits? s with
  | some [] => some none
  | some [c] => (levels.find? fun l => l.rank = c.toNat - '0'.toNat).map some
  | some _ => none
  | none =>
    if Text.sameLetters (String.ofList s) "off" then some none
    else (levels.find? fun l => Text.sameLetters (String.ofList s) l.name).map some

/-- The threshold after the sign `=`; nothing after it lets everything pass. -/
def thresholdAfter (s : List Char) : Option Threshold :=
  if s = [] then some (some .trace) else threshold? s

/-! ## Fields -/

/-- A number without its sign. -/
def unsigned (s : List Char) : List Char :=
  match s with
  | '+' :: r | '-' :: r => r
  | r => r

/-- Whether a text is nothing or the exponent of a number. -/
def isExponent : List Char → Bool
  | [] => true
  | c :: r => (c = 'e' || c = 'E') && !(unsigned r).isEmpty && (unsigned r).all Char.isDigit

/-- Whether a text is a number with or without a sign, a point and an exponent. -/
def isNumber (s : List Char) : Bool :=
  let s := unsigned s
  let rest := s.dropWhile Char.isDigit
  let places := if rest.head? = some '.' then rest.tail else []
  let after := if rest.head? = some '.' then places.dropWhile Char.isDigit else rest
  ["inf", "infinity", "nan"].any (Text.sameLetters (String.ofList s)) ||
    ((s.head?.any Char.isDigit || places.head?.any Char.isDigit) && isExponent after)

/-- Read what stands between braces: the name of a field, and after the sign `=` a value, which is a
number or a pattern.  What follows a second such sign is passed over. -/
def fieldTest? (s : List Char) : Option FieldTest :=
  match Text.cutAt '=' s with
  | name :: value :: _ =>
    if isNumber value || Text.Pattern.isValid value then some ⟨String.ofList name, true⟩ else none
  | _ => if s = [] then none else some ⟨String.ofList s, false⟩

/-! ## Layout

Blanks around a directive are passed over when its parts are found, but not when they are read: each
part begins and ends as many bytes after the first blank as it was found after the first character
that is not one, and the last part goes on to the end of the blanks. -/

/-- Where a part of a directive is: behind so many bytes, and of so many bytes, or up to the end. -/
structure Extent where
  start : Nat
  size : Option Nat
  deriving DecidableEq, Repr

/-- The part of a text. -/
def Extent.of? (e : Extent) (s : List Char) : Option (List Char) :=
  (Text.dropBytes? e.start s).bind fun r =>
    match e.size with
    | none => some r
    | some n => Text.takeBytes? n r

/-- Where the parts of a directive are. -/
structure Layout where
  origin : Option Extent
  span : Option Extent
  field : Option Extent
  threshold : Option Extent
  deriving DecidableEq, Repr

namespace Layout

/-- A threshold after so many bytes, with the sign `=` before it, or nothing. -/
def withThreshold (l : Layout) (n : Nat) : List Char → Option Layout
  | [] => some l
  | '=' :: _ => some { l with threshold := some ⟨n + 1, none⟩ }
  | _ => none

/-- A span or a field after so many bytes, behind an opening bracket, and what follows the closing
bracket. -/
def withSpan (l : Layout) (n : Nat) (s : List Char) : Option Layout :=
  let name := s.takeWhile fun c => c ≠ ']' ∧ c ≠ '\x7b'
  let span : Extent := ⟨n, some (Text.byteCount name)⟩
  let n := n + Text.byteCount name + 1
  match s.dropWhile fun c => c ≠ ']' ∧ c ≠ '\x7b' with
  | ']' :: rest => { l with span := some span }.withThreshold n rest
  | '\x7b' :: rest =>
    let inner := rest.takeWhile (· ≠ '\x7d')
    let field : Extent := ⟨n, some (Text.byteCount inner)⟩
    match rest.dropWhile (· ≠ '\x7d') with
    | '\x7d' :: ']' :: rest =>
      let span := if name = [] then none else some span
      { l with span, field := some field }.withThreshold (n + Text.byteCount inner + 2) rest
    | _ => none
  | _ => none

/-- Find the parts of a directive that is more than a word. -/
def ofText? (s : List Char) : Option Layout :=
  let front := s.takeWhile fun c => c ≠ '=' ∧ c ≠ '['
  let n := Text.byteCount front
  match s.dropWhile fun c => c ≠ '=' ∧ c ≠ '[' with
  | '[' :: rest =>
    let origin := if front = [] then none else some ⟨0, some n⟩
    withSpan ⟨origin, none, none, none⟩ (n + 1) rest
  | rest => withThreshold ⟨some ⟨0, some n⟩, none, none, none⟩ n rest

/-- Read the parts of a directive. -/
def read (l : Layout) (s : List Char) : Option Written := do
  let origin ← l.origin.mapM (·.of? s)
  let span ← l.span.mapM (·.of? s)
  let field ← l.field.mapM fun e => (e.of? s).bind fieldTest?
  let threshold ← l.threshold.mapM fun e => (e.of? s).bind thresholdAfter
  return ⟨origin.map String.ofList, span.map String.ofList, field, threshold.getD (some .trace)⟩

end Layout

/-! ## Directives -/

/-- Whether a directive may begin with a character. -/
def begins (c : Char) : Bool :=
  ['-', ':', '_', '['].contains c || Text.isLetter c || Text.isNumeral c

/-- A directive that is only a word. -/
def ofWord (s : List Char) : Written :=
  match threshold? s with
  | some threshold => ⟨none, none, none, threshold⟩
  | none => ⟨some (String.ofList s), none, none, some .trace⟩

/-- Read one directive. -/
def directive? (s : List Char) : Option Written :=
  let inner := (Text.trim (String.ofList s)).toList
  if !inner.head?.any begins then none
  else if inner.contains '=' || inner.contains '[' then
    (Layout.ofText? inner).bind fun l => l.read s
  else some (ofWord s)

end LogFilter

/-- Which events are written. -/
structure LogFilter where
  directives : List LogFilter.Directive
  deriving DecidableEq, Repr

namespace LogFilter

/-- Read a filter. -/
def ofText? (s : String) : Option LogFilter :=
  (((Text.cutAt ',' s.toList).filter (· ≠ [])).mapM directive?).map fun written =>
    ⟨written.filterMap Written.plain?⟩

/-! ## Selecting -/

/-- Whether a directive speaks about an event. -/
def Directive.concerns (d : Directive) (e : Event) : Bool :=
  d.origin.all (fun origin => origin.toList.isPrefixOf e.origin.toList) &&
  d.field.all fun name => name = "message" || e.fields.any fun f => f.1 = name

/-- How much of an origin a directive asks for; nothing is less than an empty beginning. -/
def Directive.reach (d : Directive) : Nat :=
  (d.origin.map fun o => o.utf8ByteSize + 1).getD 0

/-- Whether the first of two directives that speak about one event says at least as much as the
second: it asks for more of the origin, or for as much and for a field; of two fields the one that
comes later in the order of names. -/
def Directive.outweighs (d other : Directive) : Bool :=
  if d.reach = other.reach then
    match other.field, d.field with
    | none, _ => true
    | some _, none => false
    | some a, some b => a ≤ b
  else other.reach < d.reach

/-- The directive that decides about an event; of two that say as much, the later one. -/
def decisive? (f : LogFilter) (e : Event) : Option Directive :=
  (f.directives.filter (·.concerns e)).foldl
    (fun best d =>
      match best with
      | none => some d
      | some b => if d.outweighs b then some d else some b)
    none

/-- Whether an event is written. -/
def passes (f : LogFilter) (e : Event) : Bool :=
  match f.decisive? e with
  | none => false
  | some d =>
    match d.threshold with
    | none => false
    | some level => e.level.rank ≤ level.rank

end LogFilter
end ModelRegistry
