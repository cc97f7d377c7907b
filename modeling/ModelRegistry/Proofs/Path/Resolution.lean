import Mathlib.Data.List.Basic
import Mathlib.Data.List.Induction
import ModelRegistry.Path

/-!
# Where a path leads

Without a look at any file the names of a path can be followed from where it starts: a dot stays in
place, two dots go back to the level above, and any other name goes one level down.  What is left of
the path is a `Route`.  A route that starts at the root never leaves it, and any other may begin
with levels above its start, which no name takes back.

The names of a joined path are those of its two parts (`names_join`), so its route is the first one
followed further.  Of the names that follow only their own route matters (`Route.follow_eq`): so
many levels are given up, and then new names are entered.  Whether that leads out of a directory can
be told from the names themselves (`Route.toNames_prefix_follow_iff`).
-/

namespace ModelRegistry

namespace Text

variable {α : Type} [DecidableEq α]

/-- A text is cut at a character wherever it was put together with it. -/
theorem cutAt_append (c : α) (s t : List α) : cutAt c (s ++ c :: t) = cutAt c s ++ cutAt c t := by
  induction s with
  | nil => simp [cutAt]
  | cons d s ih =>
    obtain ⟨part, parts, hparts⟩ := List.exists_cons_of_ne_nil (cutAt_ne_nil c s)
    simp only [cutAt, List.cons_append, List.foldr_cons] at ih hparts ⊢
    rw [ih, hparts]
    split <;> rfl

end Text

namespace Path

/-! ## Joined paths -/

variable {p q : Path}

theorem join_of_isAbsolute (hq : q.isAbsolute = true) : p.join q = q := if_pos hq

/-- A path starts where its left part does, unless the right one starts at the root. -/
theorem isAbsolute_join (hq : q.isAbsolute = false) : (p.join q).isAbsolute = p.isAbsolute := by
  obtain ⟨ps⟩ := p
  cases ps with
  | nil =>
    have hjoin : (⟨[]⟩ : Path).join q = q := by simp [join, hq]
    rw [hjoin, hq]
    rfl
  | cons b ps =>
    rw [join, hq]
    by_cases hslash : (b :: ps).getLast? = some slash <;> simp [isAbsolute, hslash]

/-- What is before a slash and what is behind it have names of their own. -/
theorem names_append_slash (s t : Bytes) :
    names ⟨s ++ slash :: t⟩ = names ⟨s⟩ ++ names ⟨t⟩ := by
  simp only [names, Text.cutAt_append, List.filter_append]

/-- The names of a joined path are those of its parts. -/
theorem names_join (hq : q.isAbsolute = false) : (p.join q).names = p.names ++ q.names := by
  rw [join, hq]
  split
  · contradiction
  · split
    · next hbare =>
      rcases hbare with hempty | hlast
      · rw [hempty]
        simp [names, hempty, Text.cutAt]
      · -- The slash between the parts is the last byte of the left one.
        obtain ⟨s, hs⟩ := List.getLast?_eq_some_iff.1 hlast
        obtain ⟨ps⟩ := p
        obtain rfl : ps = s ++ [slash] := hs
        have hleft : names ⟨s ++ [slash]⟩ = names ⟨s⟩ := by
          rw [names_append_slash]
          simp [names, Text.cutAt]
        rw [hleft, List.append_assoc]
        exact names_append_slash s q.bytes
    · exact names_append_slash p.bytes q.bytes

/-! ## Routes -/

/-- So many levels above the start, and then down along names, of which the last one comes first. -/
structure Route where
  climb : Nat
  names : List Bytes
  deriving DecidableEq, Repr

namespace Route

/-- To stay at the start. -/
def start : Route := ⟨0, []⟩

/-- What a name makes of a route.  There is no level above the root. -/
def enter (fromRoot : Bool) (r : Route) (name : Bytes) : Route :=
  if name = here then r
  else if name = up then
    match r.names with
    | [] => if fromRoot then r else { r with climb := r.climb + 1 }
    | _ :: names => { r with names }
  else { r with names := name :: r.names }

/-- What names make of a route. -/
def follow (fromRoot : Bool) (r : Route) (names : List Bytes) : Route :=
  names.foldl (enter fromRoot) r

/-- The route in names, from its start. -/
def toNames (r : Route) : List Bytes := List.replicate r.climb up ++ r.names.reverse

variable {fromRoot : Bool} {r : Route} {name : Bytes}

theorem enter_here : r.enter fromRoot here = r := if_pos rfl

theorem enter_up_nil (hr : r.names = []) :
    r.enter fromRoot up = if fromRoot then r else { r with climb := r.climb + 1 } := by
  simp [enter, hr, here, up]

theorem enter_up_cons {last : Bytes} {names : List Bytes} (hr : r.names = last :: names) :
    r.enter fromRoot up = { r with names } := by
  simp [enter, hr, here, up]

/-- A name that is no dot and no two dots. -/
def IsPlain (name : Bytes) : Prop := name ≠ here ∧ name ≠ up

instance : Decidable (IsPlain name) := inferInstanceAs (Decidable (_ ∧ _))

theorem enter_plain (h : IsPlain name) :
    r.enter fromRoot name = { r with names := name :: r.names } := by
  rw [enter, if_neg h.1, if_neg h.2]

theorem follow_plain (h : IsPlain name) :
    r.follow fromRoot [name] = { r with names := name :: r.names } := by
  show r.enter fromRoot name = _
  exact enter_plain h

theorem follow_append (names names' : List Bytes) :
    r.follow fromRoot (names ++ names') = (r.follow fromRoot names).follow fromRoot names' :=
  List.foldl_append

theorem follow_concat (names : List Bytes) :
    r.follow fromRoot (names ++ [name]) = (r.follow fromRoot names).enter fromRoot name :=
  List.foldl_concat _ _ _ _

/-- Names are followed by going up as far as their own route does, and then down as it does.  Above
the first name of a route there are the levels above its start, or none if that is the root.

The induction adds names at the end, where both routes take them. -/
theorem follow_eq (fromRoot : Bool) (r : Route) (names : List Bytes) :
    let own := start.follow false names
    r.follow fromRoot names =
      { climb := if fromRoot then r.climb else r.climb + (own.climb - r.names.length)
        names := own.names ++ r.names.drop own.climb } := by
  induction names using List.reverseRecOn with
  | nil => simp [follow, start]
  | append_singleton names name ih =>
    simp only at ih ⊢
    rw [follow_concat, follow_concat, ih]
    generalize start.follow false names = own
    by_cases hhere : name = here
    · rw [hhere, enter_here, enter_here]
    by_cases hup : name = up
    · subst hup
      cases hown : own.names with
      | cons last later =>
        rw [enter_up_cons hown, enter_up_cons (List.cons_append ..)]
      | nil =>
        rw [enter_up_nil hown]
        rcases Nat.lt_or_ge own.climb r.names.length with hlow | hhigh
        · have hdrop := List.drop_eq_getElem_cons hlow
          rw [List.nil_append, enter_up_cons hdrop]
          simp [Nat.sub_eq_zero_of_le (Nat.le_of_lt hlow), Nat.sub_eq_zero_of_le hlow, hown]
        · have hdrop : r.names.drop own.climb = [] := List.drop_eq_nil_of_le hhigh
          have hlater : r.names.drop (own.climb + 1) = [] :=
            List.drop_eq_nil_of_le (Nat.le_succ_of_le hhigh)
          rw [List.nil_append, hdrop, enter_up_nil rfl]
          cases fromRoot with
          | true => simp [hlater, hown]
          | false => simp [hlater, hown, Nat.succ_sub hhigh, Nat.add_assoc]
    · rw [enter_plain ⟨hhere, hup⟩, enter_plain ⟨hhere, hup⟩]
      rfl

/-- Without two dots there is nothing to climb. -/
theorem climb_follow_of_not_mem {names : List Bytes} (h : up ∉ names) :
    (start.follow false names).climb = 0 := by
  induction names using List.reverseRecOn with
  | nil => rfl
  | append_singleton names name ih =>
    rw [List.mem_append, not_or, List.mem_singleton] at h
    rw [follow_concat, enter]
    split
    · exact ih h.1
    · rw [if_neg (Ne.symm h.2)]
      exact ih h.1

/-- No name of a route is a dot or two. -/
theorem isPlain_of_mem_follow {names : List Bytes} (h : name ∈ (start.follow fromRoot names).names) :
    IsPlain name := by
  induction names using List.reverseRecOn with
  | nil => cases h
  | append_singleton names last ih =>
    rw [follow_concat, enter] at h
    split at h
    · exact ih h
    · next hhere =>
      split at h
      · split at h
        · split at h <;> exact ih h
        · next hnames =>
          exact ih (hnames ▸ List.mem_cons_of_mem _ h)
      · next hup =>
        rcases List.mem_cons.1 h with rfl | h
        · exact ⟨hhere, hup⟩
        · exact ih h

/-- From the root no route climbs. -/
theorem climb_follow_root (names : List Bytes) : (start.follow true names).climb = 0 := by
  rw [follow_eq]
  rfl

/-- A route that is followed further still has its own names in front just when the names that
follow take back the levels that they give up.  Nothing takes back a level above the start. -/
theorem toNames_prefix_follow_iff {own : Route} {names : List Bytes} (hr : r.names ≠ [])
    (hplain : ∀ name ∈ r.names, IsPlain name) (hown : start.follow false names = own) :
    r.toNames <+: (r.follow fromRoot names).toNames ↔
      (fromRoot = true ∨ own.climb ≤ r.names.length) ∧ r.names.take own.climb <:+ own.names := by
  have hfollow : r.follow fromRoot names = _ := hown ▸ follow_eq fromRoot r names
  have hlevels : r.names.reverse =
      (r.names.drop own.climb).reverse ++ (r.names.take own.climb).reverse := by
    rw [← List.reverse_append, List.take_append_drop]
  rw [hfollow]
  by_cases hkept : fromRoot = true ∨ own.climb ≤ r.names.length
  · have hclimb : (if fromRoot then r.climb else r.climb + (own.climb - r.names.length)) =
        r.climb := by
      rcases hkept with hroot | hlow
      · rw [if_pos hroot]
      · rw [Nat.sub_eq_zero_of_le hlow, Nat.add_zero, ite_self]
    rw [toNames, toNames, hclimb, List.prefix_append_right_inj, and_iff_right hkept, hlevels,
      List.reverse_append, List.prefix_append_right_inj, List.reverse_prefix]
  · refine iff_of_false ?_ fun h => hkept h.1
    -- The first name below the start would have to be one of the levels above it.
    obtain ⟨hroot, hhigh⟩ := not_or.1 hkept
    obtain ⟨above, habove⟩ := Nat.exists_eq_succ_of_ne_zero
      (Nat.sub_ne_zero_of_lt (Nat.lt_of_not_le hhigh))
    obtain ⟨first, later, hfirst⟩ := List.exists_cons_of_ne_nil (List.reverse_ne_nil_iff.2 hr)
    have hmem : first ∈ r.names := List.mem_reverse.1 (hfirst ▸ List.mem_cons_self)
    rw [toNames, toNames, if_neg hroot, habove, List.replicate_add, List.append_assoc,
      List.prefix_append_right_inj, List.replicate_succ, List.cons_append, hfirst,
      List.cons_prefix_cons]
    exact fun hprefix => (hplain first hmem).2 hprefix.1

end Route

/-- The route of a path. -/
def route (p : Path) : Route := Route.start.follow p.isAbsolute p.names

/-- A path leads to a place in a directory: both start in the same place, and the path has the names
that lead to the directory in front. -/
def Contains (directory p : Path) : Prop :=
  directory.isAbsolute = p.isAbsolute ∧ directory.route.toNames <+: p.route.toNames

theorem route_join (hq : q.isAbsolute = false) :
    (p.join q).route = p.route.follow p.isAbsolute q.names := by
  rw [route, isAbsolute_join hq, names_join hq, Route.follow_append]
  rfl

end Path
end ModelRegistry
