import ModelRegistry.Proofs.Path.Resolution
import ModelRegistry.Proofs.Text.Utf8

/-!
# Components of a path

The components of a path are its names but for the dots that make no difference.  Two paths that
start in the same place and have the same components are the same path in two spellings
(`Path.Same`).  No component is empty or has a slash in it (`isName_of_mem_components`), so a path
made of components has these components again (`components_ofNames`).

A text without slashes that is no dots is an entry of a directory (`IsEntry`).
`IsEntry.same_parent_join` is what all this comes to for a path that is joined to one: its parent is
the path on the left, however that is spelled.
-/

namespace ModelRegistry

namespace Text

variable {α : Type} [DecidableEq α] {c : α}

theorem cutAt_cons_of_ne {d : α} {s part : List α} {parts : List (List α)} (h : d ≠ c)
    (hs : cutAt c s = part :: parts) : cutAt c (d :: s) = (d :: part) :: parts := by
  rw [cutAt, List.foldr_cons, ← cutAt, if_neg h, hs]

/-- No part of a text has the character in it that the text was cut at. -/
theorem not_mem_of_mem_cutAt {s part : List α} (h : part ∈ cutAt c s) : c ∉ part := by
  induction s generalizing part with
  | nil =>
    obtain rfl : part = [] := by simpa [cutAt] using h
    exact List.not_mem_nil
  | cons d s ih =>
    by_cases hd : d = c
    · rw [cutAt, List.foldr_cons, ← cutAt, if_pos hd, List.mem_cons] at h
      rcases h with rfl | h
      · exact List.not_mem_nil
      · exact ih h
    · obtain ⟨first, parts, hparts⟩ := List.exists_cons_of_ne_nil (cutAt_ne_nil c s)
      rw [cutAt_cons_of_ne hd hparts, List.mem_cons] at h
      rw [hparts] at ih
      rcases h with rfl | h
      · rw [List.mem_cons, not_or]
        exact ⟨Ne.symm hd, ih List.mem_cons_self⟩
      · exact ih (List.mem_cons_of_mem _ h)

theorem cutAt_of_not_mem {s : List α} (h : c ∉ s) : cutAt c s = [s] := by
  induction s with
  | nil => rfl
  | cons d s ih =>
    obtain ⟨hd, hs⟩ := not_or.1 (mt List.mem_cons.2 h)
    exact cutAt_cons_of_ne (Ne.symm hd) (ih hs)

end Text

namespace Path

/-! ## Names -/

/-- What can stand between two slashes. -/
def IsName (name : Bytes) : Prop := name ≠ [] ∧ slash ∉ name

theorem isName_of_mem_names {p : Path} {name : Bytes} (h : name ∈ p.names) : IsName name := by
  obtain ⟨hcut, hne⟩ := List.mem_filter.1 h
  exact ⟨by simpa using hne, Text.not_mem_of_mem_cutAt hcut⟩

/-- A name is the only name of the path that it spells. -/
theorem names_of_isName {name : Bytes} (h : IsName name) : names ⟨name⟩ = [name] := by
  rw [names, Text.cutAt_of_not_mem h.2]
  simp [h.1]

theorem isAbsolute_of_isName {name : Bytes} (h : IsName name) (rest : Bytes) :
    isAbsolute ⟨name ++ rest⟩ = false := by
  obtain ⟨b, bs, rfl⟩ := List.exists_cons_of_ne_nil h.1
  have hb : b ≠ slash := fun heq => h.2 (heq ▸ List.mem_cons_self)
  simpa [isAbsolute] using hb

/-- A text that names something in a directory. -/
structure IsEntry (s : String) : Prop where
  ne_empty : s ≠ ""
  ne_here : s ≠ "."
  ne_up : s ≠ ".."
  slash : '/' ∉ s.toList

namespace IsEntry

variable {s : String} (h : IsEntry s)
include h

theorem isName : IsName (Text.bytes s) := by
  constructor
  · intro hempty
    exact h.ne_empty (Text.bytes_injective (hempty.trans rfl))
  · intro hslash
    rw [Text.bytes_eq_utf8] at hslash
    exact h.slash ((Text.ofNat_mem_utf8_iff (c := '/') (by decide)).1 hslash)

theorem isPlain : Route.IsPlain (Text.bytes s) := by
  constructor
  · intro hhere
    exact h.ne_here (Text.bytes_injective (hhere.trans rfl))
  · intro hup
    exact h.ne_up (Text.bytes_injective (hup.trans rfl))

theorem names : (ofText s).names = [Text.bytes s] := names_of_isName h.isName

theorem isAbsolute : (ofText s).isAbsolute = false := by
  have hstart := isAbsolute_of_isName h.isName []
  rwa [List.append_nil] at hstart

end IsEntry

/-- Names with a slash between any two. -/
theorem names_intercalate {ns : List Bytes} (h : ∀ n ∈ ns, IsName n) :
    names ⟨[slash].intercalate ns⟩ = ns := by
  induction ns with
  | nil => rfl
  | cons n ns ih =>
    obtain ⟨hn, hns⟩ := List.forall_mem_cons.1 h
    cases ns with
    | nil =>
      rw [List.intercalate_singleton]
      exact names_of_isName hn
    | cons n' ns =>
      rw [List.intercalate_cons_cons, List.append_assoc, List.singleton_append, names_append_slash,
        names_of_isName hn, ih hns, List.singleton_append]

theorem names_ofNames (absolute : Bool) {ns : List Bytes} (h : ∀ n ∈ ns, IsName n) :
    (ofNames absolute ns).names = ns := by
  cases absolute with
  | false => exact names_intercalate h
  | true =>
    have hroot : names ⟨[] ++ slash :: [slash].intercalate ns⟩ = ns := by
      rw [names_append_slash, names_intercalate h]
      rfl
    exact hroot

theorem isAbsolute_ofNames (absolute : Bool) {ns : List Bytes} (h : ∀ n ∈ ns, IsName n) :
    (ofNames absolute ns).isAbsolute = absolute := by
  cases absolute with
  | true => rfl
  | false =>
    cases ns with
    | nil => rfl
    | cons n ns =>
      obtain ⟨hn, -⟩ := List.forall_mem_cons.1 h
      cases ns with
      | nil => simpa [ofNames] using isAbsolute_of_isName hn []
      | cons n' ns => exact isAbsolute_of_isName hn _

/-! ## Components -/

/-- The same path, in two spellings. -/
structure Same (p q : Path) : Prop where
  isAbsolute : p.isAbsolute = q.isAbsolute
  components : p.components = q.components

/-- Names that are the components of a path: a dot can only be the first, and it is not where the
path starts at the root. -/
structure AreComponents (absolute : Bool) (ns : List Bytes) : Prop where
  names : ∀ n ∈ ns, IsName n
  rest : ∀ n ∈ ns.tail, n ≠ here
  first : absolute = true → ns.head? ≠ some here

theorem components_of_names {p : Path} {n : Bytes} {ns : List Bytes} (h : p.names = n :: ns) :
    p.components =
      if n = here ∧ p.isAbsolute = true then ns.filter (· ≠ here)
      else n :: ns.filter (· ≠ here) := by
  rw [components, h]

theorem areComponents (p : Path) : AreComponents p.isAbsolute p.components := by
  cases hnames : p.names with
  | nil =>
    have hnone : p.components = [] := by rw [components, hnames]
    rw [hnone]
    exact ⟨by simp, by simp, by simp⟩
  | cons n ns =>
    have hname {m : Bytes} (hm : m ∈ n :: ns) : IsName m := isName_of_mem_names (hnames ▸ hm)
    have hfilter {m : Bytes} (hm : m ∈ ns.filter (· ≠ here)) : m ∈ ns ∧ m ≠ here := by
      simpa using hm
    rw [components_of_names hnames]
    split
    · refine ⟨fun m hm => hname (List.mem_cons_of_mem _ (hfilter hm).1),
        fun m hm => (hfilter (List.mem_of_mem_tail hm)).2, fun _ hhead => ?_⟩
      exact (hfilter (List.mem_of_mem_head? hhead)).2 rfl
    · next hfirst =>
      refine ⟨fun m hm => ?_, fun m hm => (hfilter hm).2, fun habsolute hhead => ?_⟩
      · rcases List.mem_cons.1 hm with rfl | hm
        · exact hname List.mem_cons_self
        · exact hname (List.mem_cons_of_mem _ (hfilter hm).1)
      · exact hfirst ⟨Option.some.inj hhead, habsolute⟩

/-- A path made of components has them. -/
theorem components_ofNames {absolute : Bool} {ns : List Bytes} (h : AreComponents absolute ns) :
    (ofNames absolute ns).components = ns := by
  have hnames := names_ofNames absolute h.names
  cases ns with
  | nil => rw [components, hnames]
  | cons n ns =>
    have hfirst : ¬ (n = here ∧ (ofNames absolute (n :: ns)).isAbsolute = true) := by
      rw [isAbsolute_ofNames absolute h.names]
      rintro ⟨rfl, habsolute⟩
      exact h.first habsolute rfl
    have hrest : ns.filter (· ≠ here) = ns :=
      List.filter_eq_self.2 fun m hm => decide_eq_true (h.rest m hm)
    rw [components_of_names hnames, if_neg hfirst, hrest]

/-! ## Joining an entry -/

namespace IsEntry

variable {s : String} (h : IsEntry s) (p : Path)
include h

theorem isAbsolute_join : (p.join (ofText s)).isAbsolute = p.isAbsolute :=
  Path.isAbsolute_join h.isAbsolute

/-- The path leads one level further down. -/
theorem route_join : (p.join (ofText s)).route =
    { p.route with names := Text.bytes s :: p.route.names } := by
  rw [Path.route_join h.isAbsolute, h.names, Route.follow_plain h.isPlain]

/-- It has one component more. -/
theorem components_join : (p.join (ofText s)).components = p.components ++ [Text.bytes s] := by
  have hnames := names_join (p := p) h.isAbsolute
  have hplain : Text.bytes s ≠ here := h.isPlain.1
  rw [h.names] at hnames
  cases hp : p.names with
  | nil =>
    rw [hp, List.nil_append] at hnames
    rw [components_of_names hnames, if_neg fun hfirst => hplain hfirst.1, components, hp]
    rfl
  | cons n ns =>
    rw [hp, List.cons_append] at hnames
    have hlast : (ns ++ [Text.bytes s]).filter (· ≠ here) =
        ns.filter (· ≠ here) ++ [Text.bytes s] := by
      simp [hplain]
    rw [components_of_names hnames, components_of_names hp, h.isAbsolute_join, hlast]
    split <;> rfl

/-- Its parent is the path on the left. -/
theorem same_parent_join :
    ∃ parent, (p.join (ofText s)).parent? = some parent ∧ parent.Same p := by
  refine ⟨ofNames p.isAbsolute p.components, ?_, ?_⟩
  · rw [parent?, h.components_join, if_neg (by simp), h.isAbsolute_join, List.dropLast_concat]
  · exact ⟨isAbsolute_ofNames _ p.areComponents.names, components_ofNames p.areComponents⟩

end IsEntry

end Path
end ModelRegistry
