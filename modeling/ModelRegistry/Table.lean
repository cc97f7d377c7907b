/-!
# Tables

A `Table` keeps values under names, in the order in which the names were first set.  All that is
said about a table is said through `find?`: what `set` and `erase` do to it is stated here once.
-/

namespace ModelRegistry

/-- Values under names. -/
structure Table (α : Type) where
  entries : List (String × α)
  deriving DecidableEq, Repr

namespace Table

variable {α : Type}

def empty : Table α := ⟨[]⟩

/-- The value under a name. -/
def find? (t : Table α) (name : String) : Option α :=
  (t.entries.find? fun e => e.1 = name).map (·.2)

def contains (t : Table α) (name : String) : Bool := (t.find? name).isSome

/-- Replace the value under a name in a list of entries, or append it. -/
def setIn (name : String) (value : α) : List (String × α) → List (String × α)
  | [] => [(name, value)]
  | e :: es => if e.1 = name then (name, value) :: es else e :: setIn name value es

/-- Keep a value under a name, in place of any other. -/
def set (t : Table α) (name : String) (value : α) : Table α := ⟨setIn name value t.entries⟩

/-- Forget a name. -/
def erase (t : Table α) (name : String) : Table α := ⟨t.entries.filter fun e => e.1 ≠ name⟩

/-- The names that hold a value. -/
def names (t : Table α) : List String := t.entries.map (·.1)

/-- The values, in the order of their names. -/
def toList (t : Table α) : List α := t.entries.map (·.2)

def size (t : Table α) : Nat := t.entries.length

@[simp] theorem find?_empty (name : String) : (empty : Table α).find? name = none := rfl

@[simp] theorem find?_set (t : Table α) (name other : String) (value : α) :
    (t.set name value).find? other = if name = other then some value else t.find? other := by
  obtain ⟨es⟩ := t
  simp only [find?, set]
  induction es with
  | nil => by_cases h : name = other <;> simp [setIn, h]
  | cons e es ih =>
    obtain ⟨key, held⟩ := e
    simp only [setIn]
    by_cases hk : key = name
    · subst hk
      by_cases h : key = other <;> simp [h]
    · rw [if_neg hk]
      by_cases h : key = other
      · have hn : ¬ name = other := fun hc => hk (h.trans hc.symm)
        rw [if_neg hn]
        simp [h]
      · simpa [h] using ih

@[simp] theorem find?_erase (t : Table α) (name other : String) :
    (t.erase name).find? other = if name = other then none else t.find? other := by
  obtain ⟨es⟩ := t
  simp only [find?, erase]
  induction es with
  | nil => simp
  | cons e es ih =>
    obtain ⟨key, held⟩ := e
    by_cases hk : key = name
    · rw [List.filter_cons_of_neg (by simp [hk]), ih]
      by_cases h : name = other
      · simp [h]
      · have hn : ¬ key = other := fun hc => h (hk.symm.trans hc)
        simp [h, hn]
    · rw [List.filter_cons_of_pos (by simp [hk])]
      by_cases h : key = other
      · have hn : ¬ name = other := fun hc => hk (h.trans hc.symm)
        simp [h, hn]
      · simpa [h] using ih

/-! ## Names -/

theorem mem_names_setIn (name other : String) (value : α) (es : List (String × α)) :
    other ∈ (setIn name value es).map (·.1) ↔ other = name ∨ other ∈ es.map (·.1) := by
  induction es with
  | nil => simp [setIn]
  | cons e es ih =>
    by_cases he : e.1 = name
    · simp [setIn, he]
    · simp only [setIn, he, if_false, List.map_cons, List.mem_cons, ih]
      exact or_left_comm

theorem nodup_names_setIn {name : String} {value : α} {es : List (String × α)}
    (h : (es.map (·.1)).Nodup) : ((setIn name value es).map (·.1)).Nodup := by
  induction es with
  | nil => simp [setIn]
  | cons e es ih =>
    obtain ⟨hnew, hes⟩ := List.nodup_cons.1 h
    by_cases he : e.1 = name
    · subst he
      simpa [setIn] using h
    · rw [setIn, if_neg he]
      simp only [List.map_cons, List.nodup_cons, mem_names_setIn, not_or]
      exact ⟨⟨he, hnew⟩, ih hes⟩

/-- Setting a value keeps every name in one place. -/
theorem nodup_names_set {t : Table α} {name : String} {value : α} (h : t.names.Nodup) :
    (t.set name value).names.Nodup :=
  nodup_names_setIn h

/-- Forgetting a name keeps every other name in one place. -/
theorem nodup_names_erase {t : Table α} {name : String} (h : t.names.Nodup) :
    (t.erase name).names.Nodup :=
  h.sublist (List.filter_sublist.map _)

end Table
end ModelRegistry
