import ModelRegistry.Json.Progress

/-!
# Readers of values

A `Reader` reads one value and makes progress.  Progress is part of the type, so that the loops
over the items of an array and the members of an object end for any readers of their parts.

`Reader.members` is the one loop over an object: it carries a state, and after each name the state
decides how the value is to be read or that the member is refused.  Reading a document into a
`Json`, reading a record field by field, and gathering the members of a tagged union are three
uses of it.  `value` limits the nesting; `skip`, for values nobody asked for, does not.
-/

namespace ModelRegistry
namespace Json

/-- A reader of one value: what it read and what is left, or the first fault. -/
structure Reader (α : Type) where
  run : Bytes → Except Failure (α × Bytes)
  progress : ∀ {s v r}, run s = .ok (v, r) → r.length < s.length

/-- How many arrays and objects may lie in each other. -/
def depthLimit : Nat := 127

namespace Reader

variable {α β σ : Type}

/-- The same reader with its values changed. -/
def map (f : α → β) (reader : Reader α) : Reader β where
  run s := match reader.run s with
    | .error e => .error e
    | .ok (v, r) => .ok (f v, r)
  progress {s v r} h := by
    split at h
    · cases h
    · next heq => cases h; exact reader.progress heq

/-! ## Scalars -/

/-- A scalar that is accepted or refused as soon as it has been read.  An array or object is
refused where it begins. -/
def scalarRun (expected : String) (accept : Found → Except Fault α) (s : Bytes) :
    Except Failure (α × Bytes) :=
  match foundAt (skipBlank s) with
  | .error e => .error e
  | .ok (.array, r) => stop (.wrongType .array expected) r
  | .ok (.object, r) => stop (.wrongType .object expected) r
  | .ok (found, r) =>
    match accept found with
    | .error fault => stop fault r
    | .ok v => .ok (v, r)

theorem scalarRun_lt {expected : String} {accept : Found → Except Fault α} {s r : Bytes} {v : α}
    (h : scalarRun expected accept s = .ok (v, r)) : r.length < s.length := by
  unfold scalarRun at h
  have hs := skipBlank_le s
  split at h
  · cases h
  · simp [stop] at h
  · simp [stop] at h
  · next harr hobj heq =>
    split at h
    · simp [stop] at h
    · cases h
      rcases foundAt_lt heq with hlt | ⟨rfl | rfl, -⟩
      · omega
      · exact (harr rfl).elim
      · exact (hobj rfl).elim

def scalar (expected : String) (accept : Found → Except Fault α) : Reader α where
  run := scalarRun expected accept
  progress := scalarRun_lt

/-! ## Items of an array -/

/-- Where an array stands: at its end, which has been read, or at its next item. -/
inductive NextItem
  | close (rest : Bytes)
  | item (rest : Bytes)

/-- The unread bytes. -/
def NextItem.rest : NextItem → Bytes
  | close r | item r => r

/-- Look for the next item.  `first` says that no item has been read yet. -/
def nextItem (first : Bool) (s : Bytes) : Except Failure NextItem :=
  match skipBlank s with
  | [] => stop .endInArray []
  | b :: r =>
    if b = 0x5D then .ok (.close r)
    else if first then .ok (.item (b :: r))
    else if b = 0x2C then
      match skipBlank r with
      | [] => stop .endInValue []
      | c :: t => if c = 0x5D then stopAt .trailingComma (c :: t) else .ok (.item (c :: t))
    else stopAt .expectedCommaOrBracket (b :: r)

theorem nextItem_le {first : Bool} {s : Bytes} {n : NextItem} (h : nextItem first s = .ok n) :
    n.rest.length ≤ s.length ∧ ∀ r, n = .close r → r.length < s.length := by
  unfold nextItem at h
  have hs := skipBlank_le s
  split at h
  · simp [stop] at h
  · next b r heq =>
    rw [heq] at hs
    simp only [List.length_cons] at hs
    split at h
    · cases h; exact ⟨by simp only [NextItem.rest]; omega, fun _ e => by cases e; omega⟩
    · split at h
      · cases h; exact ⟨by simp only [NextItem.rest, List.length_cons]; omega, by simp⟩
      · split at h
        · have ht := skipBlank_le r
          split at h
          · simp [stop] at h
          · next c t heq' =>
            rw [heq'] at ht
            split at h
            · simp [stopAt] at h
            · cases h
              simp only [List.length_cons] at ht
              exact ⟨by simp only [NextItem.rest, List.length_cons]; omega, by simp⟩
        · simp [stopAt] at h

/-- The items up to the end of the array.  `seen` holds, in reverse, the items so far. -/
def itemsFrom (item : Reader α) (first : Bool) (seen : List α) (s : Bytes) :
    Except Failure (List α × Bytes) :=
  match hn : nextItem first s with
  | .error e => .error e
  | .ok (.close r) => .ok (seen.reverse, r)
  | .ok (.item t) =>
    match hv : item.run t with
    | .error e => .error e
    | .ok (v, r) =>
      have : r.length < s.length := by
        have := (nextItem_le hn).1
        have := item.progress hv
        simp only [NextItem.rest] at *
        omega
      itemsFrom item false (v :: seen) r
termination_by s.length

theorem itemsFrom_lt {item : Reader α} {first : Bool} {seen vs : List α} {s r : Bytes}
    (h : itemsFrom item first seen s = .ok (vs, r)) : r.length < s.length := by
  fun_induction itemsFrom item first seen s with
  | case1 => cases h
  | case2 first seen s t hn => cases h; exact (nextItem_le hn).2 _ rfl
  | case3 => cases h
  | case4 first seen s t hn v u hv hlt ih => have := ih h; omega

/-- An array after its opening bracket. -/
def items (item : Reader α) : Reader (List α) where
  run := itemsFrom item true []
  progress := itemsFrom_lt

/-- The end of an array whose items have all been read. -/
def closeItems (s : Bytes) : Except Failure Bytes :=
  match skipBlank s with
  | [] => stop .endInArray []
  | b :: r =>
    if b = 0x5D then .ok r
    else if b = 0x2C then
      match skipBlank r with
      | [] => stop .trailingCharacters []
      | c :: t =>
        if c = 0x5D then stopAt .trailingComma (c :: t) else stopAt .trailingCharacters (c :: t)
    else stopAt .trailingCharacters (b :: r)

theorem closeItems_lt {s r : Bytes} (h : closeItems s = .ok r) : r.length < s.length := by
  unfold closeItems at h
  have hs := skipBlank_le s
  split at h
  · simp [stop] at h
  · next heq =>
    rw [heq] at hs
    simp only [List.length_cons] at hs
    split at h
    · cases h; omega
    · split at h
      · split at h
        · simp [stop] at h
        · split at h <;> simp [stopAt] at h
      · simp [stopAt] at h

/-! ## Members of an object -/

/-- Where an object stands: at its end, which has been read, or behind the name of a member. -/
inductive NextMember
  | close (rest : Bytes)
  | member (name : String) (rest : Bytes)

/-- The unread bytes. -/
def NextMember.rest : NextMember → Bytes
  | close r | member _ r => r

/-- A name, at whose quote the document stands. -/
def memberName (s : Bytes) : Except Failure NextMember :=
  match s with
  | [] => stop .endInValue []
  | b :: r =>
    if b = 0x22 then
      match textValue r with
      | .error e => .error e
      | .ok (name, r) => .ok (.member name r)
    else stopAt .nameNotText s

/-- Look for the next member.  `first` says that no member has been read yet. -/
def nextMember (first : Bool) (s : Bytes) : Except Failure NextMember :=
  match skipBlank s with
  | [] => stop .endInObject []
  | b :: r =>
    if b = 0x7D then .ok (.close r)
    else if first then memberName (b :: r)
    else if b = 0x2C then
      match skipBlank r with
      | [] => stop .endInValue []
      | c :: t => if c = 0x7D then stopAt .trailingComma (c :: t) else memberName (c :: t)
    else stopAt .expectedCommaOrBrace (b :: r)

theorem memberName_lt {s : Bytes} {n : NextMember} (h : memberName s = .ok n) :
    n.rest.length < s.length := by
  unfold memberName at h
  split at h
  · simp [stop] at h
  · split at h
    · split at h
      · cases h
      · next heq =>
        cases h
        have := textValue_lt heq
        simp only [NextMember.rest, List.length_cons]; omega
    · simp [stopAt] at h

theorem nextMember_lt {first : Bool} {s : Bytes} {n : NextMember}
    (h : nextMember first s = .ok n) : n.rest.length < s.length := by
  unfold nextMember at h
  have hs := skipBlank_le s
  split at h
  · simp [stop] at h
  · next b r heq =>
    rw [heq] at hs
    simp only [List.length_cons] at hs
    split at h
    · cases h; simp only [NextMember.rest]; omega
    · split at h
      · have := memberName_lt h
        simp only [List.length_cons] at this; omega
      · split at h
        · have ht := skipBlank_le r
          split at h
          · simp [stop] at h
          · next heq' =>
            rw [heq'] at ht
            split at h
            · simp [stopAt] at h
            · have := memberName_lt h
              simp only [List.length_cons] at this ht; omega
        · simp [stopAt] at h

/-- The colon behind a name. -/
def colon (s : Bytes) : Except Failure Bytes :=
  match skipBlank s with
  | [] => stop .endInObject []
  | b :: r => if b = 0x3A then .ok r else stopAt .expectedColon (b :: r)

theorem colon_lt {s r : Bytes} (h : colon s = .ok r) : r.length < s.length := by
  unfold colon at h
  have hs := skipBlank_le s
  split at h
  · simp [stop] at h
  · next heq =>
    rw [heq] at hs
    simp only [List.length_cons] at hs
    split at h
    · cases h; omega
    · simp [stopAt] at h

/-- The members up to the end of the object.  `step` sees the state and a name, and gives the
reader of the value, which makes the next state, or refuses the member. -/
def membersFrom (step : σ → String → Except Fault (Reader σ)) (first : Bool) (state : σ)
    (s : Bytes) : Except Failure (σ × Bytes) :=
  match hn : nextMember first s with
  | .error e => .error e
  | .ok (.close r) => .ok (state, r)
  | .ok (.member name t) =>
    match step state name with
    | .error fault => refuse fault t
    | .ok reader =>
      match hc : colon t with
      | .error e => .error e
      | .ok u =>
        match hv : reader.run u with
        | .error e => .error e
        | .ok (state, r) =>
          have : r.length < s.length := by
            have := nextMember_lt hn
            have := colon_lt hc
            have := reader.progress hv
            simp only [NextMember.rest] at *
            omega
          membersFrom step false state r
termination_by s.length

theorem membersFrom_lt {step : σ → String → Except Fault (Reader σ)} {first : Bool}
    {state state' : σ} {s r : Bytes} (h : membersFrom step first state s = .ok (state', r)) :
    r.length < s.length := by
  fun_induction membersFrom step first state s with
  | case1 => cases h
  | case2 first state s t hn => cases h; exact nextMember_lt hn
  | case3 => simp [refuse] at h
  | case4 => cases h
  | case5 => cases h
  | case6 _ _ _ _ _ _ _ _ _ _ _ _ _ hlt ih => have := ih h; omega

/-- An object after its opening brace. -/
def members (step : σ → String → Except Fault (Reader σ)) (start : σ) : Reader σ where
  run := membersFrom step true start
  progress := membersFrom_lt

/-! ## Any value -/

/-- The value of a scalar. -/
def ofScalar : Found → Json
  | .flag b => .flag b
  | .number n => .number n
  | .text t => .text t
  | _ => .null

/-- One value.  The items of an array and the values of members are read by `inner`; without it
neither may begin here. -/
def valueRun (inner : Option (Reader Json)) (s : Bytes) : Except Failure (Json × Bytes) :=
  match foundAt (skipBlank s) with
  | .error e => .error e
  | .ok (.array, r) =>
    match inner with
    | none => stopAt .tooDeep r
    | some item =>
      match (items item).run (r.drop 1) with
      | .error e => .error e
      | .ok (vs, r) => .ok (.array vs, r)
  | .ok (.object, r) =>
    match inner with
    | none => stopAt .tooDeep r
    | some item =>
      let gather := members (fun ms name => .ok (item.map fun v => (name, v) :: ms)) []
      match gather.run (r.drop 1) with
      | .error e => .error e
      | .ok (ms, r) => .ok (.object ms.reverse, r)
  | .ok (found, r) => .ok (ofScalar found, r)

theorem valueRun_lt {inner : Option (Reader Json)} {s r : Bytes} {v : Json}
    (h : valueRun inner s = .ok (v, r)) : r.length < s.length := by
  unfold valueRun at h
  have hs := skipBlank_le s
  split at h
  · cases h
  · next t heq =>
    have ht : t.length ≤ (skipBlank s).length := by
      rcases foundAt_lt heq with h' | ⟨-, rfl⟩ <;> omega
    split at h
    · simp [stopAt] at h
    · split at h
      · cases h
      · next heq' =>
        cases h
        have := (items _).progress heq'
        simp only [List.length_drop] at this; omega
  · next t heq =>
    have ht : t.length ≤ (skipBlank s).length := by
      rcases foundAt_lt heq with h' | ⟨-, rfl⟩ <;> omega
    split at h
    · simp [stopAt] at h
    · simp only at h
      split at h
      · cases h
      · next heq' =>
        cases h
        have := (members _ _).progress heq'
        simp only [List.length_drop] at this; omega
  · next harr hobj heq =>
    cases h
    rcases foundAt_lt heq with hlt | ⟨rfl | rfl, -⟩
    · omega
    · exact (harr rfl).elim
    · exact (hobj rfl).elim

/-- Any value with at most the given number of arrays and objects in each other. -/
def value : Nat → Reader Json
  | 0 => ⟨valueRun none, valueRun_lt⟩
  | depth + 1 => ⟨valueRun (some (value depth)), valueRun_lt⟩

/-! ## Values nobody asked for -/

/-- An array or object that has begun and not ended. -/
inductive Bracket
  | array
  | object
  deriving DecidableEq

/-- The name and colon of a member that is passed over. -/
def skipName (s : Bytes) : Except Failure Bytes :=
  match skipBlank s with
  | [] => stop .endInObject []
  | b :: r =>
    if b = 0x22 then
      match skipText r with
      | .error e => .error e
      | .ok r => colon r
    else stopAt .nameNotText (b :: r)

theorem skipName_lt {s r : Bytes} (h : skipName s = .ok r) : r.length < s.length := by
  unfold skipName at h
  have hs := skipBlank_le s
  split at h
  · simp [stop] at h
  · next heq =>
    rw [heq] at hs
    simp only [List.length_cons] at hs
    split at h
    · split at h
      · cases h
      · next ht =>
        have := skipText_lt ht
        have := colon_lt h
        omega
    · simp [stopAt] at h

/-- After a value: close what ends here.  What is left open wants another value. -/
def skipAfter : List Bracket → Bytes → Except Failure (List Bracket × Bytes)
  | [], s => .ok ([], s)
  | .array :: outer, s =>
    match skipBlank s with
    | [] => stop .endInArray []
    | b :: r =>
      if b = 0x5D then skipAfter outer r
      else if b = 0x2C then .ok (.array :: outer, r)
      else stopAt .expectedCommaOrBracket (b :: r)
  | .object :: outer, s =>
    match skipBlank s with
    | [] => stop .endInObject []
    | b :: r =>
      if b = 0x7D then skipAfter outer r
      else if b = 0x2C then (skipName r).map fun r => (.object :: outer, r)
      else stopAt .expectedCommaOrBrace (b :: r)

theorem skipAfter_le {outer outer' : List Bracket} {s r : Bytes}
    (h : skipAfter outer s = .ok (outer', r)) : r.length ≤ s.length := by
  fun_induction skipAfter outer s with
  | case1 => cases h; simp
  | case2 => simp [stop] at h
  | case3 outer s t heq ih =>
    have := skipBlank_le s
    have := ih h
    simp_all only [List.length_cons]; omega
  | case4 outer s t heq =>
    have := skipBlank_le s
    cases h
    simp_all only [List.length_cons]; omega
  | case5 => simp [stopAt] at h
  | case6 => simp [stop] at h
  | case7 outer s t heq ih =>
    have := skipBlank_le s
    have := ih h
    simp_all only [List.length_cons]; omega
  | case8 outer s t heq =>
    have := skipBlank_le s
    simp only [Except.map] at h
    split at h
    · cases h
    · next hn =>
      cases h
      have := skipName_lt hn
      simp_all only [List.length_cons]; omega
  | case9 => simp [stopAt] at h

/-- Pass over a scalar or enter an array or object. -/
def skipStep (outer : List Bracket) (s : Bytes) : Except Failure (List Bracket × Bytes) :=
  match skipBlank s with
  | [] => stop .endInValue []
  | b :: r =>
    if b = 0x5B then
      match skipBlank r with
      | [] => stop .endInArray []
      | c :: t => if c = 0x5D then skipAfter outer t else .ok (.array :: outer, c :: t)
    else if b = 0x7B then
      match skipBlank r with
      | [] => stop .endInObject []
      | c :: t =>
        if c = 0x7D then skipAfter outer t
        else (skipName (c :: t)).map fun r => (.object :: outer, r)
    else
      match skipScalar (b :: r) with
      | .error e => .error e
      | .ok t => skipAfter outer t

theorem skipStep_lt {outer outer' : List Bracket} {s r : Bytes}
    (h : skipStep outer s = .ok (outer', r)) : r.length < s.length := by
  unfold skipStep at h
  have hs := skipBlank_le s
  split at h
  · simp [stop] at h
  · next b t heq =>
    rw [heq] at hs
    simp only [List.length_cons] at hs
    have ht := skipBlank_le t
    split at h
    · split at h
      · simp [stop] at h
      · next heq' =>
        rw [heq'] at ht
        simp only [List.length_cons] at ht
        split at h
        · have := skipAfter_le h; omega
        · cases h; simp only [List.length_cons]; omega
    · split at h
      · split at h
        · simp [stop] at h
        · next heq' =>
          rw [heq'] at ht
          simp only [List.length_cons] at ht
          split at h
          · have := skipAfter_le h; omega
          · simp only [Except.map] at h
            split at h
            · cases h
            · next hn =>
              cases h
              have := skipName_lt hn
              simp only [List.length_cons] at this; omega
      · split at h
        · cases h
        · next hsc =>
          have := skipScalar_lt hsc
          have := skipAfter_le h
          simp only [List.length_cons] at *; omega

/-- Pass over values until nothing is open. -/
def skipFrom (outer : List Bracket) (s : Bytes) : Except Failure (Unit × Bytes) :=
  match h : skipStep outer s with
  | .error e => .error e
  | .ok ([], r) => .ok ((), r)
  | .ok (open_ :: outer, r) =>
    have : r.length < s.length := skipStep_lt h
    skipFrom (open_ :: outer) r
termination_by s.length

theorem skipFrom_lt {outer : List Bracket} {s r : Bytes}
    (h : skipFrom outer s = .ok ((), r)) : r.length < s.length := by
  fun_induction skipFrom outer s with
  | case1 => cases h
  | case2 outer s t hs => cases h; exact skipStep_lt hs
  | case3 outer s b outer' t hs hlt ih => have := ih h; omega

/-- A value nobody asked for. -/
def skip : Reader Unit where
  run := skipFrom []
  progress := skipFrom_lt

end Reader

/-! ## Documents -/

/-- A whole document: one value, with nothing but blanks around it. -/
def document {α : Type} (reader : Reader α) (s : Bytes) : Except Failure α :=
  match reader.run s with
  | .error e => .error e
  | .ok (v, r) =>
    match skipBlank r with
    | [] => .ok v
    | b :: t => stopAt .trailingCharacters (b :: t)

/-- Read a document as it is written. -/
def parse (s : Bytes) : Except Failure Json :=
  document (Reader.value depthLimit) s

end Json
end ModelRegistry
