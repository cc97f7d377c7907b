import Mathlib.Data.List.Find
import ModelRegistry.Proofs.Daemon.Serving

/-!
# All handlers or none

A service object may come with handlers that others have attached, and any events of the model
service may be among theirs.  Attaching goes through the table in order, up to the first event that
is taken (`firstTaken?`).  By then the handlers of the rows before it are in place, and the events
behind it may be taken or free.

What becomes of a service object is told by a look at each event.  To attach changes no event of
another row (`find?_attach_of_ne`), and to detach frees the events of its rows, whoever has taken
them, and no other (`find?_detach_of_mem`, `find?_detach_of_ne`).
-/

namespace ModelRegistry

variable {σ : Type}

theorem Service.isAttached_eq_false_iff {s : Service σ} {event : String} :
    s.isAttached event = false ↔ s.handlers.find? event = none := by
  simp [isAttached, Table.contains]

/-- A name that is not there need not be forgotten. -/
theorem Table.erase_of_find?_eq_none {α : Type} {t : Table α} {name : String}
    (h : t.find? name = none) : t.erase name = t := by
  obtain ⟨es⟩ := t
  simp only [find?, Option.map_eq_none_iff, List.find?_eq_none, decide_eq_true_eq] at h
  rw [erase, List.filter_eq_self.2 fun e he => decide_eq_true (h e he)]

namespace Handlers

/-! ## Attaching -/

/-- The first of some events that is taken. -/
def firstTaken? (events : List String) (s : Service σ) : Option String := events.find? s.isAttached

/-- What comes of attaching, by the event that is in the way. -/
def verdict : Option String → Except BusError Unit
  | none => .ok ()
  | some event => .error (.alreadyAttached event)

section Attach

variable (ops : Operations σ) {rows : List (Row σ)} (s : Service σ)

theorem attach_value (hnodup : (rows.map Row.event).Nodup) :
    (attach ops rows s).1 = verdict (firstTaken? (rows.map Row.event) s) := by
  induction rows generalizing s with
  | nil => rfl
  | cons r rows ih =>
    obtain ⟨hr, hrows⟩ := List.nodup_cons.1 hnodup
    cases htaken : s.isAttached r.event with
    | true =>
      rw [attach_cons_of_taken ops s htaken, List.map_cons, firstTaken?,
        List.find?_cons_of_pos htaken, verdict]
    | false =>
      rw [attach_cons_of_free ops s htaken, ih _ hrows, List.map_cons, firstTaken?, firstTaken?,
        List.find?_cons_of_neg (by simp [htaken])]
      -- The handler that was attached is in the way of none of the events that follow.
      congr 1
      refine List.find?_congr fun event hevent => ?_
      have hne : ¬ r.event = event := fun heq => hr (heq ▸ hevent)
      simp [Service.isAttached, Table.contains, hne]

theorem interface_attach : (attach ops rows s).2.interface = s.interface := by
  induction rows generalizing s with
  | nil => rfl
  | cons r rows ih =>
    cases htaken : s.isAttached r.event with
    | true => rw [attach_cons_of_taken ops s htaken]
    | false => rw [attach_cons_of_free ops s htaken, ih]

end Attach

/-! ## Detaching -/

section Detach

variable {rows : List (Row σ)} (s : Service σ)

theorem detach_cons (r : Row σ) : detach (r :: rows) s = detach rows (s.detach r.event).2 := rfl

theorem find?_detach_of_ne {event : String} (h : ∀ r ∈ rows, r.event ≠ event) :
    (detach rows s).handlers.find? event = s.handlers.find? event := by
  induction rows generalizing s with
  | nil => rfl
  | cons r rows ih =>
    obtain ⟨hr, hrows⟩ := List.forall_mem_cons.1 h
    rw [detach_cons, ih _ hrows, Service.detach, Table.find?_erase, if_neg hr]

theorem find?_detach_of_mem {event : String} (h : event ∈ rows.map Row.event) :
    (detach rows s).handlers.find? event = none := by
  induction rows generalizing s with
  | nil => cases h
  | cons r rows ih =>
    rw [detach_cons]
    by_cases hevent : event ∈ rows.map Row.event
    · exact ih _ hevent
    · obtain rfl : event = r.event := (List.mem_cons.1 h).resolve_right hevent
      rw [find?_detach_of_ne, Service.detach, Table.find?_erase, if_pos rfl]
      exact fun other hother heq => hevent (List.mem_map.2 ⟨other, hother, heq⟩)

theorem interface_detach : (detach rows s).interface = s.interface := by
  induction rows generalizing s with
  | nil => rfl
  | cons r rows ih => rw [detach_cons, ih, Service.detach]

/-- Where the events are free there is nothing to detach. -/
theorem detach_of_free (h : ∀ r ∈ rows, s.handlers.find? r.event = none) : detach rows s = s := by
  induction rows with
  | nil => rfl
  | cons r rows ih =>
    obtain ⟨hr, hrows⟩ := List.forall_mem_cons.1 h
    rw [detach_cons, Service.detach, Table.erase_of_find?_eq_none hr]
    exact ih hrows

theorem find?_detachAll (m : Method) : (detachAll s).handlers.find? m.event = none :=
  find?_detach_of_mem s (List.mem_map.2 ⟨row m, mem_table_iff.2 ⟨m, rfl⟩, rfl⟩)

theorem isAttached_detachAll (m : Method) : (detachAll s).isAttached m.event = false :=
  Service.isAttached_eq_false_iff.2 (find?_detachAll s m)

theorem find?_detachAll_of_ne {event : String} (h : ∀ m : Method, m.event ≠ event) :
    (detachAll s).handlers.find? event = s.handlers.find? event := by
  refine find?_detach_of_ne s fun r hr => ?_
  obtain ⟨m, rfl⟩ := mem_table_iff.1 hr
  exact h m

theorem detachAll_detachAll : detachAll (detachAll s) = detachAll s := by
  refine detach_of_free _ fun r hr => ?_
  obtain ⟨m, rfl⟩ := mem_table_iff.1 hr
  exact find?_detachAll s m

/-- Then every call is told that there is no handler. -/
theorem invoke_detachAll (c : Call) (state : σ) :
    (detachAll s).invoke c state =
      (.error .unavailable ("no handler for '" ++ c.event ++ "' on " ++ s.interface), state) := by
  have hfree : (detachAll s).handlers.find? c.event = none := find?_detachAll s c.method
  rw [Service.invoke, hfree, detachAll, interface_detach]

end Detach

/-! ## All or none -/

section AttachAll

variable (backend : Backend σ) (s : Service σ)

/-- All handlers stay attached, or a method is in the way and all are detached. -/
theorem attachAll_cases :
    let attached := attach (.of backend) table s
    let first? := Method.all.find? fun m => s.isAttached m.event
    first? = none ∧ attachAll backend s = (.ok (), attached.2) ∨
      ∃ m, first? = some m ∧
        attachAll backend s = (.error (.alreadyAttached m.event), detachAll attached.2) := by
  intro attached first?
  have hvalue : attached.1 = verdict (first?.map Method.event) := by
    rw [attach_value _ s nodup_events_table, events_table, firstTaken?, List.find?_map]
    rfl
  cases hfirst : first? with
  | none =>
    rw [hfirst] at hvalue
    exact .inl ⟨rfl, attachAll_eq_ok_iff.2 (Prod.ext hvalue rfl)⟩
  | some m =>
    rw [hfirst] at hvalue
    have hattach : attach (.of backend) table s = (.error (.alreadyAttached m.event), attached.2) :=
      Prod.ext hvalue rfl
    exact .inr ⟨m, rfl, by rw [attachAll, hattach]⟩

end AttachAll

/-- **All handlers are attached or none.**  Whatever is attached to a service object, attaching the
handlers of the model service succeeds exactly if none of its events is taken.  Then each event has
the handler of its method, and every call is answered from the backend.  Otherwise the error names
the first method whose event is taken, in the order of the methods, and afterwards all their events
are free, also those that others had taken, so no call finds a handler.  The handlers of all other
events stay the same in either case.  To detach the handlers afterwards frees the events of the
model service and no other, and to do so again changes nothing. -/
theorem attaches_all_or_none (backend : Backend σ) (s : Service σ) :
    let o := attachAll backend s
    (o.1 = .ok () ↔ ∀ m : Method, s.isAttached m.event = false) ∧
    (o.1 = .ok () → (∀ m, o.2.Answers backend m) ∧ ∀ (c : Call) state,
      o.2.invoke c state = (.ofAnswer c (backend c state).1, (backend c state).2)) ∧
    (∀ e, o.1 = .error e →
      (∃ before m after, Method.all = before ++ m :: after ∧
        (∀ n ∈ before, s.isAttached n.event = false) ∧ s.isAttached m.event = true ∧
        e = .alreadyAttached m.event) ∧
      (∀ m : Method, o.2.isAttached m.event = false) ∧ ∀ (c : Call) state,
        o.2.invoke c state =
          (.error .unavailable ("no handler for '" ++ c.event ++ "' on " ++ s.interface), state)) ∧
    (∀ event, (∀ m : Method, m.event ≠ event) →
      o.2.handlers.find? event = s.handlers.find? event) ∧
    (∀ m : Method, (detachAll o.2).isAttached m.event = false) ∧
    (∀ event, (∀ m : Method, m.event ≠ event) →
      (detachAll o.2).handlers.find? event = o.2.handlers.find? event) ∧
    detachAll (detachAll o.2) = detachAll o.2 := by
  intro o
  have hother (event : String) (hevent : ∀ m : Method, m.event ≠ event) :
      (detachAll o.2).handlers.find? event = o.2.handlers.find? event :=
    find?_detachAll_of_ne o.2 hevent
  have hdetached :=
    And.intro (isAttached_detachAll o.2) (And.intro hother (detachAll_detachAll o.2))
  have hkept (event : String) (hevent : ∀ m : Method, m.event ≠ event) :
      (attach (.of backend) table s).2.handlers.find? event = s.handlers.find? event := by
    refine find?_attach_of_ne (.of backend) s fun r hr => ?_
    obtain ⟨m, rfl⟩ := mem_table_iff.1 hr
    exact hevent m
  rcases attachAll_cases backend s with ⟨hfree, ho⟩ | ⟨m, htaken, ho⟩
  · have hok : o.1 = .ok () := congrArg (·.1) ho
    have hstate : o.2 = (attach (.of backend) table s).2 := congrArg (·.2) ho
    have hanswers : ∀ m, o.2.Answers backend m := answers_of_attachAll (Prod.ext hok rfl)
    refine ⟨iff_of_true hok fun m => ?_,
      fun _ => ⟨hanswers, fun c state => Service.invoke_of_answers (hanswers c.method) state⟩,
      fun e he => ?_, fun event hevent => ?_, hdetached⟩
    · simpa using List.find?_eq_none.1 hfree m (Method.mem_all m)
    · rw [hok] at he
      cases he
    · rw [hstate]
      exact hkept event hevent
  · obtain ⟨hm, before, after, hsplit, hbefore⟩ := List.find?_eq_some_iff_append.1 htaken
    have hfailed : o.1 = .error (.alreadyAttached m.event) := congrArg (·.1) ho
    have hstate : o.2 = detachAll (attach (.of backend) table s).2 := congrArg (·.2) ho
    have hne : o.1 ≠ .ok () := by simp [hfailed]
    refine ⟨iff_of_false hne fun hfree => ?_, fun hok => absurd hok hne,
      fun e he => ⟨⟨before, m, after, hsplit, fun n hn => ?_, hm, ?_⟩, ?_, fun c state => ?_⟩,
      fun event hevent => ?_, hdetached⟩
    · rw [hfree m] at hm
      cases hm
    · simpa using hbefore n hn
    · rw [hfailed] at he
      exact (Except.error.inj he).symm
    · rw [hstate]
      exact isAttached_detachAll _
    · rw [hstate, invoke_detachAll, interface_attach]
    · rw [hstate, find?_detachAll_of_ne _ hevent]
      exact hkept event hevent

end Handlers
end ModelRegistry
