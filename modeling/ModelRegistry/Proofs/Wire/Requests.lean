import ModelRegistry.Proofs.Wire.Meanings

/-!
# Which requests are accepted

A document is accepted as a message when its object holds the message (`Message.HeldBy`): the
address and the call occur once, the call names its method once by an event, and every field of the
method occurs once with a value of its kind, or not at all if it has a fallback.  Nothing else about
the document is looked at, so it may order its members, space them, escape its texts and add members
of other names as it likes (`decode_request`).

What is asked of the document beforehand is that it is one (`Message.Posted`): an object by the
grammar, nested no deeper than readers go, whose members named `call` are objects, within the limit.
-/

namespace ModelRegistry

open Json (Values valuesOf)

/-! ## Calls -/

namespace Call

/-- The members of an object hold a call. -/
def HeldBy (args : List (String × Json)) (c : Call) : Prop :=
  valuesOf args "method" = [.text c.event] ∧ Values.Held args c.method.fields c.values

theorem ofValues_eq_iff {m : Method} {vs : Values m.fields} {c : Call} :
    ofValues m vs = c ↔ (⟨m, vs⟩ : union.Choice) = ⟨c.method, c.values⟩ := by
  constructor
  · rintro rfl
    cases m <;> rfl
  · intro h
    cases h
    exact ofValues_values c

theorem among?_eq_some_iff {args : List (String × Json)} {c : Call} :
    among? args = some c ↔ HeldBy args c := by
  have hunion : union.among? args = some (⟨c.method, c.values⟩ : union.Choice) ↔
      valuesOf args "method" = [.text c.method.tag] ∧ Values.Held args c.method.fields c.values :=
    Json.Union.among?_eq_some_iff lawful_union
  rw [among?, Option.map_eq_some_iff, HeldBy, event, ← Method.tag_eq_event, ← hunion]
  constructor
  · rintro ⟨⟨m, vs⟩, hchoice, hc⟩
    rw [hchoice, ofValues_eq_iff.1 hc]
  · intro hchoice
    exact ⟨_, hchoice, ofValues_values c⟩

/-- Two objects agree on the method, and on the fields of the method if there is one. -/
structure Agree (args args' : List (String × Json)) : Prop where
  method : (valuesOf args "method").Perm (valuesOf args' "method")
  fields : ∀ m : Method, valuesOf args "method" = [.text m.event] →
    ∀ f ∈ m.fields, (valuesOf args f.name).Perm (valuesOf args' f.name)

theorem HeldBy.of_agree {args args' : List (String × Json)} {c : Call} (h : HeldBy args c)
    (hagree : Agree args args') : HeldBy args' c := by
  obtain ⟨hmethod, hfields⟩ := h
  have hperm := hagree.method
  rw [hmethod] at hperm
  exact ⟨(List.singleton_perm.1 hperm).symm, hfields.of_perm (hagree.fields c.method hmethod)⟩

theorem Agree.symm {args args' : List (String × Json)} (h : Agree args args') :
    Agree args' args := by
  refine ⟨h.method.symm, ?_⟩
  intro m hm f hf
  have hperm := h.method
  rw [hm] at hperm
  exact (h.fields m (List.perm_singleton.1 hperm) f hf).symm

end Call

/-! ## Messages -/

namespace Message

/-- The members of an object hold a message. -/
def HeldBy (ms : List (String × Json)) (m : Message) : Prop :=
  valuesOf ms "object_path" = [.text m.objectPath] ∧
    ∃ args, valuesOf ms "call" = [.object args] ∧ Call.HeldBy args m.call

theorem among?_eq_some_iff {ms : List (String × Json)} {m : Message} :
    among? ms = some m ↔ HeldBy ms m := by
  have hpath {t : String} :
      Json.Field.among? Part.meaning ⟨"object_path", .address, none⟩ ms = some t ↔
        valuesOf ms "object_path" = [.text t] := by
    rw [Json.Field.among?]
    rcases valuesOf ms "object_path" with _ | ⟨j, _ | ⟨j', js⟩⟩
    · simp
    · rw [List.cons_eq_cons, and_iff_left rfl]
      exact Json.Kind.accepted_eq_some_iff
    · simp
  have hcall {c : Call} :
      Json.Field.among? Part.meaning ⟨"call", .call, none⟩ ms = some c ↔
        ∃ args, valuesOf ms "call" = [.object args] ∧ Call.HeldBy args c := by
    rw [Json.Field.among?]
    rcases valuesOf ms "call" with _ | ⟨j, _ | ⟨j', js⟩⟩
    · simp
    · cases j with
      | object args => simpa [Part.meaning] using Call.among?_eq_some_iff
      | _ => simp [Part.meaning]
    · simp
  have hparts : among? ms =
      (Json.Field.among? Part.meaning ⟨"object_path", .address, none⟩ ms).bind fun path =>
        (Json.Field.among? Part.meaning ⟨"call", .call, none⟩ ms).map fun call => ⟨path, call⟩ := by
    unfold among? fields Values.among?
    cases Json.Field.among? Part.meaning ⟨"object_path", .address, none⟩ ms with
    | none => rfl
    | some path =>
      show Option.map _ (Option.map _ (Option.bind _ _)) = Option.map _ _
      cases Json.Field.among? Part.meaning ⟨"call", .call, none⟩ ms <;> rfl
  rw [HeldBy, ← hpath, ← hcall, hparts]
  constructor
  · intro h
    obtain ⟨path, hpath, h⟩ := Option.bind_eq_some_iff.1 h
    obtain ⟨call, hcall, rfl⟩ := Option.map_eq_some_iff.1 h
    exact ⟨hpath, hcall⟩
  · rintro ⟨hpath, hcall⟩
    rw [hpath, Option.bind_some, hcall]
    rfl

/-- Two objects agree on the address and the call, and the calls agree if there is one each. -/
structure Agree (ms ms' : List (String × Json)) : Prop where
  paths : (valuesOf ms "object_path").Perm (valuesOf ms' "object_path")
  count : (valuesOf ms "call").length = (valuesOf ms' "call").length
  calls : ∀ args args', valuesOf ms "call" = [.object args] →
    valuesOf ms' "call" = [.object args'] → Call.Agree args args'

/-- A document that is posted under a limit: the object of some members, whose calls are objects. -/
structure Posted (limit : Nat) (ms : List (String × Json)) (document : Bytes) : Prop where
  written : Json.Document (.object ms) document
  fits : document.length ≤ limit
  nesting : (Json.object ms).nesting ≤ Json.depthLimit
  calls : ∀ j ∈ valuesOf ms "call", ∃ args, j = .object args

theorem HeldBy.of_agree {ms ms' : List (String × Json)} {m : Message} (h : HeldBy ms m)
    (hagree : Agree ms ms') (hcalls : ∀ j ∈ valuesOf ms' "call", ∃ args, j = .object args) :
    HeldBy ms' m := by
  obtain ⟨hpath, args, hcall, hargs⟩ := h
  have hperm := hagree.paths
  have hcount := hagree.count
  rw [hpath] at hperm
  rw [hcall] at hcount
  obtain ⟨j, hj⟩ := List.length_eq_one_iff.1 hcount.symm
  obtain ⟨args', rfl⟩ := hcalls j (by simp [hj])
  have hargs' := hargs.of_agree (hagree.calls args args' hcall hj)
  exact ⟨(List.singleton_perm.1 hperm).symm, args', hj, hargs'⟩

theorem Agree.symm {ms ms' : List (String × Json)} (h : Agree ms ms') : Agree ms' ms where
  paths := h.paths.symm
  count := h.count.symm
  calls args args' hargs hargs' := (h.calls args' args hargs' hargs).symm

theorem Posted.toOption_decode {limit : Nat} {ms : List (String × Json)} {document : Bytes}
    (h : Posted limit ms document) : (Message.decode limit document).toOption = among? ms :=
  Wire.toOption_decode (reader_means h.nesting h.calls) h.written h.fits

end Message

/-! ## Documents -/

/-- A posted document is accepted as the message that its members hold, if they hold one.  Another
document whose members agree is accepted as the same message, or also refused.  A version in a held
message is written as the digits of a number, without a sign, a point or an exponent. -/
theorem decode_request {limit : Nat} {ms : List (String × Json)} {document : Bytes}
    (h : Message.Posted limit ms document) :
    (∀ m, Message.decode limit document = .ok m ↔ Message.HeldBy ms m) ∧
    (∀ limit' ms' document', Message.Posted limit' ms' document' → Message.Agree ms ms' →
      (Message.decode limit' document').toOption = (Message.decode limit document).toOption) ∧
    ∀ (v : UInt32) (s : Bytes),
      Json.Written (Json.Kind.toJson .version v) s ↔ s = Text.bytes (toString v.toNat) := by
  refine ⟨?_, ?_, ?_⟩
  · intro m
    rw [← Message.among?_eq_some_iff, ← h.toOption_decode]
    cases Message.decode limit document <;> simp [Except.toOption]
  · intro limit' ms' document' h' hagree
    rw [h.toOption_decode, h'.toOption_decode]
    apply Option.ext
    intro m
    rw [Message.among?_eq_some_iff, Message.among?_eq_some_iff]
    exact ⟨fun hm => hm.of_agree hagree.symm h.calls, fun hm => hm.of_agree hagree h'.calls⟩
  · intro v s
    have hlt : v.toNat < UInt64.size := Nat.lt_trans (UInt32.toNat_lt v) (by decide)
    have hdigits : Text.bytes (toString v.toNat) = Text.utf8 (Nat.toDigits 10 v.toNat) := by
      rw [Text.bytes_eq_utf8, Nat.toString_eq_repr, Nat.toList_repr]
    rw [hdigits]
    exact Json.written_natural_iff hlt

/-- A request for version 7 of `m`, with its members out of order and with members that it does not
need: one of another method, and one of no method. -/
def unusualRequest : List (String × Json) :=
  [("comment", .null),
    ("call", .object [("version", .number (.integer 7)), ("force", .text "yes"),
      ("name", .text "m"), ("method", .text "handle-get")]),
    ("object_path", .text modelObjectPath)]

theorem posted_unusualRequest :
    Message.Posted 200 unusualRequest (Text.bytes (Json.object unusualRequest).compact) where
  written := by
    have hversion : Json.Written (.number (.integer 7)) _ := Json.Kind.written_toJson .version 7
    apply Json.document_compact
    apply Json.written_object
    refine List.forall_mem_cons.2 ⟨.null, List.forall_mem_cons.2 ⟨?_,
      List.forall_mem_singleton.2 (Json.written_text _)⟩⟩
    apply Json.written_object
    exact List.forall_mem_cons.2 ⟨hversion, List.forall_mem_cons.2 ⟨Json.written_text _,
      List.forall_mem_cons.2 ⟨Json.written_text _,
        List.forall_mem_singleton.2 (Json.written_text _)⟩⟩⟩
  fits := by decide +kernel
  nesting := by decide
  calls j hj := ⟨_, List.mem_singleton.1 hj⟩

theorem decode_unusualRequest :
    Message.decode 200 (Text.bytes (Json.object unusualRequest).compact) =
      .ok (.toModel (.get "m" 7)) :=
  ((decode_request posted_unusualRequest).1 _).2
    ⟨rfl, _, rfl, rfl, .inl rfl, .inl rfl, trivial⟩

end ModelRegistry
