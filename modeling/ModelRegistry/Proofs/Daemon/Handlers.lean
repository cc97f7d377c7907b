import Mathlib.Data.List.Nodup
import ModelRegistry.Handlers

/-!
# Handlers and methods

What answers a call is one of the operations of the registry, with the arguments of the call in the
order of the operation.  `Operations.respond` says which one, and how the reply carries what it
returns.  The handlers take calls apart and hand their arguments on by position, so each of them has
to be compared with this (`handler_eq`).

The table puts a handler under each event, and there is one row for each method
(`table_eq_map_row`), whose event no other row has (`exists_table_eq`).
-/

namespace ModelRegistry

variable {σ : Type}

/-! ## Responses -/

/-- The reply that carries an answer: the result with status zero, or none with the code of the
refusal. -/
def Reply.ofAnswer : (c : Call) → Answer c → Reply
  | .register .., .ok v => .version v 0
  | .register .., .error refusal => .version 0 refusal.code
  | .get .., .ok text | .getActive .., .ok text | .getAll .., .ok text => .info text 0
  | .get .., .error refusal | .getActive .., .error refusal | .getAll .., .error refusal =>
    .info "" refusal.code
  | .describe .., .ok () | .activate .., .ok () | .delete .., .ok () | .setPipeline .., .ok ()
  | .addResource .., .ok () => .status 0
  | .describe .., .error refusal | .activate .., .error refusal | .delete .., .error refusal
  | .setPipeline .., .error refusal | .addResource .., .error refusal => .status refusal.code

theorem Reply.ofAnswer_eq (c : Call) (answer : Answer c) :
    ofAnswer c answer = match c, answer with
      | .register .., a => ofVersion a
      | .get .., a | .getActive .., a | .getAll .., a => ofInfo a
      | .describe .., a | .activate .., a | .delete .., a | .setPipeline .., a
      | .addResource .., a => ofDone a := by
  cases c <;> cases answer <;> rfl

namespace Operations

/-- The reply to a call and the state that it leaves: one operation is carried out, and what it
returns goes into the reply. -/
def respond (ops : Operations σ) : Call → σ → Reply × σ
  | .register name path active description appInfo, s =>
    (ops.addModel name path active description appInfo s).map .ofVersion id
  | .describe name version description, s =>
    (ops.updateModelDescription name version description s).map .ofDone id
  | .activate name version, s => (ops.activateModel name version s).map .ofDone id
  | .get name version, s => (ops.getModel name version s).map .ofInfo id
  | .getActive name, s => (ops.getActivatedModel name s).map .ofInfo id
  | .getAll name, s => (ops.getAllModels name s).map .ofInfo id
  | .delete name version force, s => (ops.deleteModel name version force s).map .ofDone id
  | .setPipeline name description, s =>
    (ops.setPipelineDescription name description s).map .ofDone id
  | .addResource name path description appInfo, s =>
    (ops.addResource name path description appInfo s).map .ofDone id

/-- What the backend of some operations answers is the response of these operations. -/
theorem respond_eq (ops : Operations σ) (c : Call) (s : σ) :
    ops.respond c s = (.ofAnswer c (ops.backend c s).1, (ops.backend c s).2) := by
  rw [Reply.ofAnswer_eq]
  cases c <;> rfl

end Operations

namespace Handlers

/-- The handler of a method. -/
def handler (ops : Operations σ) : Method → Handler σ
  | .register => register ops
  | .describe => describe ops
  | .activate => activate ops
  | .get => get ops
  | .getActive => getActive ops
  | .getAll => getAll ops
  | .delete => delete ops
  | .setPipeline => setPipeline ops
  | .addResource => addResource ops

/-- The handler of a method responds to the calls of this method and to no others. -/
theorem handler_eq (ops : Operations σ) (m : Method) (c : Call) (s : σ) :
    handler ops m c s = if c.method = m then ops.respond c s else (mismatched c, s) := by
  cases m <;> cases c <;> rfl

/-- What the backend answers to a call is the reply of its handler. -/
theorem handler_apply (backend : Backend σ) (c : Call) (s : σ) :
    handler (.of backend) c.method c s = (.ofAnswer c (backend c s).1, (backend c s).2) := by
  rw [handler_eq, if_pos rfl, Operations.respond_eq, Operations.backend_of]

/-! ## The table -/

/-- The row of a method. -/
def row (m : Method) : Row σ := ⟨m.event, fun ops => handler ops m⟩

theorem table_eq_map_row : (table : List (Row σ)) = Method.all.map row := rfl

theorem mem_table_iff {r : Row σ} : r ∈ table ↔ ∃ m, row m = r := by
  rw [table_eq_map_row, List.mem_map]
  exact exists_congr fun m => and_iff_right m.mem_all

theorem events_table : (table : List (Row σ)).map Row.event = Method.all.map Method.event := rfl

theorem nodup_events_table : ((table : List (Row σ)).map Row.event).Nodup := by
  rw [events_table]
  decide

/-- No other row has the event of a method. -/
theorem exists_table_eq (m : Method) :
    ∃ earlier later, (table : List (Row σ)) = earlier ++ row m :: later ∧
      ∀ other ∈ earlier ++ later, other.event ≠ m.event := by
  have hmem : row m ∈ (table : List (Row σ)) := mem_table_iff.2 ⟨m, rfl⟩
  obtain ⟨earlier, later, hsplit⟩ := List.append_of_mem hmem
  have hnodup := @nodup_events_table σ
  rw [hsplit, List.map_append, List.map_cons, List.nodup_middle, ← List.map_append] at hnodup
  refine ⟨earlier, later, hsplit, fun other hother heq => ?_⟩
  exact (List.nodup_cons.1 hnodup).1 (List.mem_map.2 ⟨other, hother, heq⟩)

end Handlers
end ModelRegistry
