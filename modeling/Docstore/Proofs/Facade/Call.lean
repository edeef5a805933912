import Docstore.Proofs.Fault.Origin
import Docstore.Proofs.Outcome
import Docstore.Proofs.Run

/-!
# Calls of a facade

The eight operations of a facade as data, so that a statement about all of them can be made once.
A call that asks for documents has one statement, and reads the answer to it either whole or up to
the first document.

* `Facade.perform` — the run of a call.
* `Facade.queryOf`, `Facade.delivered` — the statement of a call, and the documents that answer it.
* `Facade.queryOf_isOwn` — building the statement fails for the facade's own reasons.
-/

namespace Docstore

/-- How much of the answer to a query is read. -/
inductive Extent where
  | all
  /-- The pages up to the first document. -/
  | first
deriving DecidableEq, Repr

/-- An operation of a facade with its arguments. -/
inductive Call where
  | create (model data : Value)
  | findOne (model conditions : Value)
  | findMany (model conditions sortBy limit offset : Value)
  | count (model conditions : Value)
  | update (model conditions changes : Value)
  | updateMany (model conditions changes : Value)
  | delete (model conditions : Value)
  | deleteMany (model conditions : Value)

namespace Call

def model : Call → Value
  | create model _ | findOne model _ | findMany model .. | count model _ | update model ..
  | updateMany model .. | delete model _ | deleteMany model _ => model

/-- The conditions of a call; creations have none. -/
def conditions : Call → Value
  | create .. => .null
  | findOne _ conditions | findMany _ conditions .. | count _ conditions | update _ conditions _
  | updateMany _ conditions _ | delete _ conditions | deleteMany _ conditions => conditions

/-- The sort key of a call; only `findMany` has one. -/
def sortBy : Call → Value
  | findMany _ _ sortBy _ _ => sortBy
  | _ => .null

/-- How much a call reads of what it asks for; creations ask for nothing. -/
def extent? : Call → Option Extent
  | create .. => none
  | findOne .. | update .. | delete .. => some .first
  | findMany .. | count .. | updateMany .. | deleteMany .. => some .all

/-- The new values that a call gives to the documents that it finds. -/
def changes? : Call → Option Value
  | update _ _ changes | updateMany _ _ changes => some changes
  | _ => none

end Call

namespace Facade

/-- The run of a call; what is no document is given as a number. -/
def perform (f : Facade) : Call → Run Value
  | .create model data => f.create model data
  | .findOne model conditions => f.findOne model conditions
  | .findMany model conditions sortBy limit offset => do
    let documents ← f.findMany model conditions sortBy limit offset
    return .list documents
  | .count model conditions => do
    let n ← f.count model conditions
    return .int n
  | .update model conditions changes => f.update model conditions changes
  | .updateMany model conditions changes => do
    let n ← f.updateMany model conditions changes
    return .int n
  | .delete model conditions => do
    let _ ← f.delete model conditions
    return .null
  | .deleteMany model conditions => do
    let n ← f.deleteMany model conditions
    return .int n

/-! ## The statement of a call -/

/-- The window of a call; only `findMany` has one. -/
def windowOf (f : Facade) : Call → Except Failure (Option Window)
  | .findMany _ _ _ limit offset => (f.window limit offset).map some
  | _ => .ok none

/-- The selection of a call. -/
def selectOf (f : Facade) : Call → Except Fault String
  | .count .. => f.selectCount
  | .delete .. | .deleteMany .. => f.selectKeys
  | _ => f.selectAll

/-- The statement of a call that asks for documents. -/
def queryOf (f : Facade) (call : Call) : Except Failure Query := do
  let window ← f.windowOf call
  (f.statement call.model (f.selectOf call) call.conditions call.sortBy
    window).mapError fun e => ⟨e, none⟩

/-- A statement is built from a selection that can be written. -/
theorem statement_eq_ok {f : Facade} {model conditions sortBy : Value}
    {select : Except Fault String} {window : Option Window} {q : Query} :
    f.statement model select conditions sortBy window = .ok q ↔ ∃ selected, select = .ok selected ∧
      Statement.build (f.names model) selected conditions sortBy window = .ok q :=
  bind_eq_ok

/-- How many documents a page should have at most, if that is said. -/
def pageSize (f : Facade) : Call → Option Int
  | .findOne .. | .update .. | .delete .. => some 1
  | .findMany _ _ _ limit offset => match f.window limit offset with
    | .ok w => some w.limit
    | .error _ => none
  | _ => none

/-- The documents that a call finds: all that answer its statement, or the first of them.  Nothing
in the place of the first document means that there is none. -/
def delivered (f : Facade) (c : Container) (call : Call) : Except Failure (List Value) :=
  match call.extent? with
  | none => .ok []
  | some .all => do
    let q ← f.queryOf call
    (c.query q (f.pageSize call)).all.result
  | some .first => do
    let q ← f.queryOf call
    match ← (c.query q (f.pageSize call)).first.result with
    | none | some .null => return []
    | some item => return [item]

section

variable {f : Facade} {c : Container} {call : Call} {q : Query}

theorem delivered_of_queryOf_error {extent : Extent} (hextent : call.extent? = some extent)
    {e : Failure} (h : f.queryOf call = .error e) : f.delivered c call = .error e := by
  unfold delivered
  rw [hextent, h]
  cases extent <;> rfl

theorem delivered_all (hextent : call.extent? = some .all) (hq : f.queryOf call = .ok q) :
    f.delivered c call = (c.query q (f.pageSize call)).all.result := by
  unfold delivered
  rw [hextent, hq]
  rfl

theorem delivered_first (hextent : call.extent? = some .first) (hq : f.queryOf call = .ok q) :
    f.delivered c call = (c.query q (f.pageSize call)).first.result >>= fun found =>
      match found with
      | none | some .null => return []
      | some item => return [item] := by
  unfold delivered
  rw [hextent, hq]
  rfl

section FindMany

variable {model conditions sortBy limit offset : Value} {w : Window}

theorem pageSize_findMany (hw : f.window limit offset = .ok w) :
    f.pageSize (.findMany model conditions sortBy limit offset) = some w.limit := by
  simp [pageSize, hw]

theorem queryOf_findMany (hw : f.window limit offset = .ok w) :
    (⟨f.queryOf (.findMany model conditions sortBy limit offset), []⟩ : Run Query) =
      Run.of (f.statement model f.selectAll conditions sortBy (some w)) := by
  simp [queryOf, windowOf, hw, Except.map, bind, Except.bind, Run.of, Call.model, Call.conditions,
    Call.sortBy, selectOf]

theorem queryOf_findMany_error {e : Failure} (hw : f.window limit offset = .error e) :
    f.queryOf (.findMany model conditions sortBy limit offset) = .error e := by
  simp [queryOf, windowOf, hw, Except.map, bind, Except.bind]

end FindMany

end

/-! ## The facade's own failures -/

/-- What callers supply, the resolver and the partition key, brings in nothing foreign. -/
structure HasOwnParts (f : Facade) : Prop where
  names : f.resolver.GivesOwnNames
  keys : f.planner.TakesOwnKeys

/-- A failure of the facade's own: nothing from outside, provided that what callers supply brings in
nothing from there. -/
def IsOwn (f : Facade) (e : Failure) : Prop :=
  f.HasOwnParts → e.fault.isForeign = false

variable {f : Facade}

/-- A computation fails on the facade's own account, as far as what callers supply does. -/
theorem isOwn_of {α : Type} {x : Except Fault α} (h : f.HasOwnParts → NotForeign x) :
    FailsWith (fun e => f.IsOwn ⟨e, none⟩) x := by
  cases x with
  | error e => exact fun hf => (h hf).of_error rfl
  | ok a => trivial

theorem isOwn_of_failsInside {α : Type} {x : Except Fault α} (h : FailsInside x) :
    FailsWith (fun e => f.IsOwn ⟨e, none⟩) x :=
  isOwn_of fun _ => NotForeign.of_failsInside h

/-- A limit and an offset are put into words exactly if both can be shown. -/
theorem exists_windowMessage_iff {limit offset : Value} :
    (∃ words, windowMessage limit offset = .ok words) ↔
      limit.isWritable = true ∧ offset.isWritable = true := by
  constructor
  · rintro ⟨words, h⟩
    obtain ⟨_, hlimit, h⟩ := bind_eq_ok.mp h
    obtain ⟨_, hoffset, -⟩ := bind_eq_ok.mp h
    exact ⟨(Value.display_eq_ok.mp hlimit).1, (Value.display_eq_ok.mp hoffset).1⟩
  · rintro ⟨hlimit, hoffset⟩
    exact ⟨_, bind_eq_ok.mpr ⟨_, Value.display_eq_ok.mpr ⟨hlimit, rfl⟩,
      bind_eq_ok.mpr ⟨_, Value.display_eq_ok.mpr ⟨hoffset, rfl⟩, rfl⟩⟩⟩

theorem windowMessage_of_not_isWritable {limit offset : Value}
    (h : ¬(limit.isWritable = true ∧ offset.isWritable = true)) :
    windowMessage limit offset = .error (.flawed .tooLongToWrite) := by
  have hfails : ∀ {v : Value}, v.isWritable = false → v.display = .error (.flawed .tooLongToWrite) :=
    fun hv => Value.display_eq_error.mpr ⟨hv, rfl⟩
  unfold windowMessage
  cases hlimit : limit.isWritable with
  | false =>
    rw [hfails hlimit]
    rfl
  | true =>
    have hoffset : offset.isWritable = false := by simpa [hlimit] using h
    rw [Value.display_eq_ok.mpr ⟨hlimit, rfl⟩, hfails hoffset]
    rfl

theorem windowMessage_failsInside (limit offset : Value) :
    FailsInside (windowMessage limit offset) :=
  (Value.display_failsInside limit).bind fun _ _ =>
    (Value.display_failsInside offset).bind fun _ _ => trivial

/-- A limit and an offset are refused, or cannot be shown. -/
theorem windowFailure_not_foreign (limit offset : Value) (violations : List Violation) :
    (windowFailure limit offset violations).fault.isForeign = false := by
  unfold windowFailure
  split
  · rfl
  · rename_i e he
    exact Fault.not_foreign_of_isInternal ((windowMessage_failsInside limit offset).of_error he)

theorem window_isOwn (f : Facade) (limit offset : Value) :
    FailsWith f.IsOwn (f.window limit offset) := by
  unfold window
  dsimp only
  cases Window.ofValues _ _ with
  | error violations => exact fun _ => windowFailure_not_foreign limit offset violations
  | ok w => trivial

theorem selectOf_failsInside (f : Facade) (call : Call) : FailsInside (f.selectOf call) := by
  cases call with
  | count => exact selectCount_failsInside f
  | delete | deleteMany => exact selectKeys_failsInside f
  | _ => exact selectAll_failsInside f

theorem statement_not_foreign (hf : f.HasOwnParts) (call : Call) (window : Option Window) :
    NotForeign (f.statement call.model (f.selectOf call) call.conditions call.sortBy window) :=
  (NotForeign.of_failsInside (selectOf_failsInside f call)).bind fun selected _ =>
    Statement.build_not_foreign (names_giveOwnNames hf.names call.model) selected call.conditions
      call.sortBy window

/-- **Building the statement of a call** fails on the facade's own account. -/
theorem queryOf_isOwn (f : Facade) (call : Call) : FailsWith f.IsOwn (f.queryOf call) := by
  have hwindow : FailsWith f.IsOwn (f.windowOf call) := by
    cases call with
    | findMany model conditions sortBy limit offset =>
      exact (window_isOwn f limit offset).map fun _ _ => trivial
    | _ => trivial
  refine hwindow.bind fun window _ => ?_
  cases hx : f.statement call.model (f.selectOf call) call.conditions call.sortBy window with
  | error e => exact fun hf => (statement_not_foreign hf call window).of_error hx
  | ok q => trivial

end Facade

end Docstore
