import Docstore.Proofs.Bulk.Planning
import Docstore.Proofs.Facade.Conduct

/-!
# What a call does to a store

A call makes one query at most and then one write at most, and it writes only when everything is
ready: the documents have been delivered, and what to write has been worked out for all of them.
Whatever stands in the way before that ends the call without a write.

* `Call.steps`, `Call.Keeps` — the order of the store calls of a call.
* `Facade.Prepares` — when a call is ready to write, and what.
* `Facade.Obstructed` — what stands in the way of a write.
* `Facade.Prepares.unique`, `Facade.Prepares.not_obstructed` — there is one write to be made, and
  nothing stands in its way.
* `Facade.fetchAll_meets`, `Facade.fetchFirst_meets` — the part that the operations which ask for
  documents have in common.
* `Facade.perform_meets` — the store calls of every operation.
* `Facade.writes_only_when_prepared` — the store calls of every call, whatever the store does.
-/

namespace Docstore

variable {α β : Type}

/-! ## The order of store calls -/

/-- The kinds of store calls; a batch has a kind of write. -/
inductive StoreStep where
  | create
  | query
  | replace
  | delete
  | batch (kind : WriteKind)

/-- Whether a store call is of a kind.  A batch is not empty, and all of its operations are of its
kind. -/
def StoreCall.Is : StoreCall → StoreStep → Prop
  | create _, .create | query .., .query | replace .., .replace | delete .., .delete => True
  | bulk operations, .batch kind => operations ≠ [] ∧ ∀ o ∈ operations, o.kind = kind
  | _, _ => False

namespace Call

/-- The store calls that a call makes at most. -/
def steps : Call → List StoreStep
  | create .. => [.create]
  | findOne .. | findMany .. | count .. => [.query]
  | update .. => [.query, .replace]
  | updateMany .. => [.query, .batch .replace]
  | delete .. => [.query, .delete]
  | deleteMany .. => [.query, .batch .delete]

/-- Store calls follow the steps of a call, and may stop early. -/
def Keeps (call : Call) (calls : List StoreCall) : Prop :=
  ∃ steps, steps <+: call.steps ∧ List.Forall₂ StoreCall.Is calls steps

theorem keeps_nil (call : Call) : call.Keeps [] :=
  ⟨[], List.nil_prefix, .nil⟩

theorem keeps_query {call : Call} {extent : Extent} (h : call.extent? = some extent) (q : Query)
    (maxItems : Option Int) : call.Keeps [.query q maxItems extent] := by
  refine ⟨[.query], ?_, .cons trivial .nil⟩
  cases call with
  | create => cases h
  | findOne | findMany | count => exact List.prefix_refl _
  | update => exact ⟨[.replace], rfl⟩
  | updateMany => exact ⟨[.batch .replace], rfl⟩
  | delete => exact ⟨[.delete], rfl⟩
  | deleteMany => exact ⟨[.batch .delete], rfl⟩

/-- A query and a write are all that a call does to a store. -/
theorem keeps_query_write {call : Call} (step : StoreStep) (h : call.steps = [.query, step])
    (q : Query) (maxItems : Option Int) (extent : Extent) {w : StoreCall} (hw : w.Is step) :
    call.Keeps [.query q maxItems extent, w] :=
  ⟨[.query, step], h ▸ List.prefix_refl _, .cons trivial (.cons hw .nil)⟩

end Call

namespace Facade

/-! ## When a call writes -/

/-- A call is ready for a write: the documents that it asked for have been delivered, and what to
write is known for all of them. -/
inductive Prepares (f : Facade) (c : Container) : Call → StoreCall → Prop
  | create {model data body : Value} (hbody : f.resolveData model data = .ok body) :
      Prepares f c (.create model data) (.create body)
  /-- The replacement has the identifier of the document and the partition key of the changed
  one. -/
  | update {model conditions changes item mutation key partition : Value}
      {fields : List (Value × Value)} {changed : Bool}
      (hdocuments : f.delivered c (.update model conditions changes) = .ok [item])
      (hdata : f.resolveData model changes = .ok mutation)
      (happly : Mutation.apply item mutation = .ok (fields, changed))
      (hkey : f.planner.documentKeyOf item = .ok key)
      (hpartition : f.planner.partitionKeyOf (.dict fields) = .ok partition) :
      Prepares f c (.update model conditions changes) (.replace key partition (.dict fields))
  /-- There is a batch only if the mutation changes a document. -/
  | updateMany {model conditions changes mutation : Value} {documents : List Value}
      {operations : List Operation}
      (hdocuments : f.delivered c (.updateMany model conditions changes) = .ok documents)
      (hdata : f.resolveData model changes = .ok mutation)
      (hchanged : ∃ d ∈ documents, ∃ fields, Mutation.apply d mutation = .ok (fields, true))
      (hplan : f.planner.replacements mutation documents = .ok operations) :
      Prepares f c (.updateMany model conditions changes) (.bulk operations)
  | delete {model conditions item key partition : Value}
      (hdocuments : f.delivered c (.delete model conditions) = .ok [item])
      (hkey : f.planner.documentKeyOf item = .ok key)
      (hpartition : f.planner.partitionKeyOf item = .ok partition) :
      Prepares f c (.delete model conditions) (.delete key partition)
  | deleteMany {model conditions : Value} {documents : List Value} {operations : List Operation}
      (hdocuments : f.delivered c (.deleteMany model conditions) = .ok documents)
      (hsome : documents ≠ [])
      (hplan : f.planner.deletions documents = .ok operations) :
      Prepares f c (.deleteMany model conditions) (.bulk operations)

/-- Something stands in the way of a call. -/
inductive Obstructed (f : Facade) (c : Container) : Call → Prop
  /-- The data of a creation have no store form. -/
  | data {model data : Value} {e : Fault} (h : f.resolveData model data = .error e) :
      Obstructed f c (.create model data)
  /-- The statement cannot be built, or a page that is asked for does not come. -/
  | query {call : Call} {e : Failure} (h : f.delivered c call = .error e) : Obstructed f c call
  /-- There are documents, and the new values have no store form. -/
  | changes {call : Call} {changes d : Value} {rest : List Value} {e : Fault}
      (hcall : call.changes? = some changes) (hdocuments : f.delivered c call = .ok (d :: rest))
      (h : f.resolveData call.model changes = .error e) : Obstructed f c call
  /-- The new values cannot be given to one of the documents. -/
  | mutation {call : Call} {changes mutation d : Value} {documents : List Value} {e : Fault}
      (hcall : call.changes? = some changes) (hdocuments : f.delivered c call = .ok documents)
      (hdata : f.resolveData call.model changes = .ok mutation) (hd : d ∈ documents)
      (h : Mutation.apply d mutation = .error e) : Obstructed f c call
  /-- The document has no identifier, or the changed one no partition key. -/
  | update {model conditions changes mutation item : Value} {fields : List (Value × Value)}
      {changed : Bool} (hdocuments : f.delivered c (.update model conditions changes) = .ok [item])
      (hdata : f.resolveData model changes = .ok mutation)
      (happly : Mutation.apply item mutation = .ok (fields, changed))
      (h : (∃ e, f.planner.documentKeyOf item = .error e) ∨
        ∃ e, f.planner.partitionKeyOf (.dict fields) = .error e) :
      Obstructed f c (.update model conditions changes)
  /-- One of the changed documents has no identifier or no partition key. -/
  | updateMany {model conditions changes mutation d : Value} {documents : List Value}
      {fields : List (Value × Value)}
      (hdocuments : f.delivered c (.updateMany model conditions changes) = .ok documents)
      (hdata : f.resolveData model changes = .ok mutation) (hd : d ∈ documents)
      (happly : Mutation.apply d mutation = .ok (fields, true))
      (h : f.planner.Unkeyed (.dict fields)) : Obstructed f c (.updateMany model conditions changes)
  /-- The document has no identifier or no partition key. -/
  | delete {model conditions item : Value}
      (hdocuments : f.delivered c (.delete model conditions) = .ok [item])
      (h : f.planner.Unkeyed item) : Obstructed f c (.delete model conditions)
  /-- One of the documents has no identifier or no partition key. -/
  | deleteMany {model conditions d : Value} {documents : List Value}
      (hdocuments : f.delivered c (.deleteMany model conditions) = .ok documents)
      (hd : d ∈ documents) (h : f.planner.Unkeyed d) : Obstructed f c (.deleteMany model conditions)

variable {f : Facade} {c : Container} {call : Call} {w : StoreCall}

/-- There is one write that a call is ready for. -/
theorem Prepares.unique {w' : StoreCall} (h : Prepares f c call w) (h' : Prepares f c call w') :
    w = w' := by
  cases h <;> cases h' <;> simp_all

/-- Nothing stands in the way of an update of documents whose replacements are planned. -/
theorem not_obstructed_of_replacements {model conditions changes mutation : Value}
    {documents : List Value} {operations : List Operation}
    (hdocuments : f.delivered c (.updateMany model conditions changes) = .ok documents)
    (hdata : f.resolveData model changes = .ok mutation)
    (hplan : f.planner.replacements mutation documents = .ok operations) :
    ¬Obstructed f c (.updateMany model conditions changes) := by
  have hplanned : ¬∃ e, f.planner.replacements mutation documents = .error e := by simp [hplan]
  rw [Planner.replacements_eq_error_iff] at hplanned
  intro ho
  cases ho with
  | query h => cases hdocuments.symm.trans h
  | changes hcall _ h =>
    cases hcall
    cases hdata.symm.trans h
  | mutation hcall hdocuments' hdata' hd h =>
    cases hcall
    cases hdocuments.symm.trans hdocuments'
    cases hdata.symm.trans hdata'
    exact hplanned ⟨_, hd, .inl ⟨_, h⟩⟩
  | updateMany hdocuments' hdata' hd happly h =>
    cases hdocuments.symm.trans hdocuments'
    cases hdata.symm.trans hdata'
    exact hplanned ⟨_, hd, .inr ⟨_, happly, h⟩⟩

/-- Nothing stands in the way of a call that is ready for a write. -/
theorem Prepares.not_obstructed (h : Prepares f c call w) : ¬Obstructed f c call := by
  intro ho
  cases h with
  | create hbody =>
    cases ho with
    | data h => cases hbody.symm.trans h
    | query h => cases h
    | changes hcall => cases hcall
    | mutation hcall => cases hcall
  | update hdocuments hdata happly hkey hpartition =>
    cases ho with
    | query h => cases hdocuments.symm.trans h
    | changes hcall _ h =>
      cases hcall
      cases hdata.symm.trans h
    | mutation hcall hdocuments' hdata' hd h =>
      cases hcall
      cases hdocuments.symm.trans hdocuments'
      cases hdata.symm.trans hdata'
      cases List.mem_singleton.mp hd
      cases happly.symm.trans h
    | update hdocuments' hdata' happly' h =>
      cases hdocuments.symm.trans hdocuments'
      cases hdata.symm.trans hdata'
      cases happly.symm.trans happly'
      rcases h with ⟨e, h⟩ | ⟨e, h⟩
      · cases hkey.symm.trans h
      · cases hpartition.symm.trans h
  | updateMany hdocuments hdata hchanged hplan =>
    exact not_obstructed_of_replacements hdocuments hdata hplan ho
  | delete hdocuments hkey hpartition =>
    cases ho with
    | query h => cases hdocuments.symm.trans h
    | changes hcall => cases hcall
    | mutation hcall => cases hcall
    | delete hdocuments' h =>
      cases hdocuments.symm.trans hdocuments'
      exact Planner.not_unkeyed hkey hpartition h
  | @deleteMany _ _ documents _ hdocuments hsome hplan =>
    have hplanned : ¬∃ e, f.planner.deletions documents = .error e := by simp [hplan]
    rw [Planner.deletions_eq_error_iff] at hplanned
    cases ho with
    | query h => cases hdocuments.symm.trans h
    | changes hcall => cases hcall
    | mutation hcall => cases hcall
    | deleteMany hdocuments' hd h =>
      cases hdocuments.symm.trans hdocuments'
      exact hplanned ⟨_, hd, h⟩

/-! ## The store calls of each operation -/

/-- What a call does to a store, and whether it fails: its store calls keep to their order, it makes
a write exactly if it is ready for it, and it fails if something stands in its way. -/
structure Effects (f : Facade) (c : Container) (call : Call) (calls : List StoreCall)
    (out : Except Failure α) : Prop where
  order : call.Keeps calls
  writes : ∀ w, w.isWrite = true → (w ∈ calls ↔ Prepares f c call w)
  fails : Obstructed f c call → ∃ e, out = .error e

namespace Effects

variable {calls : List StoreCall} {out : Except Failure α} {e : Failure} {extent : Extent}
  {q : Query} {maxItems : Option Int}

/-- A call that something stands in the way of fails without a write. -/
theorem of_obstructed (h : Obstructed f c call) (horder : call.Keeps calls)
    (hreads : ∀ s ∈ calls, s.isWrite = false) :
    Effects f c call calls (.error e : Except Failure α) := by
  refine ⟨horder, fun w hw => ?_, fun _ => ⟨e, rfl⟩⟩
  constructor
  · intro hmem
    cases (hreads w hmem).symm.trans hw
  · exact fun hprepares => absurd h hprepares.not_obstructed

theorem obstructed_before_query (h : Obstructed f c call) :
    Effects f c call [] (.error e : Except Failure α) :=
  of_obstructed h (Call.keeps_nil call) (by simp)

theorem obstructed_after_query (hextent : call.extent? = some extent) (h : Obstructed f c call) :
    Effects f c call [.query q maxItems extent] (.error e : Except Failure α) :=
  of_obstructed h (Call.keeps_query hextent q maxItems) (by simp [StoreCall.isWrite])

/-- A call that is ready for a write makes it, as the last of its store calls. -/
theorem of_prepares (reads : List StoreCall) (h : Prepares f c call w)
    (horder : call.Keeps (reads ++ [w])) (hreads : ∀ s ∈ reads, s.isWrite = false) :
    Effects f c call (reads ++ [w]) out := by
  refine ⟨horder, fun w' hw' => ?_, fun ho => absurd ho h.not_obstructed⟩
  constructor
  · intro hmem
    rcases List.mem_append.mp hmem with hmem | hmem
    · cases (hreads w' hmem).symm.trans hw'
    · cases List.mem_singleton.mp hmem
      exact h
  · intro h'
    rw [h.unique h']
    exact List.mem_append_right _ (List.mem_singleton_self _)

theorem prepared_after_query (step : StoreStep) (hsteps : call.steps = [.query, step])
    (hw : w.Is step) (h : Prepares f c call w) :
    Effects f c call [.query q maxItems extent, w] out :=
  of_prepares [_] h (Call.keeps_query_write step hsteps q maxItems extent hw)
    (by simp [StoreCall.isWrite])

/-- A call that nothing stands in the way of need not write. -/
theorem unprepared_after_query (hextent : call.extent? = some extent)
    (hnone : ∀ w, ¬Prepares f c call w) (hfree : ¬Obstructed f c call) :
    Effects f c call [.query q maxItems extent] out := by
  refine ⟨Call.keeps_query hextent q maxItems, fun w hw => ?_, fun h => absurd h hfree⟩
  constructor
  · intro hmem
    cases List.mem_singleton.mp hmem
    cases hw
  · exact fun hprepares => absurd hprepares (hnone w)

/-- A call that only reads, and gets its answer. -/
theorem of_reads {documents : List Value} (hextent : call.extent? = some extent)
    (hsteps : call.steps = [.query]) (hdocuments : f.delivered c call = .ok documents) :
    Effects f c call [.query q maxItems extent] out := by
  refine unprepared_after_query hextent ?_ ?_
  · intro w h
    cases h <;> cases hsteps
  · intro ho
    cases ho with
    | query h => cases hdocuments.symm.trans h
    | changes hcall | mutation hcall =>
      cases call with
      | update | updateMany => cases hsteps
      | _ => cases hcall
    | _ => cases hsteps

/-- A call that finds no document. -/
theorem of_nothing (hextent : call.extent? = some extent)
    (hdocuments : f.delivered c call = .ok []) :
    Effects f c call [.query q maxItems extent] out := by
  refine unprepared_after_query hextent ?_ ?_
  · intro w h
    cases h with
    | create => cases hextent
    | update h | delete h => cases hdocuments.symm.trans h
    | updateMany h _ hchanged =>
      cases hdocuments.symm.trans h
      obtain ⟨d, hd, -⟩ := hchanged
      cases hd
    | deleteMany h hsome =>
      cases hdocuments.symm.trans h
      exact hsome rfl
  · intro ho
    cases ho with
    | data => cases hextent
    | query h | changes _ h | update h | delete h => cases hdocuments.symm.trans h
    | mutation _ h _ hd | updateMany h _ hd | deleteMany h hd =>
      cases hdocuments.symm.trans h
      cases hd

/-- A call whose new values change no document. -/
theorem of_unchanged {model conditions changes mutation : Value} {documents : List Value}
    (hdocuments : f.delivered c (.updateMany model conditions changes) = .ok documents)
    (hdata : f.resolveData model changes = .ok mutation)
    (hplan : f.planner.replacements mutation documents = .ok []) :
    Effects f c (.updateMany model conditions changes) [.query q maxItems .all] out := by
  have hunchanged := (Planner.replacements_spec hplan).2.not.mp (by simp)
  refine unprepared_after_query rfl ?_ (not_obstructed_of_replacements hdocuments hdata hplan)
  intro w h
  cases h with
  | updateMany h hdata' hchanged =>
    cases hdocuments.symm.trans h
    cases hdata.symm.trans hdata'
    exact hunchanged hchanged

theorem map {k : α → β} (h : Effects f c call calls out) : Effects f c call calls (out.map k) := by
  refine ⟨h.order, h.writes, fun ho => ?_⟩
  obtain ⟨e, rfl⟩ := h.fails ho
  exact ⟨e, rfl⟩

end Effects

section Queries

/-! A call that asks for documents builds its statement and reads the answer.  Where that fails the
call is obstructed, so what is left to show of an operation starts with the documents. -/

variable {x : Run Query} {maxItems : Option Int}

theorem fetchAll_meets (call : Call) (hextent : call.extent? = some .all)
    (hx : x = ⟨f.queryOf call, []⟩) (hsize : f.pageSize call = maxItems) {g : List Value → Run α}
    (h : ∀ q documents, f.delivered c call = .ok documents →
      Meets f.IsOwn c (fun calls out => Effects f c call (.query q maxItems .all :: calls) out)
        (g documents)) :
    Meets f.IsOwn c (Effects f c call) (do
      let q ← x
      let documents ← fetchAll c q maxItems
      g documents) := by
  refine Meets.select call hextent hx ?_ fun q hq => ?_
  · exact fun e he => .obstructed_before_query (.query he)
  · refine Meets.fetchAll call hextent hq hsize ?_ (h q)
    exact fun e he => .obstructed_after_query hextent (.query he)

theorem fetchFirst_meets (call : Call) (hextent : call.extent? = some .first)
    (hx : x = ⟨f.queryOf call, []⟩) (hsize : f.pageSize call = some 1) {g : Value → Run α}
    (hnone : ∀ q, f.delivered c call = .ok [] →
      Meets f.IsOwn c (fun calls out => Effects f c call (.query q (some 1) .first :: calls) out)
        (g .null))
    (hsome : ∀ q item, item ≠ .null → f.delivered c call = .ok [item] →
      Meets f.IsOwn c (fun calls out => Effects f c call (.query q (some 1) .first :: calls) out)
        (g item)) :
    Meets f.IsOwn c (Effects f c call) (do
      let q ← x
      let found ← fetchFirst c q
      g found) := by
  refine Meets.select call hextent hx ?_ fun q hq => ?_
  · exact fun e he => .obstructed_before_query (.query he)
  · refine Meets.fetchFirst call hextent hq hsize ?_ (hnone q) (hsome q)
    exact fun e he => .obstructed_after_query hextent (.query he)

end Queries

/-- A batch that is not empty is submitted, and its statuses are tallied. -/
theorem submit_meets {operations : List Operation} (hsome : operations ≠ [])
    {Q : List StoreCall → Except Failure Nat → Prop} (h : ∀ out, Q [.bulk operations] out) :
    Meets f.IsOwn c Q (do
      let tally ← submit c operations
      return tally.successCount) := by
  cases operations with
  | nil => exact absurd rfl hsome
  | cons o rest =>
    unfold submit
    rw [Run.andThen_assoc]
    refine Meets.step (Run.isLocal_log ..) (fun e he => by cases he) fun _ _ => ?_
    rw [Run.andThen_assoc]
    refine Meets.ask (.bulk (o :: rest)) (StoreCall.run_bulk _) (fun _ _ => h _) fun statuses _ => ?_
    have htally := Tally.reduce_isLocal (o :: rest) statuses
    have hown : (Tally.reduce (o :: rest) statuses).IsLocal f.IsOwn :=
      ⟨htally.logs, htally.fails.mono (fun _ he _ => Fault.not_foreign_of_isInternal he)
        fun _ _ => trivial⟩
    exact Meets.step hown (fun _ _ => h _) fun _ _ => Meets.done (h _)

section Operations

variable {model conditions : Value} (hc : f.registry.resolve model = .ok c)
include hc

theorem create_meets (data : Value) :
    Meets f.IsOwn c (Effects f c (.create model data)) (f.create model data) := by
  refine Meets.found hc ?_
  refine Meets.compute (isOwn_of fun hf => resolveData_not_foreign hf.names model data) ?_ ?_
  · exact fun e he => .obstructed_before_query (.data he)
  · intro body hbody
    have hcreates : ∀ out : Except Failure Value,
        Effects f c (.create model data) [.create body] out := fun _ =>
      .of_prepares [] (.create hbody) ⟨[.create], List.prefix_refl _, .cons trivial .nil⟩ (by simp)
    refine Meets.ask (.create body) (StoreCall.run_create body) (fun _ _ => hcreates _) fun created _ => ?_
    split
    · exact Meets.done (hcreates _)
    · exact Meets.last (Run.isLocal_of_outcome fun _ => rfl) (hcreates _)

theorem findOne_meets : Meets f.IsOwn c (Effects f c (.findOne model conditions))
    (f.findOne model conditions) := by
  refine Meets.found hc ?_
  rw [← bind_pure (_ >>= _), bind_assoc]
  refine fetchFirst_meets (.findOne model conditions) rfl rfl rfl ?_ ?_
  · exact fun _ hdocuments => Meets.done (.of_reads rfl rfl hdocuments)
  · exact fun _ _ _ hdocuments => Meets.done (.of_reads rfl rfl hdocuments)

theorem findMany_meets (sortBy limit offset : Value) :
    Meets f.IsOwn c (Effects f c (.findMany model conditions sortBy limit offset))
      (f.findMany model conditions sortBy limit offset) := by
  refine Meets.found hc ?_
  cases hw : f.window limit offset with
  | error e =>
    have hquery : f.queryOf (.findMany model conditions sortBy limit offset) = .error e :=
      queryOf_findMany_error hw
    have hdocuments := delivered_of_queryOf_error (c := c) rfl hquery
    refine Meets.last (Run.isLocal_of_outcome ?_) (.obstructed_before_query (.query hdocuments))
    exact (f.window_isOwn limit offset).of_error hw
  | ok w =>
    refine Meets.step (Run.isLocal_pure w) (fun e he => by cases he) fun a ha => ?_
    cases ha
    rw [← bind_pure (Run.of _ >>= _), bind_assoc]
    refine fetchAll_meets (.findMany model conditions sortBy limit offset) rfl
      (queryOf_findMany hw).symm (pageSize_findMany hw) ?_
    exact fun _ documents hdocuments => Meets.done (.of_reads rfl rfl hdocuments)

theorem count_meets : Meets f.IsOwn c (Effects f c (.count model conditions))
    (f.count model conditions) := by
  refine Meets.found hc ?_
  refine fetchAll_meets (.count model conditions) rfl rfl rfl fun q documents hdocuments => ?_
  split
  · exact Meets.done (.of_reads rfl rfl hdocuments)
  · exact Meets.last (Run.isLocal_of (isOwn_of_failsInside (Value.toInt_failsInside _)))
      (.of_reads rfl rfl hdocuments)

theorem update_meets (changes : Value) :
    Meets f.IsOwn c (Effects f c (.update model conditions changes))
      (f.update model conditions changes) := by
  refine Meets.found hc ?_
  refine fetchFirst_meets (.update model conditions changes) rfl rfl rfl ?_ ?_
  · exact fun _ hdocuments => Meets.done (.of_nothing rfl hdocuments)
  intro q item hitem hdocuments
  split
  · exact absurd rfl hitem
  refine Meets.compute (isOwn_of fun hf => resolveData_not_foreign hf.names model changes) ?_ ?_
  · exact fun e he => .obstructed_after_query rfl (.changes rfl hdocuments he)
  intro mutation hdata
  refine Meets.compute (isOwn_of_failsInside (Mutation.apply_failsInside item mutation)) ?_ ?_
  · exact fun e he => .obstructed_after_query rfl
      (.mutation rfl hdocuments hdata (List.mem_singleton_self _) he)
  rintro ⟨fields, changed⟩ happly
  dsimp only
  -- the keys are taken within the boundary, before the store is asked
  rw [Run.guarded_bind, Run.andThen_assoc]
  refine Meets.computeGuarded .update ?_ fun key hkey => ?_
  · exact fun e he =>
      .obstructed_after_query rfl (.update hdocuments hdata happly (.inl ⟨e, he⟩))
  rw [Run.guarded_bind, Run.andThen_assoc]
  refine Meets.computeGuarded .update ?_ fun partition hpartition => ?_
  · exact fun e he =>
      .obstructed_after_query rfl (.update hdocuments hdata happly (.inr ⟨e, he⟩))
  have hwrites : ∀ out : Except Failure Value, Effects f c (.update model conditions changes)
      [.query q (some 1) .first, .replace key partition (.dict fields)] out := fun _ =>
    .prepared_after_query .replace rfl trivial (.update hdocuments hdata happly hkey hpartition)
  exact Meets.ask (.replace key partition (.dict fields)) (StoreCall.run_replace ..)
    (fun _ _ => hwrites _) fun _ _ =>
    Meets.done (hwrites _)

theorem delete_meets : Meets f.IsOwn c (Effects f c (.delete model conditions))
    (f.delete model conditions) := by
  refine Meets.found hc ?_
  refine fetchFirst_meets (.delete model conditions) rfl rfl rfl ?_ ?_
  · exact fun _ hdocuments => Meets.done (.of_nothing rfl hdocuments)
  intro q item hitem hdocuments
  split
  · exact absurd rfl hitem
  rw [Run.guarded_bind]
  refine Meets.computeGuarded .delete ?_ fun key hkey => ?_
  · exact fun e he => .obstructed_after_query rfl (.delete hdocuments (.inl ⟨e, he⟩))
  rw [Run.guarded_bind]
  refine Meets.computeGuarded .delete ?_ fun partition hpartition => ?_
  · exact fun e he => .obstructed_after_query rfl (.delete hdocuments (.inr ⟨e, he⟩))
  have hwrites : ∀ out : Except Failure Unit, Effects f c (.delete model conditions)
      [.query q (some 1) .first, .delete key partition] out := fun _ =>
    .prepared_after_query .delete rfl trivial (.delete hdocuments hkey hpartition)
  rw [← bind_pure ((c.deleteItem key partition).guarded .delete)]
  exact Meets.ask (.delete key partition) (StoreCall.run_delete ..) (fun _ _ => hwrites _) fun _ _ =>
    Meets.done (hwrites _)

theorem updateMany_meets (changes : Value) :
    Meets f.IsOwn c (Effects f c (.updateMany model conditions changes))
      (f.updateMany model conditions changes) := by
  refine Meets.found hc ?_
  refine fetchAll_meets (.updateMany model conditions changes) rfl rfl rfl ?_
  intro q documents hdocuments
  cases documents with
  | nil => exact Meets.done (.of_nothing rfl hdocuments)
  | cons d rest =>
    rw [if_neg (by simp)]
    refine Meets.compute (isOwn_of fun hf => resolveData_not_foreign hf.names model changes) ?_ ?_
    · exact fun e he => .obstructed_after_query rfl (.changes rfl hdocuments he)
    intro mutation hdata
    refine Meets.compute (isOwn_of fun hf =>
      Planner.replacements_not_foreign hf.keys mutation (d :: rest)) ?_ ?_
    · intro e he
      obtain ⟨d', hd', h⟩ := Planner.replacements_eq_error_iff.mp ⟨e, he⟩
      refine .obstructed_after_query rfl ?_
      rcases h with ⟨e, h⟩ | ⟨fields, happly, hkeys⟩
      · exact .mutation rfl hdocuments hdata hd' h
      · exact .updateMany hdocuments hdata hd' happly hkeys
    · intro operations hplan
      obtain ⟨hkinds, hchanged⟩ := Planner.replacements_spec hplan
      by_cases hsome : operations = []
      · subst hsome
        exact Meets.done (.of_unchanged hdocuments hdata hplan)
      · refine submit_meets hsome fun _ => ?_
        exact .prepared_after_query (.batch .replace) rfl ⟨hsome, hkinds⟩
          (.updateMany hdocuments hdata (hchanged.mp hsome) hplan)

theorem deleteMany_meets : Meets f.IsOwn c (Effects f c (.deleteMany model conditions))
    (f.deleteMany model conditions) := by
  refine Meets.found hc ?_
  refine fetchAll_meets (.deleteMany model conditions) rfl rfl rfl ?_
  intro q documents hdocuments
  cases documents with
  | nil => exact Meets.done (.of_nothing rfl hdocuments)
  | cons d rest =>
    rw [if_neg (by simp)]
    refine Meets.compute (isOwn_of fun hf =>
      Planner.deletions_not_foreign hf.keys (d :: rest)) ?_ ?_
    · intro e he
      obtain ⟨d', hd', hkeys⟩ := Planner.deletions_eq_error_iff.mp ⟨e, he⟩
      exact .obstructed_after_query rfl (.deleteMany hdocuments hd' hkeys)
    · intro operations hplan
      obtain ⟨hlength, hkinds⟩ := Planner.deletions_spec hplan
      have hsome : operations ≠ [] := List.length_pos_iff.mp (by simp [hlength])
      refine submit_meets hsome fun _ => ?_
      exact .prepared_after_query (.batch .delete) rfl ⟨hsome, hkinds⟩
        (.deleteMany hdocuments (by simp) hplan)

end Operations

/-- A call of a model without a container ends there. -/
theorem perform_of_unresolved (call : Call) (e : Fault)
    (he : f.registry.resolve call.model = .error e) : f.perform call = ⟨.error ⟨e, none⟩, []⟩ := by
  have hcontainer : f.container call.model = ⟨.error ⟨e, none⟩, []⟩ := by
    rw [container, he]
    rfl
  cases call with
  | create | findOne | update | delete =>
    dsimp only [Call.model] at hcontainer
    simp only [perform, create, findOne, update, delete, hcontainer, Run.bind_error]
  | findMany | count | updateMany | deleteMany =>
    dsimp only [Call.model] at hcontainer
    simp only [perform, findMany, count, updateMany, deleteMany, hcontainer, Run.bind_error]

/-- **The store calls of every operation.** -/
theorem perform_meets (call : Call) (hc : f.registry.resolve call.model = .ok c) :
    Meets f.IsOwn c (Effects f c call) (f.perform call) := by
  cases call with
  | create model data => exact create_meets hc data
  | findOne model conditions => exact findOne_meets hc
  | findMany model conditions sortBy limit offset =>
    exact (findMany_meets hc sortBy limit offset).mapped _ fun _ _ h => h.map
  | count model conditions => exact (count_meets hc).mapped _ fun _ _ h => h.map
  | update model conditions changes => exact update_meets hc changes
  | updateMany model conditions changes =>
    exact (updateMany_meets hc changes).mapped _ fun _ _ h => h.map
  | delete model conditions => exact (delete_meets hc).mapped _ fun _ _ h => h.map
  | deleteMany model conditions => exact (deleteMany_meets hc).mapped _ fun _ _ h => h.map

/-- **A call writes only when it is prepared**, and once at most.

A call of a model without a container is refused, and no store hears of it.  Otherwise the store
calls keep to the order of the call, a query and then a write at most; a write is made exactly if the
call is ready for it; and a call that something stands in the way of fails without a write.  So one
document without an identifier, wherever it stands among those that were found, keeps all of them
from being deleted. -/
theorem writes_only_when_prepared (f : Facade) (call : Call) :
    (∀ e, f.registry.resolve call.model = .error e → f.perform call = ⟨.error ⟨e, none⟩, []⟩) ∧
    ∀ c, f.registry.resolve call.model = .ok c → ∃ calls,
      Conduct f.IsOwn c calls (f.perform call) ∧
      call.Keeps calls ∧
      (∀ w, w.isWrite = true → (w ∈ calls ↔ Prepares f c call w)) ∧
      (Obstructed f c call →
        (∀ s ∈ calls, s.isWrite = false) ∧ ∃ e, (f.perform call).outcome = .error e) ∧
      ∀ model conditions documents fields, call = .deleteMany model conditions →
        f.delivered c call = .ok documents → .dict fields ∈ documents →
        Value.lookup f.config.idField fields = none →
        (∀ s ∈ calls, s.isWrite = false) ∧ ∃ e, (f.perform call).outcome = .error e := by
  refine ⟨perform_of_unresolved call, fun c hc => ?_⟩
  obtain ⟨calls, hconduct, heffects⟩ := perform_meets call hc
  have hobstructed : Obstructed f c call →
      (∀ s ∈ calls, s.isWrite = false) ∧ ∃ e, (f.perform call).outcome = .error e := by
    refine fun ho => ⟨fun s hs => ?_, heffects.fails ho⟩
    by_contra hwrite
    rw [Bool.not_eq_false] at hwrite
    exact ((heffects.writes s hwrite).mp hs).not_obstructed ho
  refine ⟨calls, hconduct, heffects.order, heffects.writes, hobstructed, ?_⟩
  rintro model conditions documents fields rfl hdocuments hmem hlookup
  exact hobstructed (.deleteMany hdocuments hmem (.inl (Planner.documentKeyOf_missing hlookup)))

end Facade

end Docstore
