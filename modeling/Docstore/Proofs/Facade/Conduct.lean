import Docstore.Proofs.Facade.Call

/-!
# How a facade works with a container

The run of a call is told by what it asks of a container: the store calls, in order, with log
records between them.  A store call that fails ends the run, its failure recast; otherwise the run
ends on the facade's own account.

`Meets` says of a run that it proceeds so and that the store calls and the outcome satisfy a
condition; it has one rule for each kind of step that the operations of a facade are made of.

* `Conduct.outcome_of_failure` — the failure of a store call is the failure of the run, recast.
* `Meets.step`, `Meets.ask` — the rules for steps of the facade itself and for store calls.
* `Meets.select`, `Meets.fetchAll`, `Meets.fetchFirst` — the rules for building the statement of a
  call and for reading the documents that answer it.
-/

namespace Docstore

variable {α β : Type}

/-! ## Store calls -/

/-- Reads pages to an extent, the documents left aside.  A reader that stops at the first document
closes the pages. -/
def Extent.drain : Extent → PageStream → Drain Unit
  | .all, s => s.all.map fun _ => ()
  | .first, s => s.first.closing.map fun _ => ()

/-- A call that is made of a container. -/
inductive StoreCall where
  | create (body : Value)
  | query (q : Query) (maxItems : Option Int) (extent : Extent)
  | replace (item partitionKey body : Value)
  | delete (item partitionKey : Value)
  | bulk (operations : List Operation)

namespace StoreCall

/-- Whether a call may change the store. -/
def isWrite : StoreCall → Bool
  | query .. => false
  | _ => true

/-- What a call asks for, as failures name it; a batch goes by the kind of its first operation. -/
def action : StoreCall → Action
  | create _ => .create
  | query .. => .query
  | replace .. => .update
  | delete .. => .delete
  | bulk operations => (operations.head?.map fun o => Action.ofKind o.kind).getD .update

/-- What a container records of a call: the request, for a query with what was read of its pages. -/
def request (c : Container) : StoreCall → Request
  | create body => .create body
  | query q maxItems extent =>
    let d := extent.drain (c.query q maxItems)
    let limit := match maxItems with
      | some n => Value.int n
      | none => .null
    .query q.statement (q.parameters.map Parameter.report) limit d.pulled d.closed
  | replace item partitionKey body => .replace item partitionKey body
  | delete item partitionKey => .delete item partitionKey
  | bulk operations => .bulk operations

/-- What the store does about a call, its result left aside. -/
def answer (c : Container) : StoreCall → Run Unit
  | create body => (c.create body).forget
  | query q maxItems extent => ⟨(extent.drain (c.query q maxItems)).result, []⟩
  | replace item partitionKey body => (c.replace item partitionKey body).forget
  | delete item partitionKey => (c.delete item partitionKey).forget
  | bulk operations => (c.bulk operations).forget

/-- What comes of a call: its request is recorded, then the store answers. -/
def run (c : Container) (s : StoreCall) : Run Unit :=
  ⟨(s.answer c).outcome, .request c.name (s.request c) :: (s.answer c).events⟩

variable {c : Container}

/-- A creation is called for by its own request. -/
theorem run_create (body : Value) : (create body).run c = (c.createItem body).forget := rfl

theorem run_replace (item partitionKey body : Value) :
    (replace item partitionKey body).run c = (c.replaceItem item partitionKey body).forget := rfl

theorem run_delete (item partitionKey : Value) :
    (delete item partitionKey).run c = (c.deleteItem item partitionKey).forget := rfl

theorem run_bulk (operations : List Operation) :
    (bulk operations).run c = (c.executeBulk operations).forget := rfl

theorem run_query_all (q : Query) (maxItems : Option Int) :
    (query q maxItems .all).run c = (c.queryAll q maxItems).forget := rfl

theorem run_query_first (q : Query) (maxItems : Option Int) :
    (query q maxItems .first).run c = (c.queryFirst q maxItems).forget := rfl

end StoreCall

/-! ## Conduct -/

/-- A run makes `calls` of a container, one after the other, and leaves log records between them.  A
call that fails is the last one, and its failure ends the run, recast; otherwise the run comes to its
own end, where it may fail for reasons `P`. -/
inductive Conduct (P : Failure → Prop) (c : Container) : List StoreCall → Run α → Prop
  | ends {x : Run α} (h : x.IsLocal P) : Conduct P c [] x
  | fails {logs : List Event} {s : StoreCall} {e : Failure}
      (hlogs : ∀ e ∈ logs, ∃ entry, e = .log entry) (h : (s.run c).outcome = .error e) :
      Conduct P c [s] ⟨.error (e.recast s.action), logs ++ (s.run c).events⟩
  | answered {logs : List Event} {s : StoreCall} {calls : List StoreCall} {rest : Run α}
      (hlogs : ∀ e ∈ logs, ∃ entry, e = .log entry) (h : (s.run c).outcome = .ok ())
      (hrest : Conduct P c calls rest) :
      Conduct P c (s :: calls) ⟨rest.outcome, logs ++ (s.run c).events ++ rest.events⟩

namespace Conduct

variable {P : Failure → Prop} {c : Container} {calls : List StoreCall} {x : Run α}

/-- Log records may come first. -/
theorem after_logs (h : Conduct P c calls x) {logs : List Event}
    (hlogs : ∀ e ∈ logs, ∃ entry, e = .log entry) :
    Conduct P c calls ⟨x.outcome, logs ++ x.events⟩ := by
  have hboth : ∀ later : List Event, (∀ e ∈ later, ∃ entry, e = Event.log entry) →
      ∀ e ∈ logs ++ later, ∃ entry, e = Event.log entry := fun later hlater e he =>
    (List.mem_append.mp he).elim (hlogs e) (hlater e)
  cases h with
  | ends h => exact .ends ⟨hboth _ h.logs, h.fails⟩
  | fails hlater h =>
    rw [← List.append_assoc]
    exact .fails (hboth _ hlater) h
  | answered hlater h hrest =>
    simp only [← List.append_assoc]
    exact .answered (hboth _ hlater) h hrest

end Conduct

/-- A run works with a container, and the calls that it makes and its outcome satisfy `Q`. -/
def Meets (P : Failure → Prop) (c : Container) (Q : List StoreCall → Except Failure α → Prop)
    (x : Run α) : Prop :=
  ∃ calls, Conduct P c calls x ∧ Q calls x.outcome

namespace Meets

variable {P : Failure → Prop} {c : Container} {Q : List StoreCall → Except Failure β → Prop}
  {x : Run α} {g : α → Run β}

theorem done {b : β} (h : Q [] (.ok b)) : Meets P c Q (pure b) :=
  ⟨[], .ends (Run.isLocal_pure b), h⟩

/-- The last steps, if they reach no store. -/
theorem last {x : Run β} (hx : x.IsLocal P) (h : Q [] x.outcome) : Meets P c Q x :=
  ⟨[], .ends hx, h⟩

/-- A step that reaches no store. -/
theorem step (hx : x.IsLocal P) (herror : ∀ e, x.outcome = .error e → Q [] (.error e))
    (hok : ∀ a, x.outcome = .ok a → Meets P c Q (g a)) : Meets P c Q (x >>= g) := by
  obtain ⟨outcome, events⟩ := x
  cases outcome with
  | error e => exact ⟨[], .ends ⟨hx.logs, hx.fails⟩, herror e rfl⟩
  | ok a =>
    obtain ⟨calls, hconduct, hQ⟩ := hok a rfl
    exact ⟨calls, hconduct.after_logs hx.logs, hQ⟩

/-- A step that makes a store call. -/
theorem ask (s : StoreCall) (hrun : s.run c = x.forget)
    (herror : ∀ e, x.outcome = .error e → Q [s] (.error (e.recast s.action)))
    (hok : ∀ a, x.outcome = .ok a → Meets P c (fun calls out => Q (s :: calls) out) (g a)) :
    Meets P c Q (x.guarded s.action >>= g) := by
  have hlogs : ∀ e ∈ ([] : List Event), ∃ entry, e = .log entry := fun _ he =>
    absurd he List.not_mem_nil
  obtain ⟨outcome, events⟩ := x
  cases outcome with
  | error e =>
    have hraises : (s.run c).outcome = .error e := by rw [hrun]; rfl
    have hconduct : Conduct P c [s] (⟨.error (e.recast s.action), [] ++ (s.run c).events⟩ : Run β) :=
      .fails hlogs hraises
    rw [hrun] at hconduct
    exact ⟨[s], hconduct, herror e rfl⟩
  | ok a =>
    obtain ⟨calls, hrest, hQ⟩ := hok a rfl
    have hanswers : (s.run c).outcome = .ok () := by rw [hrun]; rfl
    have hconduct := Conduct.answered hlogs hanswers hrest
    rw [hrun] at hconduct
    exact ⟨s :: calls, hconduct, hQ⟩

/-- The result of a run may be mapped. -/
theorem mapped {Q : List StoreCall → Except Failure α → Prop}
    {R : List StoreCall → Except Failure β → Prop} (h : Meets P c Q x) (k : α → β)
    (hQ : ∀ calls out, Q calls out → R calls (out.map k)) :
    Meets P c R (x >>= fun a => pure (k a)) := by
  obtain ⟨calls, hconduct, hx⟩ := h
  rw [Run.bind_pure]
  refine ⟨calls, ?_, hQ _ _ hx⟩
  clear hx
  induction hconduct with
  | ends h =>
    refine .ends ⟨h.logs, ?_⟩
    exact h.fails.map fun _ _ => trivial
  | fails hlogs h => exact .fails hlogs h
  | answered hlogs h _ ih => exact .answered hlogs h ih

/-! ## Steps of a facade -/

section

variable {f : Facade} {Q : List StoreCall → Except Failure β → Prop}

/-- A computation that fails on the facade's own account. -/
theorem compute {x : Except Fault α} (hx : FailsWith (fun e => f.IsOwn ⟨e, none⟩) x)
    (herror : ∀ e, x = .error e → Q [] (.error ⟨e, none⟩))
    (hok : ∀ a, x = .ok a → Meets f.IsOwn c Q (g a)) : Meets f.IsOwn c Q (Run.of x >>= g) := by
  refine step (Run.isLocal_of hx) ?_ ?_
  · intro e he
    cases x with
    | error fault =>
      cases he
      exact herror fault rfl
    | ok a => cases he
  · intro a ha
    cases x with
    | error fault => cases ha
    | ok b =>
      cases ha
      exact hok _ rfl

/-- A computation within the boundary of a store. -/
theorem computeGuarded (action : Action) {x : Except Fault α}
    (herror : ∀ e, x = .error e → Q [] (.error (Failure.recast action ⟨e, none⟩)))
    (hok : ∀ a, x = .ok a → Meets f.IsOwn c Q (g a)) :
    Meets f.IsOwn c Q ((Run.of x).guarded action >>= g) := by
  cases x with
  | error e =>
    refine last (Run.isLocal_of_outcome fun _ => ?_) (herror e rfl)
    exact Failure.recast_not_foreign action _
  | ok a =>
    refine step (Run.isLocal_pure a) (fun e he => by cases he) fun b hb => ?_
    cases hb
    exact hok _ rfl

/-- The container of a model that has one. -/
theorem found {model : Value} (hc : f.registry.resolve model = .ok c) {g : Container → Run β}
    (h : Meets f.IsOwn c Q (g c)) : Meets f.IsOwn c Q (f.container model >>= g) := by
  unfold Facade.container
  rw [hc]
  exact h

/-- Building the statement of a call. -/
theorem select (call : Call) {extent : Extent} (hextent : call.extent? = some extent)
    {x : Run Query} (hx : x = ⟨f.queryOf call, []⟩) {g : Query → Run β}
    (herror : ∀ e, f.delivered c call = .error e → Q [] (.error e))
    (hok : ∀ q, f.queryOf call = .ok q → Meets f.IsOwn c Q (g q)) :
    Meets f.IsOwn c Q (x >>= g) := by
  subst hx
  refine step (Run.isLocal_of_outcome (f.queryOf_isOwn call)) ?_ hok
  exact fun e he => herror e (Facade.delivered_of_queryOf_error hextent he)

/-- Reading all documents that answer the statement of a call. -/
theorem fetchAll (call : Call) (hextent : call.extent? = some .all) {q : Query}
    (hq : f.queryOf call = .ok q) {maxItems : Option Int} (hsize : f.pageSize call = maxItems)
    {g : List Value → Run β}
    (herror : ∀ e, f.delivered c call = .error e →
      Q [.query q maxItems .all] (.error (e.recast .query)))
    (hok : ∀ documents, f.delivered c call = .ok documents →
      Meets f.IsOwn c (fun calls out => Q (.query q maxItems .all :: calls) out) (g documents)) :
    Meets f.IsOwn c Q (Facade.fetchAll c q maxItems >>= g) := by
  subst hsize
  have hdelivered := Facade.delivered_all (c := c) hextent hq
  unfold Facade.fetchAll
  rw [Run.andThen_assoc]
  refine step (Run.isLocal_log ..) (fun e he => by cases he) fun _ _ => ?_
  refine ask (.query q (f.pageSize call) .all) (StoreCall.run_query_all q _) ?_ ?_
  · exact fun e he => herror e (hdelivered.trans he)
  · exact fun documents hdocuments => hok documents (hdelivered.trans hdocuments)

/-- Reading the first document that answers the statement of a call. -/
theorem fetchFirst (call : Call) (hextent : call.extent? = some .first) {q : Query}
    (hq : f.queryOf call = .ok q) (hsize : f.pageSize call = some 1) {g : Value → Run β}
    (herror : ∀ e, f.delivered c call = .error e →
      Q [.query q (some 1) .first] (.error (e.recast .query)))
    (hnone : f.delivered c call = .ok [] →
      Meets f.IsOwn c (fun calls out => Q (.query q (some 1) .first :: calls) out) (g .null))
    (hsome : ∀ item, item ≠ .null → f.delivered c call = .ok [item] →
      Meets f.IsOwn c (fun calls out => Q (.query q (some 1) .first :: calls) out) (g item)) :
    Meets f.IsOwn c Q (Facade.fetchFirst c q >>= g) := by
  have hdelivered := Facade.delivered_first (c := c) hextent hq
  rw [hsize] at hdelivered
  unfold Facade.fetchFirst
  rw [Run.andThen_assoc]
  refine step (Run.isLocal_log ..) (fun e he => by cases he) fun _ _ => ?_
  rw [Run.andThen_assoc]
  refine ask (.query q (some 1) .first) (StoreCall.run_query_first q _) ?_ ?_
  · intro e he
    refine herror e (hdelivered.trans ?_)
    have hresult : (c.query q (some 1)).first.result = .error e := he
    rw [hresult]
    rfl
  · intro found hfound
    have hresult : (c.query q (some 1)).first.result = .ok found := hfound
    rw [hresult] at hdelivered
    cases found with
    | none => exact hnone hdelivered
    | some item =>
      by_cases hnull : item = .null
      · subst hnull
        exact hnone hdelivered
      · refine hsome item hnull (hdelivered.trans ?_)
        cases item <;> first | rfl | exact absurd rfl hnull

end

end Meets

end Docstore
