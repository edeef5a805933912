import Docstore.Proofs.Bulk.Accounting
import Docstore.Proofs.Bulk.Identity
import Docstore.Proofs.Facade.Call
import Docstore.Proofs.Service.Submission
import Docstore.Store.Scripted

/-!
# What a bulk call counts

Updating and deleting many documents gives a number: of the operations of the batch, how many
settled with the status of success.  A point call that returns settles so.  A call that fails with an
error of the service settles with the status of that error, whatever it is, so an error that carries
the status of success is counted too.

* `Batch.isDone_status` — which operations settle with the status of success.
* `Facade.perform_of_plans` — a bulk call gives what its batch counts.
* `Facade.count_exact_iff` — the number is that of the calls that returned exactly if no error
  passes for success.
-/

namespace Docstore

/-- A fault carries no status that is too long to be written. -/
def Fault.HasWritableStatus (e : Fault) : Prop :=
  ∀ s n, e = .service s → s.status? = some n → Text.isWritable n = true

/-- Whether an error that settles an operation of a kind carries the status of its success. -/
def Fault.passesFor (kind : WriteKind) (e : Fault) : Bool :=
  !e.isTimeout && match e with
    | .service s => decide (s.status? = some kind.expectedStatus)
    | _ => false

/-! ## Settled operations -/

namespace Batch

variable {outcome : Outcomes} {operations : List Operation}

/-- How many point calls of a batch return. -/
def returned (outcome : Outcomes) (operations : List Operation) : Nat :=
  (numbered operations).countP fun c => (outcome c).isOk

/-- Whether a point call fails with an error that passes for success. -/
def isMistaken (outcome : Outcomes) (c : Numbered) : Bool :=
  match outcome c with
  | .ok _ => false
  | .error e => e.fault.passesFor c.2.kind

/-- How many point calls of a batch fail with an error that passes for success. -/
def mistaken (outcome : Outcomes) (operations : List Operation) : Nat :=
  (numbered operations).countP (isMistaken outcome)

/-- **An operation settles with the status of success** if its call returns, or fails with an error
that passes for success. -/
theorem isDone_status (outcome : Outcomes) (c : Numbered) :
    Tally.isDone c.2.kind (status c.2 (outcome c)) = ((outcome c).isOk || isMistaken outcome c) := by
  unfold isMistaken
  cases outcome c with
  | ok v => simp [status, Tally.isDone_int, Except.isOk, Except.toBool]
  | error e =>
    obtain ⟨fault, cause⟩ := e
    cases htimeout : fault.isTimeout with
    | true =>
      have hother : ∀ kind : WriteKind, timeoutStatus ≠ kind.expectedStatus := by
        intro kind
        cases kind <;> decide
      simp [status, Fault.passesFor, htimeout, Tally.isDone_int, hother, Except.isOk, Except.toBool]
    | false =>
      cases fault with
      | service s =>
        cases hstatus : s.status? <;>
          simp [status, Fault.passesFor, htimeout, hstatus, Tally.isDone_int, Tally.isDone_null,
            Except.isOk, Except.toBool]
      | _ => simp [status, Fault.passesFor, htimeout, Tally.isDone_null, Except.isOk, Except.toBool]

/-- The operations of a batch that settle with the status of success are those whose calls return
and those whose errors pass for success. -/
theorem countP_done (outcome : Outcomes) (calls : List Numbered) :
    calls.countP (fun c => Tally.isDone c.2.kind (status c.2 (outcome c))) =
      (calls.countP fun c => (outcome c).isOk) + calls.countP (isMistaken outcome) := by
  simp only [isDone_status]
  induction calls with
  | nil => rfl
  | cons c rest ih =>
    have hapart : (outcome c).isOk = true → isMistaken outcome c = false := by
      unfold isMistaken
      cases outcome c with
      | ok v => exact fun _ => rfl
      | error e => exact fun h => by cases h
    simp only [List.countP_cons, ih]
    cases hok : (outcome c).isOk with
    | true => simp [hapart hok]; omega
    | false => simp; omega

/-- The statuses of a batch, each at the place of its operation. -/
theorem done_statuses (outcome : Outcomes) (operations : List Operation) :
    (Tally.done (Tally.statusAt ((numbered operations).map fun c => status c.2 (outcome c))) 0
      operations).length = returned outcome operations + mistaken outcome operations := by
  have hplace : ∀ p ∈ operations.zipIdx,
      Tally.statusAt ((numbered operations).map fun c => status c.2 (outcome c)) p.2 =
        status p.1 (outcome (p.2, p.1)) := by
    rintro ⟨o, i⟩ hp
    have hget : operations[i]? = some o := List.mk_mem_zipIdx_iff_getElem?.mp hp
    simp [Tally.statusAt, numbered, hget]
  calc (Tally.done _ 0 operations).length
      = operations.zipIdx.countP fun p =>
          Tally.isDone p.1.kind (status p.1 (outcome (p.2, p.1))) := by
        rw [Tally.done, List.length_map, ← List.countP_eq_length_filter]
        exact List.countP_congr fun p hp => by rw [hplace p hp]
    _ = (numbered operations).countP fun c =>
          Tally.isDone c.2.kind (status c.2 (outcome c)) := by
        rw [numbered, List.countP_map]
        rfl
    _ = returned outcome operations + mistaken outcome operations := countP_done outcome _

/-- A batch whose failures are all reported comes to its statuses. -/
theorem verdict_of_reported (h : ∀ c ∈ numbered operations, ∀ e, outcome c = .error e →
    e.fault.isReported = true) :
    verdict outcome operations =
      .ok ((numbered operations).map fun c => status c.2 (outcome c)) := by
  have hnone : (numbered operations).findSome? (fun c => raised? (outcome c)) = none := by
    rw [List.findSome?_eq_none_iff]
    intro c hc
    cases hx : outcome c with
    | ok v => rfl
    | error e => simp [raised?, h c hc e hx]
  rw [verdict, hnone]

/-- Statuses are numbers or nothing, so they can be compared with numbers. -/
theorem statusAt_not_refused (outcome : Outcomes) (calls : List Numbered) (i : Nat) (n : Int) :
    (Tally.statusAt (calls.map fun c => status c.2 (outcome c)) i).compare (.int n) ≠ .refused := by
  have hstatus : ∀ (o : Operation) (x : Except Failure Value),
      (status o x).compare (.int n) ≠ .refused := by
    intro o x
    unfold status
    split
    · exact Tally.compare_int_not_refused _ n
    · split
      · exact Tally.compare_int_not_refused _ n
      · split
        · rename_i reason _
          cases reason.status? with
          | none => exact Tally.compare_null_not_refused n
          | some m => exact Tally.compare_int_not_refused m n
        · exact Tally.compare_null_not_refused n
  unfold Tally.statusAt
  rw [List.getD_eq_getElem?_getD, List.getElem?_map]
  cases calls[i]? with
  | none => exact Tally.compare_null_not_refused n
  | some c => exact hstatus c.2 _

/-- A status can be written if that of an error can. -/
theorem isWritable_status (o : Operation) {x : Except Failure Value}
    (h : ∀ e, x = .error e → e.fault.HasWritableStatus) : (status o x).isWritable = true := by
  unfold status
  split
  · cases o.kind <;> decide +kernel
  · rename_i e
    split
    · decide +kernel
    · split
      · rename_i s hs
        cases hstatus : s.status? with
        | none => rfl
        | some n => exact h e rfl s n hs hstatus
      · rfl

/-- The statuses that stand for failures can be written if those of all errors can. -/
theorem isWritable_of_mem_kept (h : ∀ c ∈ numbered operations, ∀ e, outcome c = .error e →
    e.fault.HasWritableStatus) :
    ∀ e ∈ Tally.kept (Tally.statusAt ((numbered operations).map fun c => status c.2 (outcome c)))
      operations, e.2.isWritable = true := by
  intro e he
  obtain ⟨i, hi, hstatus⟩ := Tally.exists_of_mem_kept he
  have hplace : i < (numbered operations).length := by simpa [numbered] using hi
  have hat : Tally.statusAt ((numbered operations).map fun c => status c.2 (outcome c)) i =
      status (numbered operations)[i].2 (outcome (numbered operations)[i]) := by
    simp [Tally.statusAt, hplace]
  rw [hstatus, hat]
  exact isWritable_status _ (h _ (List.getElem_mem hplace))

end Batch

/-! ## Bulk calls -/

namespace Facade

open Batch

variable {f : Facade} {call : Call} {c : Container} {operations : List Operation}

/-- A bulk call finds documents and plans operations for them. -/
inductive Plans (f : Facade) (c : Container) : Call → List Operation → Prop
  | updateMany {model conditions changes mutation : Value} {documents : List Value}
      {operations : List Operation}
      (hdocuments : f.delivered c (.updateMany model conditions changes) = .ok documents)
      (hsome : documents ≠ []) (hdata : f.resolveData model changes = .ok mutation)
      (hplan : f.planner.replacements mutation documents = .ok operations) :
      Plans f c (.updateMany model conditions changes) operations
  | deleteMany {model conditions : Value} {documents : List Value} {operations : List Operation}
      (hdocuments : f.delivered c (.deleteMany model conditions) = .ok documents)
      (hsome : documents ≠ []) (hplan : f.planner.deletions documents = .ok operations) :
      Plans f c (.deleteMany model conditions) operations

theorem outcome_of {α : Type} {x : Except Fault α} {a : α} (h : x = .ok a) :
    (Run.of x).outcome = .ok a := by
  rw [h]
  rfl

/-- A call that reads all that answers its query comes to what it makes of the documents. -/
theorem outcome_of_delivered {α : Type} (call : Call)
    (hc : f.registry.resolve call.model = .ok c) (hextent : call.extent? = some .all)
    {documents : List Value} (h : f.delivered c call = .ok documents) {x : Run Query}
    (hx : x.outcome = f.queryOf call) (g : Container → List Value → Run α) :
    (do
      let c ← f.container call.model
      let q ← x
      let documents ← fetchAll c q (f.pageSize call)
      g c documents : Run α).outcome = (g c documents).outcome := by
  have hcontainer : (f.container call.model).outcome = .ok c := outcome_of hc
  unfold delivered at h
  rw [hextent] at h
  obtain ⟨q, hq, hall⟩ := bind_eq_ok.mp h
  rw [Run.outcome_bind _ hcontainer, Run.outcome_bind _ (hx.trans hq),
    Run.outcome_bind _ (fetchAll_outcome hall)]

/-- **A bulk call gives what its batch counts.** -/
theorem perform_of_plans (hc : f.registry.resolve call.model = .ok c)
    (hplans : f.Plans c call operations) :
    (f.perform call).outcome =
      (submit c operations).outcome.map fun t => .int t.successCount := by
  have hnumber : ∀ x : Run Tally, ((x >>= fun t => pure t.successCount).outcome.map fun n : Nat =>
      Value.int n) = x.outcome.map fun t => .int t.successCount := by
    intro x
    rw [Run.bind_pure]
    cases x.outcome <;> rfl
  cases hplans with
  | @updateMany model conditions changes mutation documents _ hdocuments hsome hdata hplan =>
    have hrun : (f.updateMany model conditions changes).outcome =
        (submit c operations >>= fun t => pure t.successCount).outcome := by
      refine (outcome_of_delivered (.updateMany model conditions changes) hc rfl hdocuments rfl
        _).trans ?_
      rw [if_neg (by simpa using hsome), Run.outcome_bind _ (outcome_of hdata),
        Run.outcome_bind _ (outcome_of hplan)]
    rw [← hnumber, ← hrun, perform, Run.bind_pure]
  | @deleteMany model conditions documents _ hdocuments hsome hplan =>
    have hrun : (f.deleteMany model conditions).outcome =
        (submit c operations >>= fun t => pure t.successCount).outcome := by
      refine (outcome_of_delivered (.deleteMany model conditions) hc rfl hdocuments rfl _).trans ?_
      rw [if_neg (by simpa using hsome), Run.outcome_bind _ (outcome_of hplan)]
    rw [← hnumber, ← hrun, perform, Run.bind_pure]

/-- The tally of a batch that the store settles. -/
theorem submit_tally {statuses : Value} (hsome : operations ≠ [])
    (hbulk : (c.bulk operations).outcome = .ok statuses) :
    (submit c operations).outcome = (Tally.reduce operations statuses).outcome := by
  cases operations with
  | nil => exact absurd rfl hsome
  | cons o rest =>
    have hexecute : (c.executeBulk (o :: rest)).outcome = .ok statuses := hbulk
    have hguarded : ((c.executeBulk (o :: rest)).guarded (.ofKind o.kind)).outcome =
        .ok statuses := by
      rw [Run.guarded, hexecute]
      rfl
    rw [submit, Run.outcome_bind _ (a := ()) rfl, Run.outcome_bind _ hguarded]

/-- **What a bulk call gives**: how many point calls returned, and how many failed with an error
that passes for success.  It gives a number if the keys of the operations can be told apart and the
statuses of errors can be written. -/
theorem perform_counts (hc : f.registry.resolve call.model = .ok c)
    (hplans : f.Plans c call operations) {m : Int} (hm : 1 ≤ m) {outcome : Outcomes}
    {schedule : List Nat} (hschedule : operations.length ≤ schedule.length)
    (hbulk : c.bulk operations =
      ServiceContainer.submit c.name (.int m) outcome operations schedule)
    (hreported : ∀ p ∈ numbered operations, ∀ e, outcome p = .error e →
      e.fault.isReported = true) :
    ((∀ o ∈ operations, o.documentKey.isKey = true) → operations.length ≤ 2 ^ 63 →
      (∀ p ∈ numbered operations, ∀ e, outcome p = .error e → e.fault.HasWritableStatus) →
      ∃ v, (f.perform call).outcome = .ok v) ∧
    ∀ v, (f.perform call).outcome = .ok v →
      v = .int ↑(returned outcome operations + mistaken outcome operations) := by
  rw [perform_of_plans hc hplans]
  by_cases hsome : operations = []
  · subst hsome
    refine ⟨fun _ _ _ => ⟨_, rfl⟩, fun v hv => ?_⟩
    cases hv
    rfl
  · have hstatuses : (c.bulk operations).outcome =
        .ok (.list ((numbered operations).map fun p => status p.2 (outcome p))) := by
      rw [hbulk, (ServiceContainer.submit_spec c.name hm outcome hschedule).1,
        verdict_of_reported hreported]
      rfl
    rw [submit_tally hsome hstatuses]
    constructor
    · intro hkeys hlength hstatus
      obtain ⟨t, ht⟩ := Tally.reduce_list_total hlength
        (fun i kind => statusAt_not_refused outcome _ i kind.expectedStatus) hkeys
        (isWritable_of_mem_kept hstatus)
      exact ⟨_, by rw [ht]; rfl⟩
    · intro v hv
      obtain ⟨t, ht, rfl⟩ := map_eq_ok.mp hv
      rw [← done_statuses, Tally.successCount_of_reduce ht]

/-- **The number of a bulk call is that of the calls that returned, exactly if no error passes for
success.**

A container submits the batch as point calls, which may finish in any order; each returns or fails
with an error of the service or a timeout.  If the keys of the operations can be told apart and the
statuses of errors can be written, the call gives a number.  The number it gives is that of the point
calls that returned, and of those that failed with an error whose status is that of success. -/
theorem count_exact_iff (hc : f.registry.resolve call.model = .ok c)
    (hplans : f.Plans c call operations) {m : Int} (hm : 1 ≤ m) {outcome : Outcomes}
    {schedule : List Nat} (hschedule : operations.length ≤ schedule.length)
    (hbulk : c.bulk operations =
      ServiceContainer.submit c.name (.int m) outcome operations schedule)
    (hreported : ∀ p ∈ numbered operations, ∀ e, outcome p = .error e →
      e.fault.isReported = true) :
    ((∀ o ∈ operations, o.documentKey.isKey = true) → operations.length ≤ 2 ^ 63 →
      (∀ p ∈ numbered operations, ∀ e, outcome p = .error e → e.fault.HasWritableStatus) →
      ∃ v, (f.perform call).outcome = .ok v) ∧
    ∀ v, (f.perform call).outcome = .ok v → ∃ n : Nat, v = .int n ∧
      n = returned outcome operations + mistaken outcome operations ∧
      (n = returned outcome operations ↔ ∀ p ∈ numbered operations, ∀ e, outcome p = .error e →
        e.fault.passesFor p.2.kind = false) := by
  obtain ⟨htotal, hcount⟩ := perform_counts hc hplans hm hschedule hbulk hreported
  refine ⟨htotal, fun v hv => ⟨_, hcount v hv, rfl, ?_⟩⟩
  have hmistaken : mistaken outcome operations = 0 ↔ ∀ p ∈ numbered operations, ∀ e,
      outcome p = .error e → e.fault.passesFor p.2.kind = false := by
    rw [mistaken, List.countP_eq_zero]
    refine forall₂_congr fun p _ => ?_
    unfold isMistaken
    cases outcome p <;> simp
  rw [← hmistaken]
  omega

/-! ## Two batches -/

section

/-- The answers of a store that holds documents with these identifiers, and fails to delete one of
them. -/
def refusing (names : List String) (name : String) (e : ServiceError) : Script where
  pages := [.items (names.map fun id => .dict [(.str "id", .str id)])]
  onItem := [(name, ⟨.service e, none⟩)]

/-- A facade of the container that the service's client makes of a script. -/
def ofScript (s : Script) : Facade :=
  ⟨⟨[("user", .container ((s.toService "users").toContainer (.int 25)))], false⟩, .identity,
    .standard⟩

/-- The deletion of the document with an identifier. -/
def deletionOf (id : String) : Operation :=
  ⟨.delete, .str id, .str id, none⟩

variable (names : List String) (name : String) (e : ServiceError)

theorem deletion_of_id (s : Script) (id : String) :
    (ofScript s).planner.deletion (.dict [(.str "id", .str id)]) = .ok (deletionOf id) := by
  have hkey : (ofScript s).planner.documentKeyOf (.dict [(.str "id", .str id)]) = .ok (.str id) :=
    Planner.documentKeyOf_dict rfl (by simp [ofScript, planner, Config.standard, Value.lookup])
  have hpartition : (ofScript s).planner.partitionKeyOf (.dict [(.str "id", .str id)]) =
      .ok (.str id) := hkey
  exact bind_eq_ok.mpr ⟨_, hkey, bind_eq_ok.mpr ⟨_, hpartition, rfl⟩⟩

/-- Deleting all documents plans the deletion of each. -/
theorem plans_of_refusing (hsome : names ≠ []) :
    (ofScript (refusing names name e)).Plans
      (((refusing names name e).toService "users").toContainer (.int 25))
      (.deleteMany (.str "user") .null) (names.map deletionOf) := by
  have hdocuments : (ofScript (refusing names name e)).delivered
      (((refusing names name e).toService "users").toContainer (.int 25))
      (.deleteMany (.str "user") .null) =
        .ok (names.map fun id => .dict [(.str "id", .str id)]) :=
    congrArg Except.ok (List.append_nil _)
  refine .deleteMany hdocuments (by simpa using hsome) (mapM_eq_ok.mpr ?_)
  rw [List.forall₂_map_left_iff, List.forall₂_map_right_iff, List.forall₂_same]
  exact fun id _ => deletion_of_id _ id

end

/-- Of two documents one is not there any more when it is deleted.  One deletion is counted. -/
theorem count_of_two_deletions :
    let s := refusing ["a", "b"] "b" (.response true 404 none)
    let outcome : Outcomes := fun p => (s.toService "users").pointCall p.2
    let operations := [deletionOf "a", deletionOf "b"]
    (ofScript s).Plans ((s.toService "users").toContainer (.int 25))
        (.deleteMany (.str "user") .null) operations ∧
      (∀ p ∈ numbered operations, ∀ e, outcome p = .error e → e.fault.isReported = true ∧
        e.fault.HasWritableStatus ∧ e.fault.passesFor p.2.kind = false) ∧
      returned outcome operations = 1 ∧
      ((ofScript s).perform (.deleteMany (.str "user") .null)).outcome = .ok (.int 1) := by
  intro s outcome operations
  have hplans := plans_of_refusing ["a", "b"] "b" (.response true 404 none) (by simp)
  have herrors : ∀ p ∈ numbered operations, ∀ e, outcome p = .error e →
      e.fault.isReported = true ∧ e.fault.HasWritableStatus ∧
        e.fault.passesFor p.2.kind = false := by
    intro p hp e he
    simp only [operations, numbered, List.zipIdx_cons, List.zipIdx_nil, List.map_cons,
      List.map_nil, List.mem_cons, List.not_mem_nil, or_false] at hp
    rcases hp with rfl | rfl
    · cases he
    · cases he
      refine ⟨rfl, ?_, rfl⟩
      rintro _ _ ⟨⟩ ⟨⟩
      decide +kernel
  have hc : (ofScript s).registry.resolve (.str "user") =
      .ok ((s.toService "users").toContainer (.int 25)) := rfl
  have hreturned : returned outcome operations = 1 := rfl
  have hschedule : operations.length ≤ [0, 0].length := Nat.le_refl 2
  have hbulk : ((s.toService "users").toContainer (.int 25)).bulk operations =
      ServiceContainer.submit "users" (.int 25) outcome operations [0, 0] := rfl
  obtain ⟨htotal, hexact⟩ := count_exact_iff hc hplans
    (by decide) hschedule hbulk fun p hp e he => (herrors p hp e he).1
  obtain ⟨v, hv⟩ := htotal (by simp [deletionOf, Value.isKey]) (by decide)
    fun p hp e he => (herrors p hp e he).2.1
  obtain ⟨n, rfl, -, hiff⟩ := hexact v hv
  rw [hiff.mpr fun p hp e he => (herrors p hp e he).2.2] at hv
  exact ⟨hplans, herrors, hreturned, hv⟩

/-- The only deletion fails, with an error that carries the status of success.  It is counted. -/
theorem failed_deletion_is_counted :
    let s := refusing ["a"] "a" (.response false 204 (some "x"))
    let outcome : Outcomes := fun p => (s.toService "users").pointCall p.2
    let operations := [deletionOf "a"]
    (ofScript s).Plans ((s.toService "users").toContainer (.int 25))
        (.deleteMany (.str "user") .null) operations ∧
      returned outcome operations = 0 ∧
      ((ofScript s).perform (.deleteMany (.str "user") .null)).outcome = .ok (.int 1) := by
  intro s outcome operations
  have hplans := plans_of_refusing ["a"] "a" (.response false 204 (some "x")) (by simp)
  have herrors : ∀ p ∈ numbered operations, ∀ e, outcome p = .error e →
      e.fault.isReported = true ∧ e.fault.HasWritableStatus := by
    intro p hp e he
    simp only [operations, numbered, List.zipIdx_cons, List.zipIdx_nil, List.map_cons,
      List.map_nil, List.mem_cons, List.not_mem_nil, or_false] at hp
    subst hp
    cases he
    refine ⟨rfl, ?_⟩
    rintro _ _ ⟨⟩ ⟨⟩
    decide +kernel
  have hc : (ofScript s).registry.resolve (.str "user") =
      .ok ((s.toService "users").toContainer (.int 25)) := rfl
  have hbulk : ((s.toService "users").toContainer (.int 25)).bulk operations =
      ServiceContainer.submit "users" (.int 25) outcome operations [0] := rfl
  have hschedule : operations.length ≤ [0].length := Nat.le_refl 1
  obtain ⟨htotal, hcount⟩ := perform_counts hc hplans
    (by decide) hschedule hbulk fun p hp e he => (herrors p hp e he).1
  obtain ⟨v, hv⟩ := htotal (by simp [deletionOf, Value.isKey]) (by decide)
    fun p hp e he => (herrors p hp e he).2
  rw [hcount v hv] at hv
  exact ⟨hplans, rfl, hv⟩

end Facade

end Docstore
