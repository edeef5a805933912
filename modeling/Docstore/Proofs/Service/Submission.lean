import Docstore.Proofs.Number.ExactValue
import Docstore.Proofs.Run
import Docstore.Proofs.Service.Interleaving
import Docstore.Service.Container

/-!
# What a batch comes to

A batch of point calls comes to the same result in whatever order its calls finish: the statuses of
the operations in their order or, if calls fail for other reasons than the service reports, the
failure of the first of these operations.  Before that, every operation has been called once and has
settled.

* `verdict_eq_error_iff` — of several failures to be raised, that of the first operation is.
* `settlement_eq` — an operation settles with a status, unless its call fails otherwise.
* `Reachable.isSettled` — when a batch is over, whatever the interleaving, every operation has been
  called once and has settled, and the result is that of the outcomes alone.
* `bulkUnder_answers` — a container uses the client's answers to just the calls that it makes.
* `submit_settles_every_operation` — so it is when a container submits a batch, and no more calls
  are in flight than its concurrency allows.
-/

namespace Docstore

/-- Whether a fault is one of the service's or a timeout.  Such a fault becomes a status. -/
def Fault.isReported : Fault → Bool
  | .service _ => true
  | f => f.isTimeout

namespace Batch

/-- The failure that a call leaves to be raised: none if it returns or fails for a reason that the
service reports. -/
def raised? : Except Failure Value → Option Failure
  | .ok _ => none
  | .error e => if e.fault.isReported then none else some e

/-- The status of an operation whose call returns or fails for a reason that the service reports. -/
def status (o : Operation) : Except Failure Value → Value
  | .ok _ => .int o.kind.expectedStatus
  | .error e =>
    if e.fault.isTimeout then .int timeoutStatus
    else match e.fault with
      | .service reason => (reason.status?.map Value.int).getD .null
      | _ => .null

/-- The result of a batch: the failure of the first operation that has one to be raised, or else the
statuses of all operations, each from its own outcome. -/
def verdict (outcome : Outcomes) (operations : List Operation) : Except Failure (List Value) :=
  match (numbered operations).findSome? fun c => raised? (outcome c) with
  | some e => .error e
  | none => .ok ((numbered operations).map fun c => status c.2 (outcome c))

/-- A batch raises a failure exactly if it is that of the first operation that has one. -/
theorem verdict_eq_error_iff {outcome : Outcomes} {operations : List Operation} {e : Failure} :
    verdict outcome operations = .error e ↔ ∃ before c after,
      numbered operations = before ++ c :: after ∧ raised? (outcome c) = some e ∧
      ∀ b ∈ before, raised? (outcome b) = none := by
  rw [← List.findSome?_eq_some_iff, verdict]
  cases (numbered operations).findSome? fun c => raised? (outcome c) <;> simp

/-! ## Settlements -/

/-- **An operation settles with its status**, unless its call leaves a failure to be raised. -/
theorem settlement_eq (outcome : Outcomes) (c : Numbered) : settlement outcome c =
    match raised? (outcome c) with
    | some e => .error e
    | none => .ok (status c.2 (outcome c)) := by
  unfold settlement settle
  cases outcome c with
  | ok v => rfl
  | error e =>
    obtain ⟨fault, cause⟩ := e
    cases fault with
    | service reason =>
      cases reason with
      | response notFound code message =>
        by_cases hcode : code = 408
        · subst hcode
          rfl
        · simp [raised?, status, Fault.isReported, Fault.isTimeout, ServiceError.isTimeout, hcode,
            ServiceError.status?]
      | request timedOut _ _ | answer timedOut _ _ => cases timedOut <;> rfl
      | _ => rfl
    | refusal r => cases r <;> rfl
    | _ => rfl

/-- Settlements come to the failure of the first that has one, or to all statuses. -/
theorem statuses_map_settlement (outcome : Outcomes) (calls : List Numbered) :
    statuses (calls.map (settlement outcome)) =
      match calls.findSome? fun c => raised? (outcome c) with
      | some e => .error e
      | none => .ok (calls.map fun c => status c.2 (outcome c)) := by
  induction calls with
  | nil => rfl
  | cons c rest ih =>
    rw [statuses] at ih ⊢
    rw [List.map_cons, List.mapM_cons, ih, id, settlement_eq, List.findSome?_cons]
    cases raised? (outcome c) with
    | some e => rfl
    | none => cases rest.findSome? fun c => raised? (outcome c) <;> rfl

theorem numbered_numbers (operations : List Operation) :
    (numbered operations).map (·.1) = List.range operations.length := by
  rw [numbered, List.map_map, List.range_eq_range', ← List.zipIdx_map_snd]
  rfl

theorem numbered_operations (operations : List Operation) :
    (numbered operations).map (·.2) = operations := by
  rw [numbered, List.map_map]
  exact List.zipIdx_map_fst 0 operations

/-- What stands under a number, if it stands there only. -/
theorem lookup_of_mem {β : Type} {number : Nat} {b : β} {pairs : List (Nat × β)}
    (hnodup : (pairs.map (·.1)).Nodup) (hmem : (number, b) ∈ pairs) :
    pairs.lookup number = some b := by
  obtain ⟨before, after, rfl⟩ := List.append_of_mem hmem
  refine List.lookup_eq_some_iff.mpr ⟨before, after, rfl, fun pair hpair => ?_⟩
  rw [List.map_append, List.map_cons] at hnodup
  have hne := (List.nodup_append.mp hnodup).2.2 pair.1 (List.mem_map_of_mem hpair) number
    List.mem_cons_self
  exact bne_iff_ne.mpr hne.symm

section

variable {store : String} {limit : Nat} {outcome : Outcomes} {operations : List Operation}
  {s : State}

/-- The settlements of a batch come in the order of its operations, in whatever order they came
about. -/
theorem settlements_of_perm {finished : List Numbered} (hperm : finished.Perm (numbered operations))
    (hsettled : s.settled = finished.map fun c => (c.1, settlement outcome c)) :
    s.settlements operations.length = (numbered operations).map (settlement outcome) := by
  have hnumbers : s.settled.map (·.1) = finished.map (·.1) := by
    rw [hsettled, List.map_map]
    rfl
  have hnodup : (s.settled.map (·.1)).Nodup := by
    rw [hnumbers, (hperm.map (·.1)).nodup_iff, numbered_numbers]
    exact List.nodup_range
  have hlookup : ∀ c ∈ numbered operations, s.settled.lookup c.1 = some (settlement outcome c) := by
    intro c hc
    refine lookup_of_mem hnodup ?_
    rw [hsettled]
    exact List.mem_map.mpr ⟨c, hperm.mem_iff.mpr hc, rfl⟩
  calc s.settlements operations.length
      = (numbered operations).filterMap fun c => s.settled.lookup c.1 := by
        rw [State.settlements, ← numbered_numbers, List.filterMap_map]
        rfl
    _ = (numbered operations).filterMap (some ∘ settlement outcome) :=
        List.filterMap_congr hlookup
    _ = (numbered operations).map (settlement outcome) := by
        rw [List.filterMap_eq_map]

/-! ## The end of a batch -/

/-- What a batch that is over has done and comes to. -/
structure State.IsSettled (store : String) (outcome : Outcomes) (operations : List Operation)
    (s : State) : Prop where
  /-- Each operation was called once, in order, and nothing else was. -/
  calls : s.events.filterMap Event.pointCall? = operations.map fun o => (store, call o)
  /-- Each operation has settled once, by the outcome of its own call. -/
  settled : s.settled.Perm ((numbered operations).map fun c => (c.1, settlement outcome c))
  result : statuses (s.settlements operations.length) = verdict outcome operations

/-- **When a batch is over, all of its operations have been called once and have settled**, in
whatever order its calls have finished. -/
theorem Reachable.isSettled (h : Reachable store limit outcome operations s) (hover : s.IsOver) :
    s.IsSettled store outcome operations := by
  obtain ⟨started, finished, haccount⟩ := h.account
  obtain ⟨rfl, hperm⟩ := haccount.of_isOver hover
  refine ⟨?_, ?_, ?_⟩
  · rw [haccount.calls]
    conv_rhs => rw [← numbered_operations operations, List.map_map]
    rfl
  · rw [haccount.settled]
    exact hperm.map _
  · rw [settlements_of_perm hperm haccount.settled, statuses_map_settlement, verdict]

theorem Reachable.peak_le (h : Reachable store limit outcome operations s) : s.peak ≤ limit := by
  obtain ⟨started, finished, haccount⟩ := h.account
  exact haccount.peak_le

end

end Batch

/-! ## Submitting a batch -/

namespace ServiceContainer

open Batch

/-- The place of a number among those below a count, or the count if it is not there. -/
theorem getD_find?_range (number count : Nat) :
    ((List.range count).find? fun n => decide (number = n)).getD count = min number count := by
  by_cases hlt : number < count
  · have hfound : ((List.range count).find? fun n => decide (number = n)) = some number := by
      rw [List.find?_range_eq_some]
      refine ⟨decide_eq_true rfl, List.mem_range.mpr hlt, fun j hj => ?_⟩
      rw [decide_eq_false hj.ne', Bool.not_false]
    rw [hfound, Option.getD_some, Nat.min_eq_left hlt.le]
  · have hmissing : ((List.range count).find? fun n => decide (number = n)) = none := by
      rw [List.find?_range_eq_none]
      intro n hn
      have hne : number ≠ n := by omega
      rw [decide_eq_false hne, Bool.not_false]
    rw [hmissing, Option.getD_none, Nat.min_eq_right (Nat.not_lt.mp hlt)]

/-- A whole number allows so many calls to be in flight, but no more than there are. -/
theorem roomFor_int (count : Nat) {m : Int} (hm : 0 ≤ m) :
    roomFor count (.int m) = .ok (min m.toNat count) := by
  have hnegative : (Number.exact (.ofInt m)).isNegative = false := by
    rw [Number.isNegative, Exact.ofInt, Exact.ofScaled]
    split
    · rfl
    · exact decide_eq_false (Int.not_lt.mpr hm)
  have hbound : ∀ n : Nat,
      (Number.exact (.ofInt m) == .exact (.ofInt n)) = decide (m.toNat = n) := by
    intro n
    rw [Bool.eq_iff_iff, beq_iff_eq, decide_eq_true_eq, Number.exact.injEq, Exact.ofInt_inj]
    omega
  simp only [roomFor, Value.number?, hnegative, hbound]
  rw [getD_find?_range]
  rfl

/-- What a container logs before it runs a batch. -/
def announcement (operations : List Operation) : Event :=
  .log ⟨.debug, Batch.logger,
    "Submitting bulk batch of " ++ Text.ofNat operations.length ++ " operations"⟩

/-- A batch with operations is run under the schedule, in the room that there is. -/
theorem submit_eq (store : String) {concurrency : Value} (outcome : Outcomes)
    {operations : List Operation} (schedule : List Nat) {room : Nat} (hne : operations ≠ [])
    (hroom : roomFor operations.length concurrency = .ok room) :
    submit store concurrency outcome operations schedule =
      let s := run store room outcome operations schedule
      ⟨(statuses (s.settlements operations.length)).map .list,
        announcement operations :: (s.events ++ [.batch store s.peak])⟩ := by
  have hisEmpty : operations.isEmpty = false := by simpa using hne
  have hexecute := Run.bind_pure (execute store room outcome operations schedule) Value.list
  rw [submit, hisEmpty, hroom]
  -- the room and the log record come before what the execution comes to
  show (⟨(execute store room outcome operations schedule >>=
      fun values => pure (Value.list values)).outcome,
    announcement operations :: (execute store room outcome operations schedule >>=
      fun values => pure (Value.list values)).events⟩ : Run Value) = _
  rw [hexecute]
  rfl

/-- The events of a batch that is over: its calls, once each, and at its end how many calls were in
flight at most. -/
theorem events_of_isOver {store : String} {limit : Nat} {outcome : Outcomes}
    {operations : List Operation} {s : State} (h : Reachable store limit outcome operations s)
    (hover : s.IsOver) :
    let events := announcement operations :: (s.events ++ [.batch store s.peak])
    events.filterMap Event.pointCall? = operations.map (fun o => (store, call o)) ∧
      ∀ peak, Event.batch store peak ∈ events → peak ≤ limit := by
  obtain ⟨started, finished, haccount⟩ := h.account
  constructor
  · rw [List.filterMap_cons_none rfl, List.filterMap_append, (h.isSettled hover).calls]
    exact List.append_nil _
  · intro peak hmem
    rcases List.mem_cons.mp hmem with hannounced | hmem
    · cases hannounced
    · rcases List.mem_append.mp hmem with hmem | hmem
      · exact absurd hmem (haccount.underway store peak)
      · cases List.mem_singleton.mp hmem
        exact h.peak_le

/-- What submitting a batch comes to, under a schedule that lasts to its end: the verdict of the
outcomes, after a run that settles every operation. -/
theorem submit_spec (store : String) {m : Int} (hm : 1 ≤ m) (outcome : Outcomes)
    {operations : List Operation} {schedule : List Nat}
    (hlength : operations.length ≤ schedule.length) :
    let r := submit store (.int m) outcome operations schedule
    r.outcome = (verdict outcome operations).map .list ∧
    r.events.filterMap Event.pointCall? = operations.map (fun o => (store, call o)) ∧
    (∀ peak, Event.batch store peak ∈ r.events → peak ≤ m) ∧
    ∃ s, Reachable store m.toNat outcome operations s ∧ s.IsOver ∧
      s.IsSettled store outcome operations ∧ (operations ≠ [] →
        r.events = announcement operations :: (s.events ++ [.batch store s.peak])) := by
  by_cases hne : operations = []
  · subst hne
    have hreach : Reachable store m.toNat outcome [] (State.initial []) := .refl
    have hover : (State.initial []).IsOver := ⟨rfl, rfl⟩
    refine ⟨rfl, rfl, ?_, State.initial [], hreach, hover, hreach.isSettled hover,
      fun hne => absurd rfl hne⟩
    intro peak hmem
    cases hmem
  · have hroom := roomFor_int operations.length (le_trans zero_le_one hm)
    have hcount := List.length_pos_iff.mpr hne
    have hone : 1 ≤ min m.toNat operations.length := by omega
    have hreach := run_reachable store (min m.toNat operations.length) outcome operations schedule
    have hover := run_isOver store hone outcome hlength
    obtain ⟨hcalls, hpeak⟩ := events_of_isOver hreach hover
    intro r
    have hr : r = _ := submit_eq store outcome schedule hne hroom
    rw [hr]
    have hsettled := hreach.isSettled hover
    refine ⟨?_, hcalls, ?_, _, hreach.mono (Nat.min_le_left ..), hover, hsettled, fun _ => rfl⟩
    · exact congrArg (Except.map Value.list) hsettled.result
    · intro peak hmem
      have hle := hpeak peak hmem
      omega

/-- **A batch of a container uses the client's answers to just the calls that it makes.**  For each
operation one point call is recorded, and the batch comes to the verdict of what the client answers
to these calls. -/
theorem bulkUnder_answers (c : ServiceContainer) {m : Int} (hm : 1 ≤ m)
    {schedule : List Operation → List Nat} {operations : List Operation}
    (hlength : operations.length ≤ (schedule operations).length) :
    let r := c.bulkUnder (.int m) schedule operations
    r.events.filterMap Event.pointCall? = operations.map (fun o => (c.name, call o)) ∧
      r.outcome = (verdict (fun p => c.answer (call p.2)) operations).map .list := by
  obtain ⟨hresult, hcalls, -⟩ :=
    submit_spec c.name hm (fun p : Numbered => c.pointCall p.2) hlength
  exact ⟨hcalls, hresult⟩

end ServiceContainer

end Docstore
