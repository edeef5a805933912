import Docstore.Proofs.Outcome
import Docstore.Service.Batch
import Mathlib.Data.List.Perm.Basic
import Mathlib.Logic.Relation

/-!
# Batches under every interleaving

A batch proceeds by small steps: the next call starts, if there is room for it, or one of the calls
in flight finishes.  The steps may come in any order, so what holds after every sequence of steps
holds however the service interleaves the calls.

* `Reachable.account` — at every moment the calls that have started are the first of the batch, in
  order and once each; they are in flight or have settled; and the limit is kept.
* `Step.exists_of_not_isOver`, `wellFounded_step` — a batch never gets stuck, and it comes to an
  end.
* `run_reachable`, `run_isOver` — the batch under a schedule proceeds by such steps, and a schedule
  with as many choices as there are operations brings it to its end.
-/

namespace Docstore

/-- The point call that an event tells of, with the name of the store. -/
def Event.pointCall? : Event → Option (String × PointCall)
  | .point store c => some (store, c)
  | _ => none

namespace Batch

/-- The settlement that the call of an operation comes to. -/
def settlement (outcome : Outcomes) (c : Numbered) : Settlement :=
  (settle c.2 (outcome c)).1

/-- A failed operation leaves a log record at most. -/
theorem failureEvents_events {o : Operation} {how : Except Fault String} {e : Event}
    (h : e ∈ failureEvents o how) : ∃ entry, e = .log entry := by
  unfold failureEvents at h
  split at h
  · exact ⟨_, List.mem_singleton.mp h⟩
  · cases h

/-- Settling an operation leaves log records at most. -/
theorem settle_events {o : Operation} {outcome : Except Failure Value} {e : Event}
    (h : e ∈ (settle o outcome).2) : ∃ entry, e = .log entry := by
  unfold settle at h
  split at h
  · cases h
  · split at h
    · exact failureEvents_events h
    · split at h
      · cases h
      · split at h
        · exact failureEvents_events h
        · cases h

theorem settle_pointCalls (o : Operation) (outcome : Except Failure Value) :
    (settle o outcome).2.filterMap Event.pointCall? = [] := by
  refine List.filterMap_eq_nil_iff.mpr fun e he => ?_
  obtain ⟨entry, rfl⟩ := settle_events he
  rfl

section

variable {store : String} {limit : Nat} {outcome : Outcomes} {operations : List Operation}
  {s s' : State}

/-! ## Steps -/

/-- What may happen next in a batch. -/
inductive Step (store : String) (limit : Nat) (outcome : Outcomes) : State → State → Prop
  /-- The next call starts, if there is room for it. -/
  | start (s : State) (hroom : s.running.length < limit) (hwaiting : s.waiting ≠ []) :
      Step store limit outcome s (s.start store (s.running.length + 1))
  /-- A call in flight finishes, whichever it is. -/
  | finish (s : State) (choice : Nat) (hrunning : s.running ≠ []) :
      Step store limit outcome s (s.finish outcome choice)

/-- The states that a batch comes through under some interleaving. -/
def Reachable (store : String) (limit : Nat) (outcome : Outcomes) (operations : List Operation) :
    State → Prop :=
  Relation.ReflTransGen (Step store limit outcome) (State.initial operations)

/-- Whether no call is waiting or in flight. -/
def State.IsOver (s : State) : Prop :=
  s.waiting = [] ∧ s.running = []

/-- Starting with room for one call starts the next one. -/
theorem State.start_next (store : String) {c : Numbered} {rest : List Numbered}
    (h : s.waiting = c :: rest) : s.start store (s.running.length + 1) =
      { s with
        waiting := rest
        running := s.running ++ [c]
        events := s.events ++ [.point store (call c.2)]
        peak := max s.peak (s.running.length + 1) } := by
  have hroom : s.running.length + 1 - s.running.length = 1 := Nat.add_sub_cancel_left _ 1
  simp [State.start, h, hroom]

/-- A call that finishes leaves the calls in flight and settles its operation. -/
theorem State.finish_cases (outcome : Outcomes) (choice : Nat) (h : s.running ≠ []) :
    ∃ before c after, s.running = before ++ c :: after ∧ s.finish outcome choice =
      { s with
        running := before ++ after
        settled := s.settled ++ [(c.1, settlement outcome c)]
        events := s.events ++ (settle c.2 (outcome c)).2 } := by
  have hplace : choice % s.running.length < s.running.length :=
    Nat.mod_lt _ (List.length_pos_iff.mpr h)
  refine ⟨s.running.take (choice % s.running.length), s.running[choice % s.running.length],
    s.running.drop (choice % s.running.length + 1), ?_, ?_⟩
  · rw [List.getElem_cons_drop, List.take_append_drop]
  · simp only [State.finish, List.getElem?_eq_getElem hplace, List.eraseIdx_eq_take_drop_succ,
      settlement]

theorem State.finish_of_running_nil (outcome : Outcomes) (choice : Nat) (h : s.running = []) :
    s.finish outcome choice = s := by
  simp [State.finish, h]

/-! ## What holds at every moment -/

/-- The account of a batch under way, given the calls that have started and those that have
finished. -/
structure Account (store : String) (limit : Nat) (outcome : Outcomes) (operations : List Operation)
    (started finished : List Numbered) (s : State) : Prop where
  /-- Calls start in the order of the operations. -/
  order : started ++ s.waiting = numbered operations
  /-- Each operation that has started was called once, and no other was. -/
  calls : s.events.filterMap Event.pointCall? = started.map fun c => (store, call c.2)
  /-- What has started has finished or is in flight. -/
  apart : started.Perm (finished ++ s.running)
  /-- What has finished has settled, by the outcome of its own call. -/
  settled : s.settled = finished.map fun c => (c.1, settlement outcome c)
  /-- No event tells of the end of a batch. -/
  underway : ∀ name peak, Event.batch name peak ∉ s.events
  running_le : s.running.length ≤ s.peak
  peak_le : s.peak ≤ limit

theorem account_initial (store : String) (limit : Nat) (outcome : Outcomes)
    (operations : List Operation) :
    Account store limit outcome operations [] [] (State.initial operations) :=
  ⟨rfl, rfl, .refl _, rfl, by simp [State.initial], Nat.le_refl 0, Nat.zero_le limit⟩

/-- **A step keeps the account**, of one more call that has started or finished. -/
theorem Account.step {started finished : List Numbered}
    (h : Account store limit outcome operations started finished s)
    (hstep : Step store limit outcome s s') : ∃ started' finished',
      Account store limit outcome operations started' finished' s' := by
  obtain ⟨horder, hcalls, hapart, hsettled, hunderway, hrunning, hpeak⟩ := h
  cases hstep with
  | start hroom hwaiting =>
    obtain ⟨c, rest, hc⟩ := List.exists_cons_of_ne_nil hwaiting
    rw [State.start_next store hc]
    refine ⟨started ++ [c], finished, ?_, ?_, ?_, hsettled, ?_, ?_, ?_⟩
    · rw [← horder, hc, List.append_assoc, List.singleton_append]
    · simp [hcalls, Event.pointCall?]
    · rw [← List.append_assoc]
      exact hapart.append_right [c]
    · simp [hunderway]
    · rw [List.length_append, List.length_singleton]
      exact Nat.le_max_right s.peak _
    · exact Nat.max_le.mpr ⟨hpeak, hroom⟩
  | finish choice hnonempty =>
    obtain ⟨before, c, after, heq, hfinish⟩ := State.finish_cases outcome choice hnonempty
    rw [hfinish]
    rw [heq] at hapart hrunning
    refine ⟨started, finished ++ [c], horder, ?_, ?_, ?_, ?_, ?_, hpeak⟩
    · simp [hcalls, settle_pointCalls]
    · refine hapart.trans ?_
      rw [List.append_assoc, List.singleton_append]
      exact List.perm_middle.append_left finished
    · simp [hsettled]
    · intro name peak hmem
      rcases List.mem_append.mp hmem with hmem | hmem
      · exact hunderway name peak hmem
      · obtain ⟨entry, hentry⟩ := settle_events hmem
        cases hentry
    · simp only [List.length_append, List.length_cons] at hrunning ⊢
      omega

/-- **At every moment the account of a batch is kept.** -/
theorem Reachable.account (h : Reachable store limit outcome operations s) :
    ∃ started finished, Account store limit outcome operations started finished s := by
  induction h with
  | refl => exact ⟨[], [], account_initial store limit outcome operations⟩
  | tail _ hstep ih =>
    obtain ⟨started, finished, haccount⟩ := ih
    exact haccount.step hstep

/-- **No more calls are in flight than the limit allows.** -/
theorem Reachable.running_le (h : Reachable store limit outcome operations s) :
    s.running.length ≤ limit := by
  obtain ⟨started, finished, haccount⟩ := h.account
  exact Nat.le_trans haccount.running_le haccount.peak_le

/-- When a batch is over, all of its calls have started and finished. -/
theorem Account.of_isOver {started finished : List Numbered}
    (h : Account store limit outcome operations started finished s) (hover : s.IsOver) :
    started = numbered operations ∧ finished.Perm (numbered operations) := by
  have hstarted : started = numbered operations := by
    rw [← h.order, hover.1, List.append_nil]
  have hperm := h.apart.symm
  rw [hover.2, List.append_nil, hstarted] at hperm
  exact ⟨hstarted, hperm⟩

/-! ## Progress -/

/-- How many steps are still to come: two for a call that is waiting, one for a call in flight. -/
def State.remaining (s : State) : Nat :=
  2 * s.waiting.length + s.running.length

theorem Step.remaining_eq (h : Step store limit outcome s s') :
    s'.remaining + 1 = s.remaining := by
  cases h with
  | start hroom hwaiting =>
    obtain ⟨c, rest, hc⟩ := List.exists_cons_of_ne_nil hwaiting
    rw [State.start_next store hc]
    simp only [State.remaining, hc, List.length_append, List.length_cons, List.length_nil]
    omega
  | finish choice hnonempty =>
    obtain ⟨before, c, after, heq, hfinish⟩ := State.finish_cases outcome choice hnonempty
    rw [hfinish]
    simp only [State.remaining, heq, List.length_append, List.length_cons]
    omega

/-- **Every interleaving comes to an end.** -/
theorem wellFounded_step (store : String) (limit : Nat) (outcome : Outcomes) :
    WellFounded fun s' s => Step store limit outcome s s' := by
  refine Subrelation.wf ?_ (measure State.remaining).wf
  intro s' s hstep
  have hremaining := hstep.remaining_eq
  exact Nat.lt_of_succ_le (Nat.le_of_eq hremaining)

/-! ## Schedules -/

/-- Starting calls starts the next one first, if there is room for it. -/
theorem State.start_start_next (hroom : s.running.length < limit) (hwaiting : s.waiting ≠ []) :
    (s.start store (s.running.length + 1)).start store limit = s.start store limit := by
  obtain ⟨c, rest, hc⟩ := List.exists_cons_of_ne_nil hwaiting
  have hmore : limit - s.running.length = limit - (s.running.length + 1) + 1 := by omega
  rw [State.start_next store hc]
  simp only [State.start, hmore, hc, List.take_succ_cons, List.drop_succ_cons, List.map_cons,
    List.append_assoc, List.singleton_append, List.length_append, List.length_cons, List.length_nil,
    Nat.zero_add, State.mk.injEq, true_and]
  omega

/-- Where there is no room, or nothing is waiting, no call starts. -/
theorem State.start_eq_self (store : String) (hpeak : s.running.length ≤ s.peak)
    (h : limit ≤ s.running.length ∨ s.waiting = []) : s.start store limit = s := by
  have htake : s.waiting.take (limit - s.running.length) = [] := by
    rcases h with h | h
    · rw [Nat.sub_eq_zero_of_le h, List.take_zero]
    · rw [h, List.take_nil]
  have hdrop : s.waiting.drop (limit - s.running.length) = s.waiting := by
    rcases h with h | h
    · rw [Nat.sub_eq_zero_of_le h, List.drop_zero]
    · rw [h, List.drop_nil]
  simp [State.start, htake, hdrop, Nat.max_eq_left hpeak]

/-- Calls start one by one. -/
theorem State.start_steps {s : State} (hpeak : s.running.length ≤ s.peak) :
    Relation.ReflTransGen (Step store limit outcome) s (s.start store limit) := by
  by_cases h : limit ≤ s.running.length ∨ s.waiting = []
  · rw [State.start_eq_self store hpeak h]
  · obtain ⟨hroom, hwaiting⟩ := not_or.mp h
    rw [Nat.not_le] at hroom
    have hstep : Step store limit outcome s (s.start store (s.running.length + 1)) :=
      .start s hroom hwaiting
    have hremaining := hstep.remaining_eq
    rw [← State.start_start_next hroom hwaiting]
    refine .head hstep (State.start_steps ?_)
    obtain ⟨c, rest, hc⟩ := List.exists_cons_of_ne_nil hwaiting
    rw [State.start_next store hc, List.length_append, List.length_singleton]
    exact Nat.le_max_right s.peak _
termination_by s.remaining
decreasing_by omega

theorem Reachable.start (h : Reachable store limit outcome operations s) :
    Reachable store limit outcome operations (s.start store limit) := by
  obtain ⟨started, finished, haccount⟩ := h.account
  exact h.trans (State.start_steps haccount.running_le)

theorem Reachable.finish (h : Reachable store limit outcome operations s) (choice : Nat) :
    Reachable store limit outcome operations (s.finish outcome choice) := by
  by_cases hrunning : s.running = []
  · rw [State.finish_of_running_nil outcome choice hrunning]
    exact h
  · exact h.tail (.finish s choice hrunning)

/-- **The batch under a schedule is one of the interleavings.** -/
theorem run_reachable (store : String) (limit : Nat) (outcome : Outcomes)
    (operations : List Operation) (schedule : List Nat) :
    Reachable store limit outcome operations (run store limit outcome operations schedule) := by
  have hround : ∀ (choices : List Nat) {s : State}, Reachable store limit outcome operations s →
      Reachable store limit outcome operations
        (choices.foldl (State.round store limit outcome) s) := by
    intro choices
    induction choices with
    | nil => exact fun h => h
    | cons choice rest ih => exact fun h => ih (h.finish choice).start
  exact hround schedule (Reachable.start .refl)

/-! ## The end of a schedule -/

/-- How many operations have not settled. -/
def State.unsettled (s : State) : Nat :=
  s.waiting.length + s.running.length

theorem State.isOver_iff : s.IsOver ↔ s.unsettled = 0 := by
  simp [State.IsOver, State.unsettled]

@[simp] theorem State.unsettled_start (store : String) (limit : Nat) (s : State) :
    (s.start store limit).unsettled = s.unsettled := by
  simp only [State.unsettled, State.start, List.length_drop, List.length_append, List.length_take]
  omega

theorem State.unsettled_finish (outcome : Outcomes) (choice : Nat) (h : s.running ≠ []) :
    (s.finish outcome choice).unsettled + 1 = s.unsettled := by
  obtain ⟨before, c, after, heq, hfinish⟩ := State.finish_cases outcome choice h
  rw [hfinish]
  simp only [State.unsettled, heq, List.length_append, List.length_cons]
  omega

/-- Once calls have started where there is room, none is waiting while none is in flight. -/
theorem State.waiting_start (store : String) (hlimit : 1 ≤ limit)
    (h : (s.start store limit).running = []) : (s.start store limit).waiting = [] := by
  simp only [State.start, List.append_eq_nil_iff, List.take_eq_nil_iff] at h ⊢
  obtain ⟨hrunning, hroom | hwaiting⟩ := h
  · rw [hrunning, List.length_nil] at hroom
    omega
  · rw [hwaiting, List.drop_nil]

/-- **A round settles one operation**, until all have settled. -/
theorem State.unsettled_round (h : s.running = [] → s.waiting = []) (choice : Nat) :
    (s.round store limit outcome choice).unsettled = s.unsettled - 1 := by
  rw [State.round, State.unsettled_start]
  by_cases hrunning : s.running = []
  · rw [State.finish_of_running_nil outcome choice hrunning, State.unsettled, h hrunning, hrunning]
    rfl
  · have hfinish := State.unsettled_finish outcome choice hrunning
    omega

theorem unsettled_run (store : String) (hlimit : 1 ≤ limit) (outcome : Outcomes)
    (operations : List Operation) (schedule : List Nat) :
    (run store limit outcome operations schedule).unsettled =
      operations.length - schedule.length := by
  have hround : ∀ (choices : List Nat) {s : State}, (s.running = [] → s.waiting = []) →
      (choices.foldl (State.round store limit outcome) s).unsettled =
        s.unsettled - choices.length := by
    intro choices
    induction choices with
    | nil => exact fun _ => rfl
    | cons choice rest ih =>
      intro s h
      have hfilled : (s.round store limit outcome choice).running = [] →
          (s.round store limit outcome choice).waiting = [] := State.waiting_start store hlimit
      rw [List.foldl_cons, ih hfilled, State.unsettled_round h, List.length_cons]
      omega
  rw [run, hround schedule (State.waiting_start store hlimit), State.unsettled_start]
  simp [State.unsettled, State.initial, numbered]

/-- **A schedule with as many choices as there are operations** brings a batch to its end. -/
theorem run_isOver (store : String) (hlimit : 1 ≤ limit) (outcome : Outcomes)
    {operations : List Operation} {schedule : List Nat}
    (h : operations.length ≤ schedule.length) :
    (run store limit outcome operations schedule).IsOver := by
  rw [State.isOver_iff, unsettled_run store hlimit]
  omega

/-! ## Limits -/

/-- What is reached within a limit is reached within a higher one. -/
theorem Reachable.mono {more : Nat} (hle : limit ≤ more)
    (h : Reachable store limit outcome operations s) :
    Reachable store more outcome operations s := by
  induction h with
  | refl => exact .refl
  | tail _ hstep ih =>
    refine ih.tail ?_
    cases hstep with
    | start hroom hwaiting => exact .start _ (Nat.lt_of_lt_of_le hroom hle) hwaiting
    | finish choice hrunning => exact .finish _ choice hrunning

end

end Batch

end Docstore
