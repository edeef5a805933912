import Docstore.Bulk.Tally
import Docstore.Proofs.Number.ExactValue
import Docstore.Proofs.Outcome

/-!
# What a tally counts

A tally enters the operations of a batch one after the other, each with the status at its own place.
The operations that succeeded are exactly those whose status is the expected one, in the order of
the batch.

* `Tally.enter_succeeded` — the keys that entering operations adds to those that succeeded.
* `Tally.enter_total` — operations with keys that can be told apart are all entered.
* `Tally.exists_statusTexts_iff` — when the statuses of failures can be put into words.
* `Tally.reduce_outcome` — the tally of a batch is that of its statuses.
* `Tally.reduce_list` — the tally of a batch whose statuses are a list.
-/

namespace Docstore.Tally

variable {S : Statuses} {σ : Nat → Value} {operations : List Operation} {t t' : Tally}

/-- Whether a status is the expected one of a kind. -/
def isDone (kind : WriteKind) (status : Value) : Bool :=
  status.compare (.int kind.expectedStatus) == .equal

theorem isExpected_eq_ok {kind : WriteKind} {status : Value} {b : Bool}
    (h : isExpected kind status = .ok b) : isDone kind status = b := by
  unfold isExpected at h
  unfold isDone
  split at h <;> cases h <;> simp_all

theorem isExpected_of_not_refused {kind : WriteKind} {status : Value}
    (h : status.compare (.int kind.expectedStatus) ≠ .refused) :
    isExpected kind status = .ok (isDone kind status) := by
  unfold isExpected isDone
  split <;> simp_all

/-- A number is the expected status of a kind if it is that status. -/
theorem compare_int (m n : Int) : (Value.int m).compare (.int n) = .ofBool (decide (m = n)) := by
  have hbeq : (Number.exact (.ofInt m) == .exact (.ofInt n)) = decide (m = n) := by
    rw [Bool.eq_iff_iff, beq_iff_eq, decide_eq_true_eq, Number.exact.injEq, Exact.ofInt_inj]
  simp only [Value.compare, Value.compareAtoms, Value.number?, Number.compare, hbeq]

/-- A number can be compared with a status. -/
theorem compare_int_not_refused (m n : Int) : (Value.int m).compare (.int n) ≠ .refused := by
  rw [compare_int]
  cases decide (m = n) <;> decide

/-- Nothing can be compared with a status. -/
theorem compare_null_not_refused (n : Int) : Value.null.compare (.int n) ≠ .refused := by
  simp [Value.compare, Value.compareAtoms, Value.number?, Value.text?]

theorem isDone_int (kind : WriteKind) (n : Int) :
    isDone kind (.int n) = decide (n = kind.expectedStatus) := by
  unfold isDone
  rw [compare_int]
  by_cases h : n = kind.expectedStatus <;> simp [h, Verdict.ofBool]

theorem isDone_null (kind : WriteKind) : isDone kind .null = false := by
  simp [isDone, Value.compare, Value.compareAtoms, Value.number?, Value.text?]

/-- The operations, from a place on, whose status is the expected one. -/
def done (σ : Nat → Value) (place : Nat) (operations : List Operation) : List Operation :=
  ((operations.zipIdx place).filter fun p => isDone p.1.kind (σ p.2)).map (·.1)

theorem done_cons (σ : Nat → Value) (place : Nat) (o : Operation) (rest : List Operation) :
    done σ place (o :: rest) =
      if isDone o.kind (σ place) then o :: done σ (place + 1) rest else done σ (place + 1) rest := by
  unfold done
  rw [List.zipIdx_cons, List.filter_cons]
  split <;> rfl

/-- **What entering operations adds to those that succeeded**: the keys of those whose status is the
expected one, in order. -/
theorem enter_succeeded (hσ : ∀ i s, S.get i = .ok s → s = σ i) :
    ∀ {operations : List Operation} {t : Tally} {place : Nat},
      enter S t place operations = .ok t' →
      t'.succeeded = t.succeeded ++ (done σ place operations).map (·.documentKey)
  | [], t, place, h => by
    cases h
    exact (List.append_nil _).symm
  | o :: rest, t, place, h => by
    rw [enter] at h
    obtain ⟨status, hstatus, h⟩ := bind_eq_ok.mp h
    obtain ⟨expected, hexpected, h⟩ := bind_eq_ok.mp h
    have hdone := isExpected_eq_ok hexpected
    rw [hσ place status hstatus] at hdone
    rw [done_cons, hdone]
    cases expected with
    | true =>
      rw [if_pos rfl] at h
      rw [enter_succeeded hσ h, if_pos rfl, List.map_cons, List.append_assoc]
      rfl
    | false =>
      rw [if_neg Bool.false_ne_true] at h
      rw [if_neg Bool.false_ne_true]
      -- a failure leaves those that succeeded as they were
      split at h
      · have hrest := enter_succeeded hσ h
        exact hrest
      · cases h

/-- **Operations are all entered** if every status can be had and compared, and every key can be
told from others. -/
theorem enter_total
    (hcompare : ∀ i kind, (σ i).compare (.int (WriteKind.expectedStatus kind)) ≠ .refused) :
    ∀ {operations : List Operation}, (∀ o ∈ operations, o.documentKey.isKey = true) →
      ∀ (t : Tally) (place : Nat), (∀ i < place + operations.length, S.get i = .ok (σ i)) →
      ∃ t', enter S t place operations = .ok t'
  | [], _, t, _, _ => ⟨t, rfl⟩
  | o :: rest, hkeys, t, place, hσ => by
    have hrest : ∀ t, ∃ t', enter S t (place + 1) rest = .ok t' := by
      refine fun t => enter_total hcompare (fun p hp => hkeys p (List.mem_cons_of_mem o hp)) t _ ?_
      exact fun i hi => hσ i (by simp only [List.length_cons]; omega)
    rw [enter, hσ place (by simp)]
    dsimp only [bind, Except.bind]
    rw [isExpected_of_not_refused (hcompare place o.kind)]
    dsimp only
    split
    · exact hrest _
    · rw [if_pos (hkeys o List.mem_cons_self)]
      exact hrest _

/-! ## The words about failures -/

/-- The statuses of failures can be put into words. -/
def HasWords (t : Tally) : Prop :=
  ∀ e ∈ t.failed, e.2.isWritable = true

/-- The texts of statuses can be made exactly if each status can be written. -/
theorem exists_statusTexts_iff : (∃ texts, t.statusTexts = .ok texts) ↔ t.HasWords := by
  have htexts : (∃ texts, t.statusTexts = .ok texts) ↔
      ∃ texts, t.failed.mapM (fun e => e.2.plainText) = .ok texts := by
    unfold statusTexts
    cases t.failed.mapM fun e => e.2.plainText <;> simp [bind, Except.bind, pure, Except.pure]
  rw [htexts, HasWords]
  generalize t.failed = failed
  induction failed with
  | nil => simp [pure, Except.pure]
  | cons e rest ih =>
    simp only [List.forall_mem_cons, ← ih, List.mapM_cons]
    cases hwritable : e.2.isWritable with
    | false =>
      rw [Value.plainText_eq_error.mpr ⟨hwritable, rfl⟩]
      simp [bind, Except.bind]
    | true =>
      rw [Value.plainText_eq_ok.mpr ⟨hwritable, rfl⟩]
      cases rest.mapM fun e => e.2.plainText <;> simp [bind, Except.bind, pure, Except.pure]

/-- What remains of a batch when its operations are entered: to put its failures into words. -/
theorem outcome_of_warning (operations : List Operation) (t : Tally) :
    (do
      if !t.failed.isEmpty then
        let words ← Run.of (failureMessage operations t)
        Run.log .warning logger words
      return t : Run Tally).outcome =
        (t.statusTexts.map fun _ => t).mapError fun e => ⟨e, none⟩ := by
  cases hfailed : t.failed with
  | nil =>
    have htexts : t.statusTexts = .ok (Refusal.ascending [].eraseDups) := by
      rw [statusTexts, hfailed]
      rfl
    rw [htexts]
    rfl
  | cons e rest =>
    simp only [List.isEmpty_cons, Bool.not_false, if_true]
    unfold failureMessage
    cases t.statusTexts <;> rfl

/-- **The tally of a batch** is that of its statuses, provided that those of its failures can be put
into words; log records change nothing else. -/
theorem reduce_outcome (operations : List Operation) (statuses : Value) :
    (reduce operations statuses).outcome =
      ((statusesOf statuses >>= fun S => enter S {} 0 operations) >>= fun t =>
        t.statusTexts.map fun _ => t).mapError fun e => ⟨e, none⟩ := by
  unfold reduce
  cases statusesOf statuses with
  | error e => rfl
  | ok S =>
    have htally : (do
        let t ← Run.of (enter S {} 0 operations)
        if !t.failed.isEmpty then
          let words ← Run.of (failureMessage operations t)
          Run.log .warning logger words
        return t : Run Tally).outcome =
          (enter S {} 0 operations >>= fun t => t.statusTexts.map fun _ => t).mapError
            fun e => ⟨e, none⟩ := by
      cases enter S {} 0 operations with
      | error e => rfl
      | ok t =>
        refine Eq.trans ?_ (outcome_of_warning operations t)
        rfl
    dsimp only [Run.of, Except.mapError]
    rw [Run.bind_ok]
    split
    · exact htally
    · exact htally

/-! ## Lists of statuses -/

variable {items : List Value}

/-- The status that a list has for a place; nothing beyond its end. -/
def statusAt (items : List Value) (place : Nat) : Value :=
  items.getD place .null

/-- The statuses that a list reports. -/
def ofList (items : List Value) : Statuses :=
  ⟨items.length, fun place => (Value.list items).part (.int place)⟩

theorem statusesOf_list (items : List Value) : statusesOf (.list items) = .ok (ofList items) := rfl

/-- The item of a list at a place that is within reach. -/
theorem itemAt_list {place : Nat} (h : place < items.length) :
    Value.itemAt .list items place =
      if 2 ^ 63 ≤ place then .error .placeTooLarge else .ok (statusAt items place) := by
  have hlimit : Int.pow 2 63 = 9223372036854775808 := by decide
  unfold Value.itemAt statusAt
  rw [hlimit]
  by_cases hlarge : 2 ^ 63 ≤ place
  · rw [if_pos (by omega), if_pos hlarge]
  · rw [if_neg (by omega), if_neg (by omega), if_neg hlarge]
    simp [h]

theorem get_ofList (items : List Value) (place : Nat) : (ofList items).get place =
    if place < items.length ∧ 2 ^ 63 ≤ place then .error .placeTooLarge
    else .ok (statusAt items place) := by
  have hget : (ofList items).get place =
      if place < items.length then (ofList items).part place else .ok .null := rfl
  rw [hget]
  by_cases h : place < items.length
  · have hpart : (ofList items).part place = Value.itemAt .list items place := rfl
    rw [if_pos h, hpart, itemAt_list h]
    simp [h]
  · have hnone : statusAt items place = .null := by simp [statusAt, Nat.not_lt.mp h]
    rw [if_neg h, if_neg fun hboth => h hboth.1, hnone]

theorem eq_statusAt_of_get {place : Nat} {status : Value}
    (h : (ofList items).get place = .ok status) : status = statusAt items place := by
  rw [get_ofList] at h
  split at h <;> cases h
  rfl

theorem reduce_list_eq_ok : (reduce operations (.list items)).outcome = .ok t ↔
    enter (ofList items) {} 0 operations = .ok t ∧ t.HasWords := by
  have hresult : (reduce operations (.list items)).outcome =
      (enter (ofList items) {} 0 operations >>= fun t => t.statusTexts.map fun _ => t).mapError
        fun e => ⟨e, none⟩ := reduce_outcome _ _
  rw [hresult, mapError_eq_ok, bind_eq_ok]
  constructor
  · rintro ⟨t', henter, hwords⟩
    obtain ⟨texts, htexts, rfl⟩ := map_eq_ok.mp hwords
    exact ⟨henter, exists_statusTexts_iff.mp ⟨texts, htexts⟩⟩
  · rintro ⟨henter, hwords⟩
    obtain ⟨texts, htexts⟩ := exists_statusTexts_iff.mpr hwords
    exact ⟨t, henter, map_eq_ok.mpr ⟨texts, htexts, rfl⟩⟩

/-- **The tally of a batch whose statuses are a list**: the operations whose status, at their own
place, is the expected one. -/
theorem reduce_list (h : (reduce operations (.list items)).outcome = .ok t) :
    t.succeeded = (done (statusAt items) 0 operations).map (·.documentKey) :=
  enter_succeeded (fun _ _ => eq_statusAt_of_get) (reduce_list_eq_ok.mp h).1

theorem successCount_of_reduce (h : (reduce operations (.list items)).outcome = .ok t) :
    t.successCount = (done (statusAt items) 0 operations).length := by
  rw [successCount, reduce_list h, List.length_map]

/-- How many operations of one kind have the expected status, counted by their places. -/
theorem done_length {kind : WriteKind} (hkind : ∀ o ∈ operations, o.kind = kind)
    (σ : Nat → Value) :
    (done σ 0 operations).length =
      (List.range operations.length).countP fun i => isDone kind (σ i) := by
  have hplace : ∀ p ∈ operations.zipIdx, isDone p.1.kind (σ p.2) = isDone kind (σ p.2) := by
    intro p hp
    rw [hkind p.1 (List.fst_mem_of_mem_zipIdx hp)]
  calc (done σ 0 operations).length
      = operations.zipIdx.countP fun p => isDone kind (σ p.2) := by
        rw [done, List.length_map, ← List.countP_eq_length_filter]
        exact List.countP_congr fun p hp => by rw [hplace p hp]
    _ = (operations.zipIdx.map Prod.snd).countP fun i => isDone kind (σ i) := by
        rw [List.countP_map]
        rfl
    _ = (List.range operations.length).countP fun i => isDone kind (σ i) := by
        rw [List.zipIdx_map_snd, List.range_eq_range']

end Docstore.Tally
