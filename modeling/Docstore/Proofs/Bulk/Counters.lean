import Docstore.Proofs.Bulk.Accounting
import Docstore.Proofs.Json.ScalarText

/-!
# Two ways of counting successes

A tally counts the operations of a batch whose status is the expected one; the statuses alone can be
counted too, if the batch is of one kind.  Both come to the same number, however many statuses there
are: those beyond the batch are not looked at by the one, and missing ones are no successes.  A
batch went through in part exactly if some but not all of its operations succeeded, even where
failures with the same key make one entry.

* `countSuccesses_list` — what counting a list of statuses gives.
* `isPartial_iff` — a tally is partial exactly if some but not all operations succeeded.
* `counters_agree` — the two counters agree.
-/

namespace Docstore.Tally

variable {kind : WriteKind} {operations : List Operation} {items : List Value} {t : Tally}

/-- **What counting a list of statuses gives**: how many are the expected one of a kind. -/
theorem countSuccesses_list
    (h : ∀ s ∈ items, s.compare (.int kind.expectedStatus) ≠ .refused) :
    countSuccesses kind (.list items) = .ok (items.countP (isDone kind)) := by
  have hexpected : items.mapM (isExpected kind) = .ok (items.map (isDone kind)) := by
    rw [mapM_eq_ok, List.forall₂_map_right_iff, List.forall₂_same]
    exact fun s hs => isExpected_of_not_refused (h s hs)
  have hcount : countSuccesses kind (.list items) =
      items.mapM (isExpected kind) >>= fun expected => .ok (expected.filter id).length := rfl
  refine hcount.trans (bind_eq_ok.mpr ⟨_, hexpected, ?_⟩)
  rw [← List.countP_eq_length_filter, List.countP_map]
  rfl

/-- Items counted by their places, where what stands beyond them does not count. -/
theorem countP_range_getD {α : Type} (p : α → Bool) {d : α} (hd : p d = false) :
    ∀ (n : Nat) (xs : List α),
      ((List.range n).countP fun i => p (xs.getD i d)) = (xs.take n).countP p
  | 0, xs => by simp
  | n + 1, [] => by simp [hd]
  | n + 1, x :: xs => by
    rw [List.range_succ_eq_map, List.countP_cons, List.countP_map, List.take_succ_cons,
      List.countP_cons, ← countP_range_getD p hd n xs]
    rfl

/-- The operations of a batch of one kind that succeed are as many as the expected statuses among
those at its places. -/
theorem done_length_eq_countP (hkind : ∀ o ∈ operations, o.kind = kind) (items : List Value) :
    (done (statusAt items) 0 operations).length =
      (items.take operations.length).countP (isDone kind) := by
  rw [done_length hkind]
  exact countP_range_getD (isDone kind) (isDone_null kind) operations.length items

/-! ## Batches that went through in part -/

theorem addFailures_ne_nil : ∀ {failures entries : List (Value × Value)},
    entries ≠ [] → addFailures entries failures ≠ []
  | [], _, h => h
  | f :: rest, entries, _ => by
    have hstep := Value.insert_ne_nil f.1 f.2 entries
    exact @addFailures_ne_nil rest _ hstep

/-- Failures make entries, however many of them have the same key. -/
theorem addFailures_eq_nil_iff {failures : List (Value × Value)} :
    addFailures [] failures = [] ↔ failures = [] := by
  cases failures with
  | nil => exact Iff.rfl
  | cons f rest =>
    have hne : addFailures [] (f :: rest) ≠ [] :=
      @addFailures_ne_nil rest _ (Value.insert_ne_nil f.1 f.2 [])
    exact iff_of_false hne (List.cons_ne_nil f rest)

/-- **A tally is partial exactly if some but not all operations succeeded.** -/
theorem isPartial_iff (h : (reduce operations (.list items)).outcome = .ok t) :
    t.isPartial = true ↔ 0 < t.successCount ∧ t.successCount < operations.length := by
  have hsplit := done_length_add_failing_length (statusAt items) 0 operations
  have hdone := successCount_of_reduce h
  have hfailed : t.failed = [] ↔ (failing (statusAt items) 0 operations).length = 0 := by
    rw [reduce_failures h, kept, addFailures_eq_nil_iff, List.length_eq_zero_iff]
  have hpartial : t.isPartial = true ↔ t.failed ≠ [] ∧ 0 < t.successCount := by
    simp [isPartial]
  rw [hpartial, ne_eq, hfailed]
  omega

/-- **The two counters agree.**  A batch of one kind is tallied if its keys can be told from others,
the statuses at its places can be compared, and those that stand for failures can be written.  The
tally counts as many successes as there are expected statuses at these places; that many the
statuses have in all if they are no more than the operations.  Further statuses change nothing in
the tally, and it is partial exactly if some but not all operations succeeded. -/
theorem counters_agree (hkind : ∀ o ∈ operations, o.kind = kind)
    (hkeys : ∀ o ∈ operations, o.documentKey.isKey = true) (hlength : operations.length ≤ 2 ^ 63)
    (hcompare : ∀ s ∈ items.take operations.length,
      s.compare (.int kind.expectedStatus) ≠ .refused)
    (hwords : ∀ e ∈ kept (statusAt items) operations, e.2.isWritable = true) :
    ∃ t, (reduce operations (.list items)).outcome = .ok t ∧
      countSuccesses kind (.list (items.take operations.length)) = .ok t.successCount ∧
      (items.length ≤ operations.length →
        countSuccesses kind (.list items) = .ok t.successCount) ∧
      (operations.length ≤ items.length → ∀ more : List Value,
        (reduce operations (.list (items ++ more))).outcome = .ok t) ∧
      (t.isPartial = true ↔ 0 < t.successCount ∧ t.successCount < operations.length) := by
  have hquiet : ∀ s ∈ items.take operations.length, s.number? ≠ some .signaling := by
    intro s hs
    rw [ne_eq, ← compare_int_eq_refused_iff]
    exact hcompare s hs
  obtain ⟨t, ht⟩ := (reduce_list_ok_iff hlength hkeys).mpr ⟨hquiet, hwords⟩
  have hcount :
      countSuccesses kind (.list (items.take operations.length)) = .ok t.successCount := by
    rw [countSuccesses_list hcompare, successCount_of_reduce ht, done_length_eq_countP hkind]
  refine ⟨t, ht, hcount, fun hle => ?_, fun hle more => ?_, isPartial_iff ht⟩
  · rwa [List.take_of_length_le hle] at hcount
  · rw [← reduce_take, List.take_append_of_le_length hle, reduce_take]
    exact ht

/-- Three deletions, two of them of one identifier, with a status that is expected and a text.  One
success is counted, and the tally is partial. -/
theorem counters_agree_on_three_deletions :
    let operations := [deletionFrom "p" "a", deletionFrom "q" "a", deletionFrom "q" "b"]
    let items : List Value := [.int 204, .str "204"]
    ∃ t, (reduce operations (.list items)).outcome = .ok t ∧
      countSuccesses .delete (.list items) = .ok t.successCount ∧
      t.successCount = 1 ∧ t.isPartial = true := by
  intro operations items
  have htext : (Value.str "204").compare (.int 204) = .different := by
    simp [Value.compare, Value.compareAtoms, Value.number?, Value.text?]
  have hdone : isDone .delete (.str "204") = false := by
    simp [isDone, WriteKind.expectedStatus, htext]
  have hcompare : ∀ s ∈ items, s.compare (.int (WriteKind.expectedStatus .delete)) ≠ .refused := by
    simp [items, WriteKind.expectedStatus, compare_int_not_refused, htext]
  have hkept : kept (statusAt items) operations = [(.str "a", .str "204"), (.str "b", .null)] := by
    simp [kept, addFailures, Value.insert, failing, items, operations, deletionFrom, statusAt,
      isDone_int, isDone_null, hdone, WriteKind.expectedStatus]
  obtain ⟨t, ht, -, hcount, -, hpartial⟩ := @counters_agree .delete operations items
    (by simp [operations, deletionFrom]) (by simp [operations, deletionFrom, Value.isKey])
    (by simp [operations]) hcompare (by simp [hkept, Value.isWritable])
  have hshort := hcount (by simp [operations, items])
  have hone : t.successCount = 1 := by
    rw [countSuccesses_list hcompare] at hshort
    rw [← Except.ok.inj hshort]
    simp [items, isDone_int, hdone, WriteKind.expectedStatus]
  exact ⟨t, ht, hshort, hone, hpartial.mpr (by simp [hone, operations])⟩

/-- A deletion whose status is an integer of 4301 digits fails, and its status cannot be put into
words; one whose status is a signaling number cannot be judged.  Neither gives a tally, and for the
first the statuses alone count no success. -/
theorem unwritable_status_gives_no_tally :
    (∀ t, (reduce [deletionFrom "p" "a"] (.list [.int (10 ^ Text.maxDigits)])).outcome ≠ .ok t) ∧
      countSuccesses .delete (.list [.int (10 ^ Text.maxDigits)]) = .ok 0 ∧
      ∀ t, (reduce [deletionFrom "p" "a"]
        (.list [.decimal (.nan false true 0) 0])).outcome ≠ .ok t := by
  have hone : ∀ t items, (reduce [deletionFrom "p" "a"] (.list items)).outcome = .ok t →
      (∀ s ∈ items.take 1, s.number? ≠ some .signaling) ∧
        ∀ e ∈ kept (statusAt items) [deletionFrom "p" "a"], e.2.isWritable = true :=
    fun t _ ht => (reduce_list_ok_iff (by simp) (by simp [deletionFrom, Value.isKey])).mp ⟨t, ht⟩
  have hlong : (Value.int (10 ^ Text.maxDigits)).isWritable = false := Json.isWritable_bound
  have hfailed : isDone .delete (.int (10 ^ Text.maxDigits)) = false := by
    rw [isDone_int]
    exact decide_eq_false (by rw [WriteKind.expectedStatus, Text.maxDigits]; omega)
  have hkept : kept (statusAt [.int (10 ^ Text.maxDigits)]) [deletionFrom "p" "a"] =
      [(.str "a", .int (10 ^ Text.maxDigits))] := by
    simp [kept, addFailures, Value.insert, failing, deletionFrom, statusAt, hfailed]
  refine ⟨fun t ht => ?_, ?_, fun t ht => ?_⟩
  · have hwritable := (hone t _ ht).2
    rw [hkept] at hwritable
    exact absurd (hwritable _ List.mem_cons_self) (by simp [hlong])
  · rw [countSuccesses_list (by simp [compare_int_not_refused]), List.countP_singleton, hfailed]
    rfl
  · exact (hone t _ ht).1 (.decimal (.nan false true 0) 0) List.mem_cons_self rfl

end Docstore.Tally
