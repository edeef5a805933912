import Docstore.Proofs.Bulk.Tally
import Docstore.Proofs.Value.Comparison
import Docstore.Proofs.Value.Record

/-!
# What a tally accounts for

Every operation of a batch succeeds or fails by the status at its own place.  Those that succeed are
listed by the keys of their documents.  Those that fail are entered under these keys, and of several
failures with the same key the last status stands.  The statuses that stand are put into words.  So
a tally accounts for every operation exactly if no two failures have the same key.

* `enter_failures` — the failures that entering operations leaves.
* `pairwise_isApart_iff` — failures are entered apart exactly if no two of them have the same key.
* `reduce_list_ok_iff` — a batch is tallied exactly if no status at one of its places is a signaling
  number and those that stand for failures can be written.
* `accountsFor_iff` — when a tally accounts for every operation of a batch.
-/

namespace Docstore.Tally

variable {S : Statuses} {σ : Nat → Value} {operations : List Operation} {items : List Value}
  {t t' : Tally} {key status : Value} {entries failures : List (Value × Value)}

/-- The keys of the operations, from a place on, whose status is not the expected one, each with its
status. -/
def failing (σ : Nat → Value) (place : Nat) (operations : List Operation) : List (Value × Value) :=
  ((operations.zipIdx place).filter fun p => !isDone p.1.kind (σ p.2)).map
    fun p => (p.1.documentKey, σ p.2)

theorem failing_cons (σ : Nat → Value) (place : Nat) (o : Operation) (rest : List Operation) :
    failing σ place (o :: rest) =
      if isDone o.kind (σ place) then failing σ (place + 1) rest
      else (o.documentKey, σ place) :: failing σ (place + 1) rest := by
  unfold failing
  rw [List.zipIdx_cons, List.filter_cons]
  cases isDone o.kind (σ place) <;> rfl

/-- A failure has the key of an operation and the status at its place. -/
theorem exists_of_mem_failing {f : Value × Value} (hf : f ∈ failing σ 0 operations) :
    ∃ i, ∃ h : i < operations.length, f = (operations[i].documentKey, σ i) := by
  obtain ⟨p, hp, rfl⟩ := List.mem_map.mp hf
  obtain ⟨o, i⟩ := p
  obtain ⟨hi, rfl⟩ := List.getElem?_eq_some_iff.mp
    (List.mk_mem_zipIdx_iff_getElem?.mp (List.mem_filter.mp hp).1)
  exact ⟨i, hi, rfl⟩

/-- Every operation succeeds or fails. -/
theorem done_length_add_failing_length (σ : Nat → Value) :
    ∀ (place : Nat) (operations : List Operation),
      (done σ place operations).length + (failing σ place operations).length = operations.length
  | _, [] => rfl
  | place, o :: rest => by
    have hrest := done_length_add_failing_length σ (place + 1) rest
    rw [done_cons, failing_cons, List.length_cons]
    split
    · rw [List.length_cons]
      omega
    · rw [List.length_cons]
      omega

/-! ## Entering failures -/

/-- Two failures whose keys are not the same, the earlier one first. -/
def IsApart (e f : Value × Value) : Prop :=
  e.1.isEqual f.1 = false

/-- Failures entered one after the other. -/
def addFailures (entries failures : List (Value × Value)) : List (Value × Value) :=
  failures.foldl (fun acc (key, status) => Value.insert key status acc) entries

/-- The failures of a batch, of those with the same key the last one. -/
def kept (σ : Nat → Value) (operations : List Operation) : List (Value × Value) :=
  addFailures [] (failing σ 0 operations)

/-- A failure with a new key comes at the end. -/
theorem insert_of_new (h : ∀ e ∈ entries, IsApart e (key, status)) :
    Value.insert key status entries = entries ++ [(key, status)] := by
  induction entries with
  | nil => rfl
  | cons e rest ih =>
    have hfirst : e.1.isEqual key = false := h e List.mem_cons_self
    rw [Value.insert, hfirst, if_neg Bool.false_ne_true,
      ih fun d hd => h d (List.mem_cons_of_mem e hd), List.cons_append]

/-- A failure with the key of an entry adds none. -/
theorem length_insert_of_known (h : ∃ e ∈ entries, ¬IsApart e (key, status)) :
    (Value.insert key status entries).length = entries.length := by
  induction entries with
  | nil =>
    obtain ⟨e, he, -⟩ := h
    cases he
  | cons e rest ih =>
    rw [Value.insert]
    by_cases hfirst : e.1.isEqual key = true
    · rw [if_pos hfirst, List.length_cons, List.length_cons]
    · obtain ⟨d, hd, hknown⟩ := h
      have hrest : d ∈ rest := by
        rcases List.mem_cons.mp hd with rfl | hd
        · exact absurd (Bool.eq_false_of_not_eq_true hfirst) hknown
        · exact hd
      rw [if_neg hfirst, List.length_cons, ih ⟨d, hrest, hknown⟩, List.length_cons]

/-- The step of a run: a failure is one entry more, unless its key is that of an entry. -/
theorem insert_cases (entries : List (Value × Value)) (f : Value × Value) :
    ((∀ e ∈ entries, IsApart e f) ∧ Value.insert f.1 f.2 entries = entries ++ [f]) ∨
      (Value.insert f.1 f.2 entries).length = entries.length := by
  by_cases hnew : ∀ e ∈ entries, IsApart e f
  · exact .inl ⟨hnew, insert_of_new hnew⟩
  · refine .inr (length_insert_of_known ?_)
    simpa only [not_forall, exists_prop] using hnew

/-- What stands after a failure is entered is the status of this failure or stood before. -/
theorem status_of_mem_insert {e : Value × Value} (he : e ∈ Value.insert key status entries) :
    e.2 = status ∨ ∃ d ∈ entries, e.2 = d.2 := by
  induction entries with
  | nil =>
    rw [List.mem_singleton.mp he]
    exact .inl rfl
  | cons d rest ih =>
    rw [Value.insert] at he
    split at he
    · rcases List.mem_cons.mp he with rfl | he
      · exact .inl rfl
      · exact .inr ⟨e, List.mem_cons_of_mem d he, rfl⟩
    · rcases List.mem_cons.mp he with rfl | he
      · exact .inr ⟨_, List.mem_cons_self, rfl⟩
      · refine (ih he).imp_right ?_
        rintro ⟨c, hc, hstatus⟩
        exact ⟨c, List.mem_cons_of_mem d hc, hstatus⟩

/-- What stands in the end is the status of one of the failures, or stood before. -/
theorem status_of_mem_addFailures : ∀ {failures entries : List (Value × Value)} {e : Value × Value},
    e ∈ addFailures entries failures → ∃ d ∈ entries ++ failures, e.2 = d.2
  | [], entries, e, he => ⟨e, List.mem_append_left [] he, rfl⟩
  | f :: rest, entries, e, he => by
    obtain ⟨d, hd, hstatus⟩ :=
      @status_of_mem_addFailures rest (Value.insert f.1 f.2 entries) e he
    rw [hstatus]
    rcases List.mem_append.mp hd with hd | hd
    · rcases status_of_mem_insert hd with heq | ⟨c, hc, heq⟩
      · exact ⟨f, List.mem_append_right entries List.mem_cons_self, heq⟩
      · exact ⟨c, List.mem_append_left (f :: rest) hc, heq⟩
    · exact ⟨d, List.mem_append_right entries (List.mem_cons_of_mem f hd), rfl⟩

/-- A status that stands for a failure is the status at the place of an operation. -/
theorem exists_of_mem_kept {e : Value × Value} (he : e ∈ kept σ operations) :
    ∃ i < operations.length, e.2 = σ i := by
  obtain ⟨f, hf, hstatus⟩ := status_of_mem_addFailures he
  obtain ⟨i, hi, rfl⟩ := exists_of_mem_failing hf
  exact ⟨i, hi, hstatus⟩

theorem length_addFailures_le (failures : List (Value × Value)) :
    ∀ entries : List (Value × Value),
      (addFailures entries failures).length ≤ entries.length + failures.length := by
  induction failures with
  | nil => exact fun entries => Nat.le_refl _
  | cons f rest ih =>
    intro entries
    have hrun := ih (Value.insert f.1 f.2 entries)
    have hsplit : addFailures entries (f :: rest) =
      addFailures (Value.insert f.1 f.2 entries) rest := rfl
    rw [hsplit, List.length_cons]
    rcases insert_cases entries f with ⟨-, hnew⟩ | hknown
    · rw [hnew, List.length_append, List.length_singleton] at hrun
      rw [hnew]
      omega
    · omega

/-- Failures with keys of their own are entered as they come. -/
theorem addFailures_of_pairwise : ∀ {failures entries : List (Value × Value)},
    (entries ++ failures).Pairwise IsApart → addFailures entries failures = entries ++ failures
  | [], entries, _ => (List.append_nil entries).symm
  | f :: rest, entries, h => by
    have hnew : Value.insert f.1 f.2 entries = entries ++ [f] :=
      insert_of_new fun e he => (List.pairwise_append.mp h).2.2 e he f List.mem_cons_self
    have hsplit : entries ++ f :: rest = (entries ++ [f]) ++ rest := by simp
    rw [hsplit] at h ⊢
    rw [← addFailures_of_pairwise h, ← hnew]
    rfl

/-- Failures that all make entries have keys of their own. -/
theorem pairwise_of_length : ∀ {failures entries : List (Value × Value)},
    entries.Pairwise IsApart →
    (addFailures entries failures).length = entries.length + failures.length →
      (entries ++ failures).Pairwise IsApart
  | [], entries, h, _ => by rwa [List.append_nil]
  | f :: rest, entries, h, hlength => by
    have hrun : (addFailures (Value.insert f.1 f.2 entries) rest).length =
      entries.length + (rest.length + 1) := hlength
    rcases insert_cases entries f with ⟨hapart, hnew⟩ | hknown
    · have hentries : (entries ++ [f]).Pairwise IsApart := by
        refine List.pairwise_append.mpr ⟨h, List.pairwise_singleton IsApart f, ?_⟩
        intro e he d hd
        rw [List.mem_singleton.mp hd]
        exact hapart e he
      rw [hnew] at hrun
      have hall := pairwise_of_length hentries (hrun.trans (by simp; omega))
      rwa [List.append_assoc] at hall
    · have hle := length_addFailures_le rest (Value.insert f.1 f.2 entries)
      omega

/-- Failures with keys of their own all stand. -/
theorem addFailures_nil_of_pairwise (h : failures.Pairwise IsApart) :
    addFailures [] failures = failures :=
  addFailures_of_pairwise h

/-- **Failures are entered apart exactly if no two of them have the same key.** -/
theorem pairwise_isApart_iff : failures.Pairwise IsApart ↔
    (addFailures [] failures).length = failures.length := by
  constructor
  · exact fun h => congrArg List.length (addFailures_nil_of_pairwise h)
  · intro h
    exact pairwise_of_length .nil (by simpa using h)

/-! ## The failures of a batch -/

/-- **The failures that entering operations leaves**: those of the operations whose status is not
the expected one, entered in order. -/
theorem enter_failures (hσ : ∀ i s, S.get i = .ok s → s = σ i) :
    ∀ {operations : List Operation} {t : Tally} {place : Nat},
      enter S t place operations = .ok t' →
      t'.failed = addFailures t.failed (failing σ place operations)
  | [], t, place, h => by
    cases h
    rfl
  | o :: rest, t, place, h => by
    rw [enter] at h
    obtain ⟨status, hstatus, h⟩ := bind_eq_ok.mp h
    obtain ⟨expected, hexpected, h⟩ := bind_eq_ok.mp h
    have hdone := isExpected_eq_ok hexpected
    have hsame := hσ place status hstatus
    rw [hsame] at hdone
    rw [failing_cons, hdone]
    cases expected with
    | true =>
      rw [if_pos rfl] at h
      rw [if_pos rfl]
      have hrest := enter_failures hσ h
      exact hrest
    | false =>
      rw [if_neg Bool.false_ne_true] at h
      rw [if_neg Bool.false_ne_true]
      split at h
      · have hrest := enter_failures hσ h
        rw [hrest, hsame]
        rfl
      · cases h

/-- Operations that are all entered have statuses that can be compared. -/
theorem compare_of_enter (hσ : ∀ i s, S.get i = .ok s → s = σ i) :
    ∀ {operations : List Operation} {t : Tally} {place : Nat},
      enter S t place operations = .ok t' → ∀ p ∈ operations.zipIdx place,
        (σ p.2).compare (.int p.1.kind.expectedStatus) ≠ .refused
  | [], _, _, _, p, hp => by cases hp
  | o :: rest, t, place, h, p, hp => by
    rw [enter] at h
    obtain ⟨status, hstatus, h⟩ := bind_eq_ok.mp h
    obtain ⟨expected, hexpected, h⟩ := bind_eq_ok.mp h
    rw [List.zipIdx_cons] at hp
    rcases List.mem_cons.mp hp with rfl | hp
    · rw [← hσ place status hstatus]
      intro hrefused
      simp [isExpected, hrefused] at hexpected
    · cases expected with
      | true => exact compare_of_enter hσ h p hp
      | false =>
        rw [if_neg Bool.false_ne_true] at h
        split at h
        · exact compare_of_enter hσ h p hp
        · cases h

/-- Only a signaling number refuses to be compared with a status. -/
theorem compare_int_eq_refused_iff {v : Value} (n : Int) :
    v.compare (.int n) = .refused ↔ v.number? = some .signaling := by
  have hnumber : ∀ x : Number, x.compare (.exact (.ofInt n)) = .refused ↔ x = .signaling := by
    intro x
    cases x <;> simp [Number.compare, Verdict.ofBool]
    split <;> simp
  cases v <;> simp [Value.compare, Value.compareAtoms, Value.number?, Value.text?, hnumber]

/-! ## Lists of statuses -/

/-- Entering operations looks at the statuses at their places. -/
theorem enter_congr {S S' : Statuses} : ∀ {operations : List Operation} (t : Tally) (place : Nat),
    (∀ i, place ≤ i → i < place + operations.length → S.get i = S'.get i) →
      enter S t place operations = enter S' t place operations
  | [], t, place, _ => rfl
  | o :: rest, t, place, h => by
    have hfirst : S.get place = S'.get place := h place (Nat.le_refl _) (by simp)
    have hrest : ∀ t, enter S t (place + 1) rest = enter S' t (place + 1) rest := by
      refine fun t => enter_congr t (place + 1) fun i hi hlt => h i (by omega) ?_
      rw [List.length_cons]
      omega
    simp only [enter, hfirst, hrest]

/-- **Statuses beyond the operations of a batch change nothing in its tally.** -/
theorem reduce_take (operations : List Operation) (items : List Value) :
    (reduce operations (.list (items.take operations.length))).outcome =
      (reduce operations (.list items)).outcome := by
  have hget : ∀ i, 0 ≤ i → i < 0 + operations.length →
      (ofList (items.take operations.length)).get i = (ofList items).get i := by
    intro i _ hi
    rw [Nat.zero_add] at hi
    have hstatus : statusAt (items.take operations.length) i = statusAt items i := by
      simp [statusAt, hi]
    rw [get_ofList, get_ofList, hstatus, List.length_take]
    simp [hi]
  rw [reduce_outcome, reduce_outcome, statusesOf_list, statusesOf_list]
  exact congrArg (fun x : Except Fault Tally =>
    (x >>= fun t => t.statusTexts.map fun _ => t).mapError fun e => (⟨e, none⟩ : Failure))
    (enter_congr {} 0 hget)

/-- The failures in the tally of a batch are those of the operations that failed, entered in
order. -/
theorem reduce_failures (h : (reduce operations (.list items)).outcome = .ok t) :
    t.failed = kept (statusAt items) operations :=
  enter_failures (fun _ _ => eq_statusAt_of_get) (reduce_list_eq_ok.mp h).1

/-- A batch is tallied if its statuses can be compared with numbers, those that stand for failures
can be written, and its keys can be told apart, however many statuses there are. -/
theorem reduce_list_total (hlength : operations.length ≤ 2 ^ 63)
    (hcompare : ∀ i kind, (statusAt items i).compare (.int (WriteKind.expectedStatus kind)) ≠ .refused)
    (hkeys : ∀ o ∈ operations, o.documentKey.isKey = true)
    (hwords : ∀ e ∈ kept (statusAt items) operations, e.2.isWritable = true) :
    ∃ t, (reduce operations (.list items)).outcome = .ok t := by
  have hσ : ∀ i < 0 + operations.length, (ofList items).get i = .ok (statusAt items i) := by
    intro i hi
    rw [get_ofList, if_neg (by omega)]
  obtain ⟨t, ht⟩ := enter_total hcompare hkeys {} 0 hσ
  refine ⟨t, reduce_list_eq_ok.mpr ⟨ht, ?_⟩⟩
  have hfailed : t.failed = kept (statusAt items) operations :=
    enter_failures (fun _ _ => eq_statusAt_of_get) ht
  rwa [HasWords, hfailed]

/-- The failures that stand are those by the statuses at the places of the batch. -/
theorem kept_take (operations : List Operation) (items : List Value) :
    kept (statusAt (items.take operations.length)) operations =
      kept (statusAt items) operations := by
  unfold kept failing
  have hstatus : ∀ p ∈ operations.zipIdx,
      statusAt (items.take operations.length) p.2 = statusAt items p.2 := by
    intro p hp
    have hplace : p.2 < operations.length := List.snd_lt_of_mem_zipIdx hp
    simp [statusAt, hplace]
  have hfilter : (operations.zipIdx.filter fun p =>
      !isDone p.1.kind (statusAt (items.take operations.length) p.2)) =
        operations.zipIdx.filter fun p => !isDone p.1.kind (statusAt items p.2) :=
    List.filter_congr fun p hp => by rw [hstatus p hp]
  rw [hfilter]
  refine congrArg (addFailures []) (List.map_congr_left fun p hp => ?_)
  rw [hstatus p (List.mem_filter.mp hp).1]

/-- **A batch is tallied exactly if no status at one of its places is a signaling number and those
that stand for failures can be written**, provided that its keys can be told apart. -/
theorem reduce_list_ok_iff (hlength : operations.length ≤ 2 ^ 63)
    (hkeys : ∀ o ∈ operations, o.documentKey.isKey = true) :
    (∃ t, (reduce operations (.list items)).outcome = .ok t) ↔
      (∀ s ∈ items.take operations.length, s.number? ≠ some .signaling) ∧
        ∀ e ∈ kept (statusAt items) operations, e.2.isWritable = true := by
  constructor
  · rintro ⟨t, ht⟩
    refine ⟨fun s hs hsignaling => ?_, ?_⟩
    · obtain ⟨i, hi, rfl⟩ := List.mem_take_iff_getElem.mp hs
      obtain ⟨hplace, hitem⟩ := lt_min_iff.mp hi
      have hmem : (operations[i], i) ∈ operations.zipIdx :=
        List.mk_mem_zipIdx_iff_getElem?.mpr (List.getElem?_eq_getElem hplace)
      have hcompare :=
        compare_of_enter (fun _ _ => eq_statusAt_of_get) (reduce_list_eq_ok.mp ht).1 _ hmem
      have hstatus : statusAt items i = items[i] := by simp [statusAt, hitem]
      rw [hstatus] at hcompare
      exact hcompare ((compare_int_eq_refused_iff _).mpr hsignaling)
    · rw [← reduce_failures ht]
      exact (reduce_list_eq_ok.mp ht).2
  · rintro ⟨hquiet, hwords⟩
    rw [← reduce_take]
    refine reduce_list_total hlength (fun i kind => ?_) hkeys (by rwa [kept_take])
    rw [ne_eq, compare_int_eq_refused_iff]
    unfold statusAt
    rw [List.getD_eq_getElem?_getD]
    cases h : (items.take operations.length)[i]? with
    | none => simp [Value.number?]
    | some s => exact hquiet s (List.mem_of_getElem? h)

/-! ## The account of a batch -/

/-- A tally accounts for every operation of a batch with a list of statuses. -/
structure AccountsFor (t : Tally) (operations : List Operation) (items : List Value) : Prop where
  total : t.successCount + t.failureCount = operations.length
  /-- The successes are listed, in order, by the keys of the operations whose status is the
  expected one. -/
  successes : t.succeeded = (done (statusAt items) 0 operations).map (·.documentKey)
  count : t.successCount = t.succeeded.length
  /-- The status of every other operation is held under its key; nothing if it is missing. -/
  failures : ∀ f ∈ failing (statusAt items) 0 operations,
    Value.lookup f.1 t.failed = some f.2

/-- Failures that are entered apart are held under their keys. -/
theorem lookup_of_pairwise (h : failures.Pairwise IsApart) {f : Value × Value}
    (hf : f ∈ failures) (hkey : f.1.isKey = true) : Value.lookup f.1 failures = some f.2 := by
  obtain ⟨before, after, rfl⟩ := List.append_of_mem hf
  have hbefore : Value.lookup f.1 before = none :=
    Value.lookup_eq_none_iff_forall.mpr fun e he =>
      (List.pairwise_append.mp h).2.2 e he f List.mem_cons_self
  rw [Value.lookup_append, hbefore, Option.none_or, Value.lookup_cons_eq_ite,
    if_pos (Value.isEqual_self hkey)]

/-- **A tally accounts for every operation of a batch exactly if no two failures have the same
key.** -/
theorem accountsFor_iff_pairwise (hkeys : ∀ o ∈ operations, o.documentKey.isKey = true)
    (h : (reduce operations (.list items)).outcome = .ok t) :
    t.AccountsFor operations items ↔
      (failing (statusAt items) 0 operations).Pairwise IsApart := by
  have hfailures := reduce_failures h
  have hsplit := done_length_add_failing_length (statusAt items) 0 operations
  have hdone := successCount_of_reduce h
  have hcount : t.failureCount =
      (addFailures [] (failing (statusAt items) 0 operations)).length := by
    rw [failureCount, hfailures, kept]
  constructor
  · intro haccounts
    have htotal := haccounts.total
    refine pairwise_isApart_iff.mpr ?_
    omega
  · intro hpairwise
    have hall := pairwise_isApart_iff.mp hpairwise
    refine ⟨by omega, reduce_list h, rfl, fun f hf => ?_⟩
    obtain ⟨i, hi, heq⟩ := exists_of_mem_failing hf
    have hkey : f.1.isKey = true := by
      rw [heq]
      exact hkeys _ (List.getElem_mem hi)
    rw [hfailures, kept, addFailures_nil_of_pairwise hpairwise]
    exact lookup_of_pairwise hpairwise hf hkey

/-- **When a tally accounts for every operation of a batch.**  A batch whose keys can be told from
others has a tally that accounts for all of its operations exactly if no status at one of its places
refuses to be compared, no two operations that failed have the same key, and the statuses of those
that failed can be written. -/
theorem accountsFor_iff (hkeys : ∀ o ∈ operations, o.documentKey.isKey = true)
    (hlength : operations.length ≤ 2 ^ 63) :
    (∃ t, (reduce operations (.list items)).outcome = .ok t ∧ t.AccountsFor operations items) ↔
      (∀ s ∈ items.take operations.length, s.number? ≠ some .signaling) ∧
        (failing (statusAt items) 0 operations).Pairwise IsApart ∧
        ∀ f ∈ failing (statusAt items) 0 operations, f.2.isWritable = true := by
  have hkept : (failing (statusAt items) 0 operations).Pairwise IsApart →
      kept (statusAt items) operations = failing (statusAt items) 0 operations :=
    addFailures_nil_of_pairwise
  constructor
  · rintro ⟨t, ht, haccounts⟩
    have hpairwise := (accountsFor_iff_pairwise hkeys ht).mp haccounts
    obtain ⟨hquiet, hwords⟩ := (reduce_list_ok_iff hlength hkeys).mp ⟨t, ht⟩
    rw [hkept hpairwise] at hwords
    exact ⟨hquiet, hpairwise, hwords⟩
  · rintro ⟨hquiet, hpairwise, hwords⟩
    rw [← hkept hpairwise] at hwords
    obtain ⟨t, ht⟩ := (reduce_list_ok_iff hlength hkeys).mpr ⟨hquiet, hwords⟩
    exact ⟨t, ht, (accountsFor_iff_pairwise hkeys ht).mpr hpairwise⟩

/-- The deletion of a document with an identifier from a partition. -/
def deletionFrom (partition id : String) : Operation :=
  ⟨.delete, .str id, .str partition, none⟩

/-- Of three deletions the first succeeds, the second fails under the same key, and the third has no
status. -/
theorem accountsFor_of_success_and_failure :
    ∃ t, (reduce [deletionFrom "p" "a", deletionFrom "q" "a", deletionFrom "q" "b"]
        (.list [.int 204, .int 404])).outcome = .ok t ∧
      t.AccountsFor [deletionFrom "p" "a", deletionFrom "q" "a", deletionFrom "q" "b"]
        [.int 204, .int 404] := by
  have hfailing : failing (statusAt [.int 204, .int 404]) 0
      [deletionFrom "p" "a", deletionFrom "q" "a", deletionFrom "q" "b"] =
        [(.str "a", .int 404), (.str "b", .null)] := by
    simp [failing, deletionFrom, statusAt, isDone_int, isDone_null, WriteKind.expectedStatus]
  have hwritable : (Value.int 404).isWritable = true := by decide +kernel
  refine (accountsFor_iff (by simp [deletionFrom, Value.isKey]) (by simp)).mpr ⟨?_, ?_⟩
  · simp [Value.number?]
  · rw [hfailing]
    have hnone : Value.null.isWritable = true := rfl
    simp [IsApart, hwritable, hnone]

/-- Two deletions of one identifier from different partitions fail.  One failure is counted, and the
status of the first deletion is lost. -/
theorem failures_of_one_identifier :
    ∃ t, (reduce [deletionFrom "p" "a", deletionFrom "q" "a"]
        (.list [.int 404, .int 409])).outcome = .ok t ∧
      t.succeeded = [] ∧ t.failed = [(.str "a", .int 409)] ∧
      ¬t.AccountsFor [deletionFrom "p" "a", deletionFrom "q" "a"] [.int 404, .int 409] := by
  have hkept : kept (statusAt [.int 404, .int 409])
      [deletionFrom "p" "a", deletionFrom "q" "a"] = [(.str "a", .int 409)] := by
    simp [kept, addFailures, Value.insert, failing, deletionFrom, statusAt, isDone_int,
      WriteKind.expectedStatus]
  have hdone : done (statusAt [.int 404, .int 409]) 0
      [deletionFrom "p" "a", deletionFrom "q" "a"] = [] := by
    simp [done, deletionFrom, statusAt, isDone_int, WriteKind.expectedStatus]
  have hwritable : (Value.int 409).isWritable = true := by decide +kernel
  have htallied : ∃ t, (reduce [deletionFrom "p" "a", deletionFrom "q" "a"]
      (.list [.int 404, .int 409])).outcome = .ok t :=
    (reduce_list_ok_iff (by simp) (by simp [deletionFrom, Value.isKey])).mpr
      ⟨by simp [Value.number?], by simp [hkept, hwritable]⟩
  obtain ⟨t, ht⟩ := htallied
  have hsucceeded := reduce_list ht
  have hfailed := reduce_failures ht
  rw [hdone] at hsucceeded
  rw [hkept] at hfailed
  refine ⟨t, ht, hsucceeded, hfailed, fun haccounts => ?_⟩
  have htotal := haccounts.total
  rw [successCount, failureCount, hsucceeded, hfailed] at htotal
  exact absurd htotal (by decide)

end Docstore.Tally
