import Docstore.Proofs.Value.Record

/-!
# What a mutation does to a document

The changes of a mutation have different names, so each of them meets the value that the document
had at first.  A field keeps its value if that equals the new one, and gets the new one otherwise.

* `setFields_spec` — what a run over changes leaves under each name, and whether it changed
  something.
* `apply_spec` — the same of a mutation and a document.
* `lookup_apply` — the field of a change afterwards.
* `apply_ok` — a mutation is applied if no comparison is refused.
* `apply_of_holds` — it changes nothing if every field holds what equals its new value.
-/

namespace Docstore.Mutation

open Value (lookup insert IsRecord)

variable {key : Value} {s : String}

/-- What a field holds after a change: the value that it held, if that equals the new one. -/
def settled (old : Option Value) (v : Value) : Value :=
  match old with
  | none => v
  | some o => if o.compare v = .equal then o else v

/-- What a field holds after a mutation that may leave it alone. -/
def outcome (old : Option Value) : Option Value → Option Value
  | none => old
  | some v => some (settled old v)

/-- A field holds a value that equals the one it is to have. -/
def Holds (fields : List (Value × Value)) (e : Value × Value) : Prop :=
  ∃ o, lookup e.1 fields = some o ∧ o.compare e.2 = .equal

/-- The step of a run: one change sets its own field and leaves the others alone. -/
theorem setFields_cons {fields fields' : List (Value × Value)} {changed changed' : Bool}
    {name v : Value} {rest : List (Value × Value)}
    (h : setFields fields changed ((name, v) :: rest) = .ok (fields', changed')) :
    (Holds fields (name, v) ∧ setFields fields changed rest = .ok (fields', changed')) ∨
    (¬Holds fields (name, v) ∧
      setFields (insert name v fields) true rest = .ok (fields', changed')) := by
  rw [setFields] at h
  split at h
  · rename_i hnone
    refine .inr ⟨?_, h⟩
    rintro ⟨o, ho, -⟩
    rw [hnone] at ho
    cases ho
  · rename_i o ho
    split at h
    · rename_i heq
      exact .inl ⟨⟨o, ho, heq⟩, h⟩
    · rename_i hdiff
      refine .inr ⟨?_, h⟩
      rintro ⟨o', ho', heq⟩
      rw [ho] at ho'
      cases ho'
      rw [hdiff] at heq
      cases heq
    · cases h

theorem settled_of_holds {fields : List (Value × Value)} {e : Value × Value}
    (h : Holds fields e) : some (settled (lookup e.1 fields) e.2) = lookup e.1 fields := by
  obtain ⟨o, ho, heq⟩ := h
  rw [ho, settled, if_pos heq]

theorem settled_of_not_holds {fields : List (Value × Value)} {e : Value × Value}
    (h : ¬Holds fields e) : settled (lookup e.1 fields) e.2 = e.2 := by
  cases ho : lookup e.1 fields with
  | none => rfl
  | some o =>
    have hne : ¬o.compare e.2 = .equal := fun heq => h ⟨o, ho, heq⟩
    rw [settled, if_neg hne]

/-- **What a run over changes leaves** under each name, and whether it changed something. -/
theorem setFields_spec : ∀ {changes fields fields' : List (Value × Value)}
    {changed changed' : Bool}, IsRecord changes →
      setFields fields changed changes = .ok (fields', changed') →
      (∀ {key : Value} {s : String}, key.text? = some s →
        lookup key fields' = outcome (lookup key fields) (lookup key changes)) ∧
      (changed' = true ↔ changed = true ∨ ∃ e ∈ changes, ¬Holds fields e)
  | [], fields, fields', changed, changed', _, h => by
    cases h
    exact ⟨fun _ => rfl, by simp⟩
  | (name, v) :: rest, fields, fields', changed, changed', hrecord, h => by
    obtain ⟨t, ht⟩ := hrecord.texts (name, v) (by simp)
    -- later changes have other names, so the field of this one is as good as settled
    have hlater : ∀ {key : Value}, key.text? = some t → lookup key rest = none :=
      fun hk => hrecord.lookup_tail hk ht
    rcases setFields_cons h with ⟨hholds, h⟩ | ⟨hnot, h⟩
    · obtain ⟨hlookup, hchanged⟩ := setFields_spec hrecord.tail h
      refine ⟨fun {key s} hk => ?_, ?_⟩
      · rw [hlookup hk, Value.lookup_cons name v rest hk]
        by_cases hst : name.text? = some s
        · have hsame : s = t := Option.some.inj (hst.symm.trans ht)
          subst hsame
          rw [if_pos hst, hlater hk, Value.lookup_congr hk ht fields]
          exact (settled_of_holds hholds).symm
        · rw [if_neg hst]
      · rw [hchanged]
        simp [hholds]
    · obtain ⟨hlookup, hchanged⟩ := setFields_spec hrecord.tail h
      refine ⟨fun {key s} hk => ?_, ?_⟩
      · rw [hlookup hk, Value.lookup_cons name v rest hk, Value.lookup_insert hk ht]
        by_cases hst : name.text? = some s
        · have hsame : s = t := Option.some.inj (hst.symm.trans ht)
          subst hsame
          rw [if_pos rfl, if_pos hst, hlater hk, Value.lookup_congr hk ht fields]
          exact congrArg some (settled_of_not_holds hnot).symm
        · have hne : s ≠ t := by
            rintro rfl
            exact hst ht
          rw [if_neg hst, if_neg hne]
      · rw [hchanged]
        simp [hnot]

/-- A run over changes comes to its end if no comparison is refused. -/
theorem setFields_ok : ∀ {changes fields : List (Value × Value)} (changed : Bool),
    IsRecord changes → (∀ e ∈ changes, ∀ o, lookup e.1 fields = some o → o.compare e.2 ≠ .refused) →
      ∃ result, setFields fields changed changes = .ok result
  | [], fields, changed, _, _ => ⟨(fields, changed), rfl⟩
  | (name, v) :: rest, fields, changed, hrecord, h => by
    have hinsert : ∀ e ∈ rest, ∀ o, lookup e.1 (insert name v fields) = some o →
        o.compare e.2 ≠ .refused := by
      intro e he o ho
      rw [hrecord.lookup_insert_head he] at ho
      exact h e (List.mem_cons_of_mem _ he) o ho
    rw [setFields]
    cases ho : lookup name fields with
    | none => exact setFields_ok _ hrecord.tail hinsert
    | some o =>
      dsimp only
      cases hc : o.compare v with
      | equal => exact setFields_ok _ hrecord.tail fun e he => h e (List.mem_cons_of_mem _ he)
      | different => exact setFields_ok _ hrecord.tail hinsert
      | refused => exact absurd hc (h (name, v) (by simp) o ho)

/-- A run over changes ends where it begins if every field holds what equals its new value. -/
theorem setFields_of_holds {fields : List (Value × Value)} (changed : Bool) :
    ∀ {changes : List (Value × Value)}, (∀ e ∈ changes, Holds fields e) →
      setFields fields changed changes = .ok (fields, changed)
  | [], _ => rfl
  | (name, v) :: rest, h => by
    obtain ⟨o, ho, heq⟩ := h (name, v) List.mem_cons_self
    rw [setFields, ho]
    dsimp only
    rw [heq]
    exact setFields_of_holds changed fun e he => h e (List.mem_cons_of_mem _ he)

/-! ## Mutations -/

/-- **What a mutation leaves** under each name of a document, and whether it changed something. -/
theorem apply_spec {fields changes updated : List (Value × Value)} {changed : Bool}
    (hrecord : IsRecord changes)
    (h : apply (.dict fields) (.dict changes) = .ok (updated, changed)) :
    (∀ {key : Value} {s : String}, key.text? = some s →
      lookup key updated = outcome (lookup key fields) (lookup key changes)) ∧
    (changed = false ↔ ∀ e ∈ changes, Holds fields e) := by
  obtain ⟨hlookup, hchanged⟩ := setFields_spec hrecord h
  refine ⟨hlookup, ?_⟩
  rw [← Bool.not_eq_true, hchanged]
  simp

/-- What a field that a mutation names holds afterwards. -/
theorem lookup_apply {fields changes updated : List (Value × Value)} {changed : Bool}
    {e : Value × Value} (hrecord : IsRecord changes) (he : e ∈ changes)
    (h : apply (.dict fields) (.dict changes) = .ok (updated, changed)) :
    lookup e.1 updated = some (settled (lookup e.1 fields) e.2) := by
  obtain ⟨s, hs⟩ := hrecord.texts e he
  rw [(apply_spec hrecord h).1 hs, hrecord.lookup_eq hs he hs]
  rfl

/-- A mutation changes nothing if every field holds what equals the value that it is to have. -/
theorem apply_of_holds {fields changes : List (Value × Value)} (h : ∀ e ∈ changes, Holds fields e) :
    apply (.dict fields) (.dict changes) = .ok (fields, false) :=
  setFields_of_holds false h

/-- A mutation is applied if no comparison is refused. -/
theorem apply_ok {fields changes : List (Value × Value)} (hrecord : IsRecord changes)
    (h : ∀ e ∈ changes, ∀ o, lookup e.1 fields = some o → o.compare e.2 ≠ .refused) :
    ∃ updated changed, apply (.dict fields) (.dict changes) = .ok (updated, changed) := by
  obtain ⟨⟨updated, changed⟩, hresult⟩ := setFields_ok false hrecord h
  exact ⟨updated, changed, hresult⟩

end Docstore.Mutation
