import Docstore.Proofs.Bulk.Overlay
import Docstore.Proofs.Bulk.Planning
import Docstore.Proofs.Value.Comparison

/-!
# Mutations settle documents

A mutation leaves the fields alone that it does not name, and gives those that it names what equals
the new values.  Since a value without not-a-number equals itself, the same mutation then finds
nothing to change: replacements that are planned once are not planned again, neither for the
documents that they write nor for those that were skipped.

* `Mutation.lookup_overlay` — the fields that a mutation does not name.
* `Mutation.settles` — what a mutation leaves of a document.
* `Planner.replacements_writes` — the plan for documents that a mutation may alter.
* `Planner.replaces_once` — documents are settled, each with one operation at most, and planning
  again yields nothing.
-/

namespace Docstore

open Value (lookup IsRecord)

namespace Mutation

variable {fields changes updated : List (Value × Value)} {changed : Bool} {key : Value}

/-- Changes as a dictionary with text keys has them, to values that equal themselves. -/
structure IsPlain (changes : List (Value × Value)) : Prop where
  record : IsRecord changes
  nanFree : ∀ c ∈ changes, c.2.isNanFree = true
  keyedApart : ∀ c ∈ changes, c.2.isKeyedApart = true

/-- The fields of a document, as a dictionary has them; those that are to be changed hold no number
that refuses to be compared. -/
structure Admits (changes fields : List (Value × Value)) : Prop where
  distinct : DistinctTexts fields
  quiet : ∀ c ∈ changes, ∀ o, lookup c.1 fields = some o → o.isQuiet = true

/-- What a mutation leaves of the fields of a document, and what it tells about it. -/
structure Settles (fields changes updated : List (Value × Value)) (changed : Bool) : Prop where
  /-- What the mutation does not name stays as it is. -/
  frame : ∀ key, lookup key changes = none → lookup key updated = lookup key fields
  /-- What it names holds what equals the new value. -/
  exact : ∀ c ∈ changes, ∃ o, lookup c.1 updated = some o ∧ o.compare c.2 = .equal
  /-- The fields stay in order, and new ones follow in the order of the mutation. -/
  order : updated.map (·.1) =
    fields.map (·.1) ++ (changes.filter fun c => (lookup c.1 fields).isNone).map (·.1)
  /-- A change is a field that was missing or that held something else. -/
  flag : changed = true ↔ ∃ c ∈ changes, lookup c.1 fields = none ∨
    ∃ o, lookup c.1 fields = some o ∧ o.compare c.2 ≠ .equal
  unchanged : changed = false → updated = fields
  /-- The same mutation finds nothing to change. -/
  again : apply (.dict updated) (.dict changes) = .ok (updated, false)

/-! ## What a mutation does not name -/

/-- A field keeps its value if it has a key that the changes do not name. -/
theorem settle_of_lookup_eq_none (hrecord : IsRecord changes) (h : lookup key changes = none)
    {e : Value × Value} (he : e.1.isEqual key = true) : settle e changes = e := by
  refine settle_of_ne fun c hc => ?_
  obtain ⟨s, hs⟩ := hrecord.texts c hc
  refine ⟨s, hs, fun hes => ?_⟩
  have hne := Value.lookup_eq_none_iff_forall.mp h c hc
  rw [Value.isEqual_congr hs hes, he] at hne
  cases hne

theorem lookup_map_settle (hrecord : IsRecord changes) (h : lookup key changes = none) :
    lookup key (fields.map (settle · changes)) = lookup key fields := by
  induction fields with
  | nil => rfl
  | cons e rest ih =>
    rw [List.map_cons, Value.lookup_cons_eq_ite, Value.lookup_cons_eq_ite, settle_fst, ih]
    by_cases he : e.1.isEqual key = true
    · rw [if_pos he, if_pos he, settle_of_lookup_eq_none hrecord h he]
    · rw [if_neg he, if_neg he]

/-- **The fields that a mutation does not name** hold what they held. -/
theorem lookup_overlay (hrecord : IsRecord changes) (h : lookup key changes = none) :
    lookup key (overlay fields changes) = lookup key fields := by
  have hnew : lookup key (changes.filter fun c => (lookup c.1 fields).isNone) = none :=
    Value.lookup_eq_none_iff_forall.mpr fun c hc =>
      Value.lookup_eq_none_iff_forall.mp h c (List.mem_of_mem_filter hc)
  rw [overlay, Value.lookup_append, lookup_map_settle hrecord h, hnew, Option.or_none]

theorem overlay_keys (fields changes : List (Value × Value)) :
    (overlay fields changes).map (·.1) =
      fields.map (·.1) ++ (changes.filter fun c => (lookup c.1 fields).isNone).map (·.1) := by
  rw [overlay, List.map_append, List.map_map]
  exact congrArg (· ++ _) (List.map_congr_left fun e _ => settle_fst e changes)

/-! ## Documents -/

theorem IsPlain.compare_self (h : IsPlain changes) {c : Value × Value} (hc : c ∈ changes) :
    c.2.compare c.2 = .equal :=
  Value.compare_self (Value.isNan_of_isNanFree (h.nanFree c hc)) (h.keyedApart c hc)

theorem Admits.not_refused (hfields : Admits changes fields) (h : IsPlain changes) :
    ∀ c ∈ changes, ∀ o, lookup c.1 fields = some o → o.compare c.2 ≠ .refused :=
  fun c hc o ho => Value.compare_not_refused (hfields.quiet c hc o ho)
    (Value.isQuiet_of_isNanFree (h.nanFree c hc))

/-- What a mutation names holds what equals the new value: the old one if it did, or the new one. -/
theorem holds_apply (h : IsPlain changes)
    (happly : apply (.dict fields) (.dict changes) = .ok (updated, changed)) :
    ∀ c ∈ changes, Holds updated c := by
  intro c hc
  have hupdated := lookup_apply h.record hc happly
  by_cases hholds : Holds fields c
  · rw [settled_of_holds hholds] at hupdated
    obtain ⟨o, ho, heq⟩ := hholds
    exact ⟨o, hupdated.trans ho, heq⟩
  · rw [settled_of_not_holds hholds] at hupdated
    exact ⟨c.2, hupdated, h.compare_self hc⟩

/-- **What a mutation leaves of a document**: it is settled. -/
theorem settles (h : IsPlain changes) (hfields : Admits changes fields) :
    apply (.dict fields) (.dict changes) = .ok (overlay fields changes, alters fields changes) ∧
      Settles fields changes (overlay fields changes) (alters fields changes) := by
  have happly := apply_eq_overlay h.record hfields.distinct (hfields.not_refused h)
  have hholds := holds_apply h happly
  refine ⟨happly, ?_⟩
  exact {
    frame := fun key hkey => lookup_overlay h.record hkey
    exact := hholds
    order := overlay_keys fields changes
    flag := by
      rw [alters_iff]
      refine exists_congr fun c => and_congr_right fun _ => ?_
      unfold Holds
      cases lookup c.1 fields <;> simp
    unchanged := by
      intro hfalse
      have hall := (apply_spec h.record happly).2.mp hfalse
      have hsame := (apply_of_holds hall).symm.trans happly
      exact congrArg Prod.fst (Except.ok.inj hsame).symm
    again := apply_of_holds hholds }

end Mutation

/-! ## Plans -/

namespace Planner

open Mutation (IsPlain Admits Settles alters overlay)

variable {changes : List (Value × Value)} {documents : List (List (Value × Value))}
  {operations : List Operation} {p : Planner}

/-- **The plan for documents** holds one operation for each document that the mutation alters, in
order, which writes the document as changed. -/
theorem replacements_writes (h : IsPlain changes) (hdocuments : ∀ d ∈ documents, Admits changes d)
    (hplan : p.replacements (.dict changes) (documents.map .dict) = .ok operations) :
    List.Forall₂ (fun d o => p.Writes (overlay d changes) o) (documents.filter (alters · changes))
      operations := by
  unfold replacements at hplan
  obtain ⟨plans, hplans, hsome⟩ := bind_eq_ok.mp hplan
  cases hsome
  have hpairs := List.forall₂_map_left_iff.mp (mapM_eq_ok.mp hplans)
  clear hplan hplans
  induction hpairs with
  | nil => exact .nil
  | @cons d planned rest others hd _ ih =>
    have hrest := ih fun d hd => hdocuments d (List.mem_cons_of_mem _ hd)
    have happly := (Mutation.settles h (hdocuments d List.mem_cons_self)).1
    rcases replacement_eq_ok hd with ⟨fields, hfields, rfl⟩ | ⟨fields, o, hfields, rfl, hwrites⟩
    · obtain ⟨-, halters⟩ := Prod.mk.inj (Except.ok.inj (happly.symm.trans hfields))
      rw [List.filter_cons, halters]
      exact hrest
    · obtain ⟨rfl, halters⟩ := Prod.mk.inj (Except.ok.inj (happly.symm.trans hfields))
      rw [List.filter_cons, halters]
      exact .cons hwrites hrest

/-- There is a plan exactly if the keys of every changed document can be taken. -/
theorem exists_replacements_iff (h : IsPlain changes)
    (hdocuments : ∀ d ∈ documents, Admits changes d) :
    (∃ operations, p.replacements (.dict changes) (documents.map .dict) = .ok operations) ↔
      ∀ d ∈ documents, alters d changes = true → ¬p.Unkeyed (.dict (overlay d changes)) := by
  have hplan : (∃ operations, p.replacements (.dict changes) (documents.map .dict) = .ok operations)
      ↔ ¬∃ e, p.replacements (.dict changes) (documents.map .dict) = .error e := by
    cases p.replacements (.dict changes) (documents.map .dict) <;> simp
  rw [hplan, replacements_eq_error_iff]
  simp only [List.mem_map, exists_exists_and_eq_and, not_exists, not_and]
  refine forall_congr' fun d => forall_congr' fun hd => ?_
  rw [(Mutation.settles h (hdocuments d hd)).1]
  simp

/-- Nothing is planned for what a plan writes and for what it skips. -/
theorem replacements_again (h : IsPlain changes) (hdocuments : ∀ d ∈ documents, Admits changes d)
    (hplan : p.replacements (.dict changes) (documents.map .dict) = .ok operations)
    {later : List Value}
    (hlater : ∀ v ∈ later, (∃ o ∈ operations, o.payload = some v) ∨
      v ∈ (documents.filter (!alters · changes)).map .dict) :
    p.replacements (.dict changes) later = .ok [] := by
  refine replacements_of_unchanged fun v hv => ?_
  rcases hlater v hv with ⟨o, ho, hpayload⟩ | hskipped
  · obtain ⟨d, hd, hwrites⟩ := exists_of_mem_right (replacements_writes h hdocuments hplan) ho
    cases hwrites.payload.symm.trans hpayload
    have hsettles := (Mutation.settles h (hdocuments d (List.mem_of_mem_filter hd))).2
    exact ⟨_, hsettles.again⟩
  · obtain ⟨d, hd, rfl⟩ := List.mem_map.mp hskipped
    obtain ⟨hd, halters⟩ := List.mem_filter.mp hd
    have hskipped : alters d changes = false := by simpa using halters
    have happly := (Mutation.settles h (hdocuments d hd)).1
    rw [hskipped] at happly
    exact ⟨_, happly⟩

/-- **Documents are settled once.**  The mutation settles every document.  There is a plan unless
the keys of a changed document cannot be taken, and it has one operation for each document that is
altered, which writes it as changed.  Planning again, for documents as written and documents that
were skipped, yields nothing. -/
theorem replaces_once (h : IsPlain changes) (hdocuments : ∀ d ∈ documents, Admits changes d)
    (p : Planner) :
    (∀ d ∈ documents,
      Mutation.apply (.dict d) (.dict changes) = .ok (overlay d changes, alters d changes) ∧
        Settles d changes (overlay d changes) (alters d changes)) ∧
    ((∃ operations, p.plan .replace (documents.map .dict) (.dict changes) = .ok operations) ↔
      ∀ d ∈ documents, alters d changes = true → ¬p.Unkeyed (.dict (overlay d changes))) ∧
    ∀ operations, p.plan .replace (documents.map .dict) (.dict changes) = .ok operations →
      List.Forall₂ (fun d o => p.Writes (overlay d changes) o)
        (documents.filter (alters · changes)) operations ∧
      ∀ later, (∀ v ∈ later, (∃ o ∈ operations, o.payload = some v) ∨
          v ∈ (documents.filter (!alters · changes)).map .dict) →
        p.plan .replace later (.dict changes) = .ok [] := by
  refine ⟨fun d hd => Mutation.settles h (hdocuments d hd), ?_, fun operations hplan => ?_⟩
  · rw [plan_replace]
    exact exists_replacements_iff h hdocuments
  · rw [plan_replace] at hplan
    refine ⟨replacements_writes h hdocuments hplan, fun later hlater => ?_⟩
    rw [plan_replace]
    exact replacements_again h hdocuments hplan hlater

/-- A missing field that is to hold nothing is set, and a number that equals the new one is kept. -/
theorem replaces_once_with_nothing :
    let first : List (Value × Value) := [(.str "id", .str "a"), (.str "n", .int 1)]
    let second : List (Value × Value) :=
      [(.str "id", .str "b"), (.str "n", .bool true), (.str "v", .null)]
    let changes : List (Value × Value) :=
      [(.str "v", .null), (.str "n", .decimal (.finite false 10 (-1)) 0)]
    let written : Value := .dict [(.str "id", .str "a"), (.str "n", .int 1), (.str "v", .null)]
    let p : Planner := ⟨.str "id", none⟩
    ∃ o, p.plan .replace [.dict first, .dict second] (.dict changes) = .ok [o] ∧
      o.payload = some written ∧
      p.plan .replace [written, .dict second] (.dict changes) = .ok [] := by
  intro first second changes written p
  have hplain : IsPlain changes :=
    ⟨⟨by simp [changes, Value.text?], by decide⟩, by decide +kernel, by decide +kernel⟩
  have hdistinct : ∀ d ∈ [first, second], (d.filterMap (·.1.text?)).Nodup := by decide +kernel
  have hquiet : ∀ d ∈ [first, second], ∀ e ∈ d, e.2.isQuiet = true := by decide +kernel
  have hdocuments : ∀ d ∈ [first, second], Admits changes d := by
    refine fun d hd => ⟨hdistinct d hd, fun c _ o ho => ?_⟩
    obtain ⟨e, he, rfl⟩ := Option.map_eq_some_iff.mp ho
    exact hquiet d hd e (List.mem_of_find?_eq_some he)
  have hfirst : alters first changes = true := by decide +kernel
  have hsecond : alters second changes = false := by decide +kernel
  have hone : (Value.int 1).compare (.decimal (.finite false 10 (-1)) 0) = .equal := by
    decide +kernel
  have hwritten : Value.dict (overlay first changes) = written := by
    simp [overlay, Mutation.settle, Mutation.settled, lookup, hone, first, changes, written]
  have hkey : p.documentKeyOf written = .ok (.str "a") := by
    simp [documentKeyOf, Value.part, Value.isKey, lookup, p, written]
  have hkeyed : ¬p.Unkeyed written := not_unkeyed hkey hkey
  obtain ⟨-, hplanned, hoperations⟩ := replaces_once hplain hdocuments p
  obtain ⟨operations, hplan⟩ := hplanned.mpr (by simp [hfirst, hsecond, hwritten, hkeyed])
  obtain ⟨hwrites, hlater⟩ := hoperations operations hplan
  have hfilter : [first, second].filter (alters · changes) = [first] := by simp [hfirst, hsecond]
  rw [hfilter] at hwrites
  obtain ⟨o, rest, ho, hrest, rfl⟩ := List.forall₂_cons_left_iff.mp hwrites
  cases hrest
  have hpayload := ho.payload.trans (congrArg some hwritten)
  refine ⟨o, hplan, hpayload, hlater _ ?_⟩
  simp [hfirst, hsecond, hpayload]

end Planner

end Docstore
