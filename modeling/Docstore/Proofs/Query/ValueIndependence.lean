import Docstore.Proofs.Query.Outline

/-!
# Values do not show in statements

Two queries that differ in the values of their conditions and of their page windows only have the
same statement, provided that they bind equal values at the same places.  A value is seen by a
binder through its canonical key alone, and of the key the binder uses only to which earlier keys it
is equal; so two binders proceed alike, step by step.

* `bind_alike` — binders that have proceeded alike hand out the same placeholder.
* `bindAll_alike` — binders hand out the same placeholders for values with the same pattern.
* `statement_eq_of_samePattern` — the statements of two such queries are the same.
-/

namespace Docstore

/-- Whether equal items stand at the same places of two lists. -/
def SamePattern {α β : Type} (xs : List α) (ys : List β) : Prop :=
  ∀ i < xs.length, ∀ j < xs.length, xs[i]? = xs[j]? ↔ ys[i]? = ys[j]?

/-- Whether pairs relate equal items to equal items. -/
def IsOneToOne {α β : Type} (pairs : List (α × β)) : Prop :=
  ∀ p ∈ pairs, ∀ q ∈ pairs, p.1 = q.1 ↔ p.2 = q.2

theorem SamePattern.isOneToOne {α β : Type} {xs : List α} {ys : List β} (h : SamePattern xs ys) :
    IsOneToOne (xs.zip ys) := by
  intro p hp q hq
  obtain ⟨i, hi⟩ := List.mem_iff_getElem?.mp hp
  obtain ⟨j, hj⟩ := List.mem_iff_getElem?.mp hq
  obtain ⟨hxi, hyi⟩ := List.getElem?_zip_eq_some.mp hi
  obtain ⟨hxj, hyj⟩ := List.getElem?_zip_eq_some.mp hj
  have hplaces := h i (List.getElem?_eq_some_iff.mp hxi).1 j (List.getElem?_eq_some_iff.mp hxj).1
  rw [hxi, hxj, hyi, hyj, Option.some.injEq, Option.some.injEq] at hplaces
  exact hplaces

namespace Binder

section TwoRuns

variable {pairs : List (String × String)} {b b₁ c c₁ : Binder}

/-- Binders whose literals have paired keys, one by one. -/
def Alike (pairs : List (String × String)) (b c : Binder) : Prop :=
  List.Forall₂ (fun l m => (l.key, m.key) ∈ pairs) b.bound c.bound

/-- Searches that agree on related items find the same place. -/
theorem findIdx?_congr {α β : Type} {R : α → β → Prop} {p : α → Bool} {q : β → Bool}
    (hsame : ∀ x y, R x y → p x = q y) {xs : List α} {ys : List β} (h : List.Forall₂ R xs ys) :
    xs.findIdx? p = ys.findIdx? q := by
  induction h with
  | nil => rfl
  | cons hxy _ ih => rw [List.findIdx?_cons, List.findIdx?_cons, hsame _ _ hxy, ih]

theorem bind_key {v : Value} {p : String} (h : b.bind v = .ok (p, b₁)) :
    ∃ l, v.canonicalKey = .ok l.key ∧ b.allot l = (p, b₁) := by
  obtain ⟨l, hl, hallot⟩ := map_eq_ok.mp h
  exact ⟨l, (literal_eq_ok.mp hl).1, hallot⟩

/-- Values whose canonical keys are paired. -/
def Paired (pairs : List (String × String)) (v w : Value) : Prop :=
  ∃ k l, v.canonicalKey = .ok k ∧ w.canonicalKey = .ok l ∧ (k, l) ∈ pairs

/-- **Binders that have proceeded alike** hand out the same placeholder for values with paired keys,
and go on alike. -/
theorem bind_alike (hpairs : IsOneToOne pairs) (halike : Alike pairs b c) {v w : Value}
    {p q : String} (hvw : Paired pairs v w) (hb : b.bind v = .ok (p, b₁))
    (hc : c.bind w = .ok (q, c₁)) : p = q ∧ Alike pairs b₁ c₁ := by
  obtain ⟨k, l, hv, hw, hkl⟩ := hvw
  obtain ⟨x, hx, hallot⟩ := bind_key hb
  obtain ⟨y, hy, hallot'⟩ := bind_key hc
  obtain rfl : x.key = k := Except.ok.inj (hx.symm.trans hv)
  obtain rfl : y.key = l := Except.ok.inj (hy.symm.trans hw)
  have hfound : b.bound.findIdx? (·.key == x.key) = c.bound.findIdx? (·.key == y.key) := by
    refine findIdx?_congr (fun s t hst => ?_) halike
    rw [Bool.eq_iff_iff, beq_iff_eq, beq_iff_eq]
    exact hpairs _ hst _ hkl
  unfold allot at hallot hallot'
  rw [hfound] at hallot
  cases hplace : c.bound.findIdx? (·.key == y.key) with
  | some number =>
    -- both keys are bound, at the same place
    rw [hplace] at hallot hallot'
    cases hallot
    cases hallot'
    exact ⟨rfl, halike⟩
  | none =>
    -- both keys are new
    rw [hplace] at hallot hallot'
    cases hallot
    cases hallot'
    refine ⟨by rw [halike.length_eq], ?_⟩
    exact List.rel_append halike (.cons hkl .nil)

/-- **Binders hand out the same placeholders** for values with paired keys. -/
theorem bindAll_alike (hpairs : IsOneToOne pairs) {vs ws : List Value}
    (hvws : List.Forall₂ (Paired pairs) vs ws) {ps qs : List String} (halike : Alike pairs b c)
    (hb : b.bindAll vs = .ok (ps, b₁)) (hc : c.bindAll ws = .ok (qs, c₁)) : ps = qs := by
  induction hvws generalizing b c ps qs with
  | nil =>
    cases hb
    cases hc
    rfl
  | cons hvw _ ih =>
    obtain ⟨p, b', ps', hbind, hrest, rfl⟩ := bindAll_cons_eq_ok.mp hb
    obtain ⟨q, c', qs', hbind', hrest', rfl⟩ := bindAll_cons_eq_ok.mp hc
    obtain ⟨rfl, halike'⟩ := bind_alike hpairs halike hvw hbind hbind'
    rw [ih halike' hrest hrest']

/-- Values whose keys are known are paired as their keys are. -/
theorem paired_of_keys {vs ws : List Value} {ks ls : List String}
    (hks : List.Forall₂ (fun v k => v.canonicalKey = .ok k) vs ks)
    (hls : List.Forall₂ (fun w l => w.canonicalKey = .ok l) ws ls) (hlength : ks.length = ls.length)
    (hmem : ∀ p ∈ ks.zip ls, p ∈ pairs) : List.Forall₂ (Paired pairs) vs ws := by
  induction hks generalizing ws ls with
  | nil =>
    cases hls with
    | nil => exact .nil
    | cons => cases hlength
  | cons hv _ ih =>
    cases hls with
    | nil => cases hlength
    | cons hw hws =>
      refine .cons ⟨_, _, hv, hw, hmem _ List.mem_cons_self⟩ (ih hws (Nat.succ.inj hlength) ?_)
      intro p hp
      exact hmem p (List.mem_cons_of_mem _ hp)

end TwoRuns

/-- Values that are bound have canonical keys. -/
theorem bindAll_keys : ∀ {vs : List Value} {b b' : Binder} {ps : List String},
    b.bindAll vs = .ok (ps, b') → ∃ keys, vs.mapM Value.canonicalKey = .ok keys
  | [], _, _, _, _ => ⟨[], rfl⟩
  | v :: rest, b, b', ps, h => by
    obtain ⟨p, b₁, others, hbind, hothers, -⟩ := bindAll_cons_eq_ok.mp h
    obtain ⟨l, hkey, -⟩ := bind_key hbind
    obtain ⟨keys, hkeys⟩ := bindAll_keys hothers
    refine ⟨l.key :: keys, ?_⟩
    rw [List.mapM_cons, hkey, hkeys]
    rfl

end Binder

/-! ## Queries that differ in their values -/

/-- Whether two conditions differ in their values at most. -/
def Condition.AgreesWith (c d : Condition) : Prop :=
  c.field = d.field ∧ c.operator = d.operator ∧ c.connector = d.connector

theorem Condition.AgreesWith.slot_eq {c d : Condition} {s t : Slot} {v w : Value}
    (h : c.AgreesWith d) (hc : c.slot = .ok (s, v)) (hd : d.slot = .ok (t, w)) : s = t := by
  obtain ⟨hfield, hoperator, hconnector⟩ := h
  obtain ⟨op, hop, hs⟩ := bind_eq_ok.mp hc
  obtain ⟨op', hop', ht⟩ := bind_eq_ok.mp hd
  rw [hoperator, hop'] at hop
  cases hop
  cases hs
  cases ht
  rw [hfield, hconnector]

/-- Conditions that agree have the same slots. -/
theorem Condition.slots_eq {cs ds : List Condition} (h : List.Forall₂ AgreesWith cs ds)
    {ss ts : List (Slot × Value)} (hcs : cs.mapM slot = .ok ss) (hds : ds.mapM slot = .ok ts) :
    ss.map (·.1) = ts.map (·.1) := by
  rw [mapM_eq_ok] at hcs hds
  induction h generalizing ss ts with
  | nil =>
    cases hcs
    cases hds
    rfl
  | cons hcd _ ih =>
    cases hcs with
    | cons hc hcs =>
      cases hds with
      | cons hd hds => rw [List.map_cons, List.map_cons, hcd.slot_eq hc hd, ih hcs hds]

theorem Window.values_length {v w : Option Window} (h : v.isSome = w.isSome) :
    (values v).length = (values w).length := by
  cases v <;> cases w <;> first | rfl | cases h

namespace Statement

/-- The canonical keys of the values that a statement binds. -/
def boundKeys (cs : List Condition) (window : Option Window) : Except Fault (List String) := do
  let values ← boundValues cs window
  values.mapM Value.canonicalKey

/-- **Values do not show in statements.**  Two queries with the same selection and sort, with
conditions that differ in their values at most, and both with a page window or both without one,
have the same statement if the canonical keys of the values that they bind have the same pattern. -/
theorem statement_eq_of_samePattern {names : FieldNames} {select : String}
    {conditions₁ conditions₂ sortBy : Value} {cs₁ cs₂ : List Condition}
    {window₁ window₂ : Option Window} {q₁ q₂ : Query}
    (hcs₁ : Condition.ofValues conditions₁ = .ok cs₁)
    (hcs₂ : Condition.ofValues conditions₂ = .ok cs₂)
    (hagree : List.Forall₂ Condition.AgreesWith cs₁ cs₂)
    (hwindow : window₁.isSome = window₂.isSome)
    (h₁ : build names select conditions₁ sortBy window₁ = .ok q₁)
    (h₂ : build names select conditions₂ sortBy window₂ = .ok q₂) :
    ∃ keys₁ keys₂, boundKeys cs₁ window₁ = .ok keys₁ ∧ boundKeys cs₂ window₂ = .ok keys₂ ∧
      (SamePattern keys₁ keys₂ → q₁.statement = q₂.statement) := by
  obtain ⟨f₁⟩ := build_filled h₁
  obtain ⟨f₂⟩ := build_filled h₂
  obtain rfl : f₁.given = cs₁ := Except.ok.inj (f₁.given_eq.symm.trans hcs₁)
  obtain rfl : f₂.given = cs₂ := Except.ok.inj (f₂.given_eq.symm.trans hcs₂)
  obtain ⟨keys₁, hkeys₁⟩ := Binder.bindAll_keys f₁.bound
  obtain ⟨keys₂, hkeys₂⟩ := Binder.bindAll_keys f₂.bound
  refine ⟨keys₁, keys₂, ?_, ?_, fun hpattern => ?_⟩
  · exact bind_eq_ok.mpr ⟨_, bind_eq_ok.mpr ⟨f₁.slots, f₁.slots_eq, rfl⟩, hkeys₁⟩
  · exact bind_eq_ok.mpr ⟨_, bind_eq_ok.mpr ⟨f₂.slots, f₂.slots_eq, rfl⟩, hkeys₂⟩
  · have hsort : f₁.sortText = f₂.sortText := Except.ok.inj (f₁.sort_eq.symm.trans f₂.sort_eq)
    have hslots := Condition.slots_eq hagree f₁.slots_eq f₂.slots_eq
    have hcount : f₁.slots.length = f₂.slots.length := by
      simpa using congrArg List.length hslots
    have hwindowCount := Window.values_length hwindow
    have hkeyCount : keys₁.length = keys₂.length := by
      rw [← (mapM_eq_ok.mp hkeys₁).length_eq, ← (mapM_eq_ok.mp hkeys₂).length_eq]
      simp only [List.length_append, List.length_map]
      omega
    have hpaired := Binder.paired_of_keys (mapM_eq_ok.mp hkeys₁) (mapM_eq_ok.mp hkeys₂) hkeyCount
      fun p hp => hp
    -- both binders start with nothing bound, and so alike
    have hall := Binder.bindAll_alike hpattern.isOneToOne hpaired .nil f₁.bound f₂.bound
    have hlength : f₁.placeholders.length = f₂.placeholders.length := by
      rw [f₁.placeholders_length, f₂.placeholders_length, hcount]
    obtain ⟨hplaceholders, hpage⟩ := List.append_inj hall hlength
    rw [f₁.query_eq, f₂.query_eq]
    show joined _ = joined _
    rw [hslots, hplaceholders, hsort, hpage]

/-- Texts that look like statements and placeholders leave the statement that numbers leave. -/
theorem statement_eq_of_texts_and_numbers :
    let texts : Value := .list [.condition "a" (.str "1 OR 1=1") "eq" .and,
      .condition "b" (.str "@param0") "in" .or, .condition "c" (.str "1 OR 1=1") "ne" .and]
    let numbers : Value := .list [.condition "a" (.int 1) "eq" .and,
      .condition "b" (.int 1) "in" .or, .condition "c" (.int 1) "ne" .and]
    ∃ q₁ q₂, build {} (selectAll "c") texts .null (some ⟨7, 0⟩) = .ok q₁ ∧
      build {} (selectAll "c") numbers .null (some ⟨3, 2⟩) = .ok q₂ ∧
      q₁.statement = q₂.statement := by
  intro texts numbers
  have h₁ : ∃ q, build {} (selectAll "c") texts .null (some ⟨7, 0⟩) = .ok q := ⟨_, rfl⟩
  have h₂ : ∃ q, build {} (selectAll "c") numbers .null (some ⟨3, 2⟩) = .ok q := ⟨_, rfl⟩
  obtain ⟨q₁, hq₁⟩ := h₁
  obtain ⟨q₂, hq₂⟩ := h₂
  have hcs₁ : Condition.ofValues texts = .ok [⟨"a", .str "1 OR 1=1", "eq", .and⟩,
      ⟨"b", .str "@param0", "in", .or⟩, ⟨"c", .str "1 OR 1=1", "ne", .and⟩] := rfl
  have hcs₂ : Condition.ofValues numbers = .ok [⟨"a", .int 1, "eq", .and⟩,
      ⟨"b", .int 1, "in", .or⟩, ⟨"c", .int 1, "ne", .and⟩] := rfl
  have hwindow : (some (⟨7, 0⟩ : Window)).isSome = (some (⟨3, 2⟩ : Window)).isSome := rfl
  obtain ⟨keys₁, keys₂, hkeys₁, hkeys₂, hsame⟩ := statement_eq_of_samePattern hcs₁ hcs₂
    (.cons ⟨rfl, rfl, rfl⟩ (.cons ⟨rfl, rfl, rfl⟩ (.cons ⟨rfl, rfl, rfl⟩ .nil))) hwindow hq₁ hq₂
  have hlist₁ : keys₁ = ["\"1 OR 1=1\"", "[\"@param0\"]", "\"1 OR 1=1\"", "0", "7"] :=
    Except.ok.inj (hkeys₁.symm.trans rfl)
  have hlist₂ : keys₂ = ["1", "[1]", "1", "2", "3"] := Except.ok.inj (hkeys₂.symm.trans rfl)
  refine ⟨q₁, q₂, hq₁, hq₂, hsame ?_⟩
  rw [hlist₁, hlist₂]
  unfold SamePattern
  decide +kernel

end Statement

end Docstore
