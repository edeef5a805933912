import Docstore.Proofs.Query.Placeholders
import Docstore.Proofs.Query.Refilling
import Docstore.Proofs.Query.ValueIndependence
import Docstore.Proofs.Value.Enumeration

/-!
# Sets as operands

A condition may compare with a set.  All operators but one hand the set itself to the binder, which
sees its store form, and that does not depend on the order in which the set is enumerated.  The
search of an array takes the elements out first, in the order in which they come, and so what it
binds is that order.

* `build_of_reordered` — sets in other orders build the same query, if array searches get their
  elements in the same order.
* `writtenAlike_of_build` — and only if the arrays that are searched are written alike.
* `reordered_sets_compile_alike` — so it is for lists of conditions, and for conditions of one list.
-/

namespace Docstore

open Binder (literal placeholder)

namespace Value

/-- Whether two values are the same, or sets of the same elements in whatever orders; these elements
contain no sets. -/
inductive SameElements : Value → Value → Prop
  | same (v : Value) : SameElements v v
  | sets {frozen frozen' : Bool} {items items' : List Value} (hkeys : areKeys items = true)
      (hfree : areSetFree items = true) (hperm : items.Perm items') :
      SameElements (.set frozen items) (.set frozen' items')

theorem SameElements.symm {v w : Value} (h : SameElements v w) : SameElements w v := by
  cases h with
  | same => exact .same v
  | sets hkeys hfree hperm =>
    refine .sets (areKeys_iff.mpr fun v hv => ?_) (areSetFree_iff.mpr fun v hv => ?_) hperm.symm
    · exact areKeys_iff.mp hkeys v (hperm.mem_iff.mpr hv)
    · exact areSetFree_iff.mp hfree v (hperm.mem_iff.mpr hv)

/-- Sets of the same elements have the same canonical key. -/
theorem SameElements.canonicalKey {v w : Value} (h : SameElements v w) {key : String}
    (hv : v.canonicalKey = .ok key) : w.canonicalKey = .ok key := by
  cases h with
  | same => exact hv
  | sets hkeys hfree hperm => exact canonicalKey_set_of_perm hkeys hfree hperm hv

/-- Sets of the same elements are the same literal. -/
theorem SameElements.literal {v w : Value} (h : SameElements v w) {l : Literal}
    (hv : Binder.literal v = .ok l) : Binder.literal w = .ok l := by
  obtain ⟨hkey, hdata⟩ := Binder.literal_eq_ok.mp hv
  refine Binder.literal_eq_ok.mpr ⟨h.canonicalKey hkey, ?_⟩
  cases h with
  | same => exact hdata
  | sets hkeys hfree hperm =>
    exact storedData_set_of_perm (areElementary_of_canonicalKey hkeys hfree hkey) hperm hdata

end Value

/-! ## Conditions -/

/-- Whether two conditions differ at most in the order in which a set that they compare with is
enumerated. -/
structure Condition.Reordered (c d : Condition) : Prop where
  agrees : c.AgreesWith d
  operands : c.operand.SameElements d.operand

/-- Whether the array search takes the same elements in the same order from both operands, if it is
what the conditions ask for. -/
def Condition.EnumeratedAlike (c d : Condition) : Prop :=
  c.operator = Operator.isIn.text →
    (Operator.isIn.operand c.operand).storedData = (Operator.isIn.operand d.operand).storedData

/-- Whether the arrays that two conditions search are written alike, if that is what they ask for. -/
def Condition.WrittenAlike (c d : Condition) : Prop :=
  c.operator = Operator.isIn.text →
    (Operator.isIn.operand c.operand).canonicalKey = (Operator.isIn.operand d.operand).canonicalKey

namespace Operator

theorem operand_of_ne {op : Operator} (h : op ≠ isIn) (v : Value) : op.operand v = v := by
  cases op <;> first | rfl | exact absurd rfl h

theorem eq_isIn_iff {op : Operator} {s : String} (h : ofText? s = some op) :
    op = isIn ↔ s = isIn.text := by
  constructor
  · rintro rfl
    exact (text_of_ofText? h).symm
  · rintro rfl
    rw [ofText?_text] at h
    exact (Option.some.inj h).symm

/-- **Which literals do not depend on the order of a set.** -/
theorem literal_operand {op : Operator} {v w : Value} (h : v.SameElements w)
    (halike : op = isIn → (isIn.operand v).storedData = (isIn.operand w).storedData) {l : Literal}
    (hv : literal (op.operand v) = .ok l) : literal (op.operand w) = .ok l := by
  by_cases hop : op = isIn
  · subst hop
    have hdata := halike rfl
    obtain ⟨hkey, hvalue⟩ := Binder.literal_eq_ok.mp hv
    rw [hdata] at hvalue
    exact Binder.literal_eq_ok.mpr ⟨(Value.canonicalKey_of_storedData_eq hdata).mp hkey, hvalue⟩
  · rw [operand_of_ne hop] at hv ⊢
    exact h.literal hv

end Operator

namespace Condition

variable {c d : Condition}

theorem Reordered.symm (h : c.Reordered d) : d.Reordered c :=
  ⟨⟨h.agrees.1.symm, h.agrees.2.1.symm, h.agrees.2.2.symm⟩, h.operands.symm⟩

theorem EnumeratedAlike.symm (hsame : c.Reordered d) (h : c.EnumeratedAlike d) :
    d.EnumeratedAlike c :=
  fun hin => (h (hsame.agrees.2.1.trans hin)).symm

end Condition

namespace Statement

variable {names : FieldNames} {b b' : Binder}

/-! ## Two runs -/

/-- A condition compiles as one with the same literal does. -/
theorem clause_of_reordered {v w : Value} {c d : Condition} (hv : Condition.ofValue v = .ok c)
    (hw : Condition.ofValue w = .ok d) (hsame : c.Reordered d) (halike : c.EnumeratedAlike d)
    {text : String} (h : clause names b v = .ok (text, b')) :
    clause names b w = .ok (text, b') := by
  obtain ⟨hfield, hoperator, hconnector⟩ := hsame.agrees
  unfold clause Binder.compile at h ⊢
  rw [hv] at h
  obtain ⟨c', hc', h⟩ := bind_eq_ok.mp h
  obtain rfl := Except.ok.inj hc'
  obtain ⟨reference, href, h⟩ := bind_eq_ok.mp h
  obtain ⟨⟨compiled, b₁⟩, hcompiled, h⟩ := bind_eq_ok.mp h
  obtain ⟨op, hop, hcompiled⟩ := bind_eq_ok.mp hcompiled
  obtain ⟨⟨name, b₂⟩, hbind, hparameter⟩ := bind_eq_ok.mp hcompiled
  obtain ⟨l, hl, hallot⟩ := map_eq_ok.mp hbind
  have hin := Operator.eq_isIn_iff (Operator.resolve_str_eq_ok.mp hop)
  have hl' := Operator.literal_operand hsame.operands (fun h => halike (hin.mp h)) hl
  rw [hw]
  refine bind_eq_ok.mpr ⟨d, rfl, bind_eq_ok.mpr ⟨reference, hfield ▸ href,
    bind_eq_ok.mpr ⟨(compiled, b₁), ?_, ?_⟩⟩⟩
  · refine bind_eq_ok.mpr ⟨op, hoperator ▸ hop, bind_eq_ok.mpr ⟨(name, b₂), ?_, hparameter⟩⟩
    exact map_eq_ok.mpr ⟨l, hl', hallot⟩
  · exact hconnector ▸ h

theorem clauses_of_reordered {items items' : List Value} {cs ds : List Condition}
    (hcs : List.Forall₂ (fun v c => Condition.ofValue v = .ok c) items cs)
    (hds : List.Forall₂ (fun v d => Condition.ofValue v = .ok d) items' ds)
    (hsame : List.Forall₂ Condition.Reordered cs ds)
    (halike : List.Forall₂ Condition.EnumeratedAlike cs ds) {texts : List String}
    (h : clauses names items b = (.ok texts, b')) :
    clauses names items' b = (.ok texts, b') := by
  induction hcs generalizing items' ds b texts with
  | nil =>
    cases hsame
    cases hds
    exact h
  | cons hc _ ih =>
    cases hsame with
    | cons hcd hsame =>
      cases halike with
      | cons hin halike =>
        cases hds with
        | cons hd hds =>
          obtain ⟨text, b₁, others, hclause, hothers, rfl⟩ := clauses_cons_eq_ok h
          have hclause' := clause_of_reordered hc hd hcd hin hclause
          have hothers' := ih hds hsame halike hothers
          rw [clauses, hclause']
          simp only [hothers']

/-- Conditions come from the items of what counts as true, and there are none otherwise. -/
theorem ofValues_cases {v : Value} {cs : List Condition} (h : Condition.ofValues v = .ok cs) :
    v.isTruthy = false ∧ cs = [] ∨ v.isTruthy = true ∧ cs ≠ [] ∧ ∃ items, v.elements = .ok items ∧
      List.Forall₂ (fun v c => Condition.ofValue v = .ok c) items cs := by
  unfold Condition.ofValues at h
  cases htrue : v.isTruthy with
  | false =>
    rw [htrue] at h
    cases h
    exact .inl ⟨rfl, rfl⟩
  | true =>
    rw [htrue] at h
    obtain ⟨items, helements, hmap⟩ := bind_eq_ok.mp h
    have hitems := mapM_eq_ok.mp hmap
    refine .inr ⟨rfl, ?_, items, helements, hitems⟩
    rintro rfl
    cases hitems
    exact Value.elements_ne_nil htrue helements rfl

theorem filter_of_reordered {conditions conditions' : Value} {cs ds : List Condition}
    (hcs : Condition.ofValues conditions = .ok cs) (hds : Condition.ofValues conditions' = .ok ds)
    (hsame : List.Forall₂ Condition.Reordered cs ds)
    (halike : List.Forall₂ Condition.EnumeratedAlike cs ds) {text : String}
    (h : filter names conditions b = (.ok text, b')) :
    filter names conditions' b = (.ok text, b') := by
  rcases ofValues_cases hcs with ⟨hfalse, rfl⟩ | ⟨htrue, hne, items, helements, hitems⟩
  · cases hsame
    rcases ofValues_cases hds with ⟨hfalse', -⟩ | ⟨-, hne, -⟩
    · unfold filter at h ⊢
      rw [hfalse] at h
      rw [hfalse']
      exact h
    · exact absurd rfl hne
  · rcases ofValues_cases hds with ⟨-, rfl⟩ | ⟨htrue', -, items', helements', hitems'⟩
    · cases hsame
      exact absurd rfl hne
    · unfold filter at h ⊢
      simp only [htrue, helements, Bool.not_true, Bool.false_eq_true, if_false] at h
      simp only [htrue', helements', Bool.not_true, Bool.false_eq_true, if_false]
      split at h
      · cases h
      · rename_i texts b₁ hclauses
        rw [clauses_of_reordered hitems hitems' hsame halike hclauses]
        exact h

/-- **Sets in other orders build the same query**, if array searches get their elements in the same
order. -/
theorem build_of_reordered {select : String} {conditions conditions' sortBy : Value}
    {window : Option Window} {cs ds : List Condition} {q : Query}
    (hcs : Condition.ofValues conditions = .ok cs) (hds : Condition.ofValues conditions' = .ok ds)
    (hsame : List.Forall₂ Condition.Reordered cs ds)
    (halike : List.Forall₂ Condition.EnumeratedAlike cs ds)
    (h : build names select conditions sortBy window = .ok q) :
    build names select conditions' sortBy window = .ok q := by
  obtain ⟨filterText, b, sortText, pageText, b', hfilter, hsort, hpage, hq⟩ := build_eq_ok.mp h
  exact build_eq_ok.mpr ⟨filterText, b, sortText, pageText, b',
    filter_of_reordered hcs hds hsame halike hfilter, hsort, hpage, hq⟩

end Statement

/-! ## Conditions of one query -/

namespace Statement

section

variable {select : String} {conditions sortBy : Value} {window : Option Window} {q : Query}

/-- The placeholder of a condition stands for what its operator compares with. -/
theorem Filling.standsFor (f : Filling names select conditions sortBy window q) {i : Nat}
    {c : Condition} (hc : f.given[i]? = some c) : ∃ op p, Operator.ofText? c.operator = some op ∧
      f.placeholders[i]? = some p ∧ f.binder.StandsFor (op.operand c.operand) p := by
  have hall : List.Forall₂ f.binder.StandsFor (f.slots.map (·.2)) f.placeholders := by
    have htake := List.forall₂_take f.slots.length (Binder.bindAll_standsFor f.bound)
    rwa [List.take_left' (List.length_map _), List.take_left' f.placeholders_length] at htake
  obtain ⟨⟨s, v⟩, hs, hslot⟩ := exists_of_getElem? (mapM_eq_ok.mp f.slots_eq) hc
  obtain ⟨op, hop, h⟩ := bind_eq_ok.mp hslot
  cases h
  have hv : (f.slots.map (·.2))[i]? = some (op.operand c.operand) := by
    rw [List.getElem?_map, hs]
    rfl
  obtain ⟨p, hp, hstands⟩ := exists_of_getElem? hall hv
  exact ⟨op, p, Operator.resolve_str_eq_ok.mp hop, hp, hstands⟩

/-- **Conditions with the same operator and sets of the same elements share a placeholder**, unless
they search arrays that are not written alike. -/
theorem Filling.shared_iff (f : Filling names select conditions sortBy window q) {i j : Nat}
    {c d : Condition} (hc : f.given[i]? = some c) (hd : f.given[j]? = some d)
    (hoperator : c.operator = d.operator) (hsame : c.operand.SameElements d.operand) :
    f.placeholders[i]? = f.placeholders[j]? ↔ c.WrittenAlike d := by
  obtain ⟨op, p, hop, hp, hstands⟩ := f.standsFor hc
  obtain ⟨op', p', hop', hp', hstands'⟩ := f.standsFor hd
  obtain rfl : op = op' := Option.some.inj (hop.symm.trans (hoperator ▸ hop'))
  have hdistinct := Binder.isDistinct_empty.bindAll f.bound
  rw [hp, hp', Option.some.injEq, hstands.eq_iff hdistinct hstands']
  unfold Condition.WrittenAlike
  rw [← Operator.eq_isIn_iff hop]
  by_cases hin : op = .isIn
  · subst hin
    exact ⟨fun h _ => h, fun h => h rfl⟩
  · rw [Operator.operand_of_ne hin] at hstands
    rw [Operator.operand_of_ne hin, Operator.operand_of_ne hin]
    obtain ⟨-, l, -, -, hkey⟩ := hstands
    exact ⟨fun _ h => absurd h hin, fun _ => hkey.trans (hsame.canonicalKey hkey).symm⟩

theorem Filling.exists_numbers (f : Filling names select conditions sortBy window q) :
    ∃ numbers pageNumbers : List Nat, f.placeholders = numbers.map placeholder ∧
      f.pagePlaceholders = pageNumbers.map placeholder := by
  obtain ⟨numbers, hnumbers, -⟩ := Binder.bindAll_numbers f.bound
  obtain ⟨conditionNumbers, pageNumbers, -, hconditions, hpage⟩ :=
    List.map_eq_append_iff.mp hnumbers.symm
  exact ⟨conditionNumbers, pageNumbers, hconditions.symm, hpage.symm⟩

/-- Conditions that differ in their values only, and build the same query, have the same
placeholders. -/
theorem Filling.placeholders_eq {conditions' : Value}
    (f : Filling names select conditions sortBy window q)
    (g : Filling names select conditions' sortBy window q)
    (hagree : List.Forall₂ Condition.AgreesWith f.given g.given) :
    f.placeholders = g.placeholders := by
  obtain ⟨ms, pms, hms, hpms⟩ := f.exists_numbers
  obtain ⟨ns, pns, hns, hpns⟩ := g.exists_numbers
  have hslots := Condition.slots_eq hagree f.slots_eq g.slots_eq
  have hmLength : ms.length = (f.slots.map (·.1)).length := by
    rw [List.length_map, ← f.placeholders_length, hms, List.length_map]
  have hnLength : ns.length = (f.slots.map (·.1)).length := by
    rw [hslots, List.length_map, ← g.placeholders_length, hns, List.length_map]
  have hstatement := congrArg Query.statement (f.query_eq.symm.trans g.query_eq)
  dsimp only at hstatement
  rw [← hslots, hms, hns] at hstatement
  rw [hms, hns, numbers_eq_of_joined_eq hmLength hnLength hstatement]

end

/-- **The order of a set shows in an array search**: lists of conditions that differ in the orders of
sets only build the same query only if the arrays that they search are written alike. -/
theorem writtenAlike_of_build {select : String} {conditions conditions' sortBy : Value}
    {window : Option Window} {cs ds : List Condition} {q : Query}
    (hcs : Condition.ofValues conditions = .ok cs) (hds : Condition.ofValues conditions' = .ok ds)
    (hsame : List.Forall₂ Condition.Reordered cs ds)
    (h : build names select conditions sortBy window = .ok q)
    (h' : build names select conditions' sortBy window = .ok q) :
    List.Forall₂ Condition.WrittenAlike cs ds := by
  obtain ⟨f⟩ := build_filled h
  obtain ⟨g⟩ := build_filled h'
  obtain rfl : f.given = cs := Except.ok.inj (f.given_eq.symm.trans hcs)
  obtain rfl : g.given = ds := Except.ok.inj (g.given_eq.symm.trans hds)
  have hplaceholders := f.placeholders_eq g (hsame.imp fun _ _ h => h.agrees)
  have hparameters : f.binder.parameters = g.binder.parameters :=
    congrArg Query.parameters (f.query_eq.symm.trans g.query_eq)
  refine List.forall₂_iff_get.mpr ⟨hsame.length_eq, fun i hi hj hin => ?_⟩
  obtain ⟨op, p, hop, hp, hstands⟩ := f.standsFor (List.getElem?_eq_getElem hi)
  obtain ⟨op', p', hop', hp', hstands'⟩ := g.standsFor (List.getElem?_eq_getElem hj)
  obtain rfl : p = p' := Option.some.inj (hp.symm.trans (hplaceholders ▸ hp'))
  have hoperator := ((List.forall₂_iff_get.mp hsame).2 i hi hj).agrees.2.1
  obtain rfl := (Operator.eq_isIn_iff hop).mpr hin
  obtain rfl := (Operator.eq_isIn_iff hop').mpr (hoperator.symm.trans hin)
  exact hstands.canonicalKey_eq (Binder.isDistinct_empty.bindAll f.bound)
    (Binder.isDistinct_empty.bindAll g.bound) hparameters hstands'

/-- **Sets compile canonically, but for array searches.**  Lists of conditions that differ in the
orders of sets only build the same query if array searches get their elements in the same order, and
only if these arrays are written alike; and conditions of one query with the same operator and sets
of the same elements share a placeholder exactly if they do not search arrays that are written
differently. -/
theorem reordered_sets_compile_alike {select : String} {conditions conditions' sortBy : Value}
    {window : Option Window} {cs ds : List Condition}
    (hcs : Condition.ofValues conditions = .ok cs) (hds : Condition.ofValues conditions' = .ok ds)
    (hsame : List.Forall₂ Condition.Reordered cs ds) :
    (List.Forall₂ Condition.EnumeratedAlike cs ds → ∀ q,
      build names select conditions sortBy window = .ok q ↔
        build names select conditions' sortBy window = .ok q) ∧
    (∀ q, build names select conditions sortBy window = .ok q →
      build names select conditions' sortBy window = .ok q →
      List.Forall₂ Condition.WrittenAlike cs ds) ∧
    ∀ q (f : Filling names select conditions sortBy window q) (i j : Nat) (c d : Condition),
      cs[i]? = some c → cs[j]? = some d → c.operator = d.operator →
      c.operand.SameElements d.operand →
      (f.placeholders[i]? = f.placeholders[j]? ↔ c.WrittenAlike d) := by
  refine ⟨fun halike q => ?_, fun q h h' => writtenAlike_of_build hcs hds hsame h h', ?_⟩
  · have hback : List.Forall₂ Condition.Reordered ds cs :=
      (hsame.imp fun _ _ h => h.symm).flip
    have halikeBack : List.Forall₂ Condition.EnumeratedAlike ds cs :=
      (List.Forall₂.mp (fun _ _ hcd h => h.symm hcd) hsame halike).flip
    exact ⟨build_of_reordered hcs hds hsame halike, build_of_reordered hds hcs hback halikeBack⟩
  · intro q f i j c d hc hd hoperator hoperands
    obtain rfl : f.given = cs := Except.ok.inj (f.given_eq.symm.trans hcs)
    exact f.shared_iff hc hd hoperator hoperands

/-- Two equalities with a set in either order share a placeholder, and the array search next to them
keeps its own. -/
theorem reordered_sets_compile_alike_in_three_conditions :
    let up : Value := .set false [.int 0, .int 8]
    let down : Value := .set false [.int 8, .int 0]
    let conditions : Value := .list [.condition "a" up "eq" .and, .condition "b" down "eq" .or,
      .condition "c" down "in" .and]
    let conditions' : Value := .list [.condition "a" down "eq" .and, .condition "b" up "eq" .or,
      .condition "c" down "in" .and]
    ∃ q, build {} (selectAll "c") conditions = .ok q ∧
      build {} (selectAll "c") conditions' = .ok q ∧
      ∃ f : Filling {} (selectAll "c") conditions .null none q,
        f.placeholders.length = 3 ∧ f.placeholders[0]? = f.placeholders[1]? := by
  intro up down conditions conditions'
  have hcs : Condition.ofValues conditions =
    .ok [⟨"a", up, "eq", .and⟩, ⟨"b", down, "eq", .or⟩, ⟨"c", down, "in", .and⟩] := rfl
  have hds : Condition.ofValues conditions' =
    .ok [⟨"a", down, "eq", .and⟩, ⟨"b", up, "eq", .or⟩, ⟨"c", down, "in", .and⟩] := rfl
  have hupDown : up.SameElements down := .sets rfl rfl (List.Perm.swap _ _ _)
  have hequality : ∀ {c d : Condition}, c.operator = "eq" →
      c.EnumeratedAlike d ∧ c.WrittenAlike d := by
    intro c d hc
    constructor <;>
    · intro hin
      rw [hc] at hin
      exact absurd hin (by decide)
  obtain ⟨hbuild, -, hshared⟩ := @reordered_sets_compile_alike {} (selectAll "c") conditions
    conditions' .null none _ _ hcs hds
    (.cons ⟨⟨rfl, rfl, rfl⟩, hupDown⟩ (.cons ⟨⟨rfl, rfl, rfl⟩, hupDown.symm⟩
      (.cons ⟨⟨rfl, rfl, rfl⟩, .same down⟩ .nil)))
  have halike := hbuild
    (.cons (hequality rfl).1 (.cons (hequality rfl).1 (.cons (fun _ => rfl) .nil)))
  have hq : ∃ q, build {} (selectAll "c") conditions = .ok q := ⟨_, rfl⟩
  obtain ⟨q, hq⟩ := hq
  obtain ⟨f⟩ := build_filled hq
  have hgiven := congrArg List.length (Except.ok.inj (f.given_eq.symm.trans hcs))
  refine ⟨q, hq, (halike q).mp hq, f, ?_, ?_⟩
  · rw [f.placeholders_length, ← (mapM_eq_ok.mp f.slots_eq).length_eq, hgiven]
    rfl
  · exact (hshared q f 0 1 _ _ rfl rfl rfl hupDown).mpr (hequality rfl).2

/-- **An array search keeps the order of a set**: it binds the elements as they come, so that the
same set in two orders gives two queries, and two placeholders within one query. -/
theorem array_search_keeps_order :
    let up : Value := .set false [.int 0, .int 8]
    let down : Value := .set false [.int 8, .int 0]
    up.SameElements down ∧
    (∃ q, build {} (selectAll "c") (.list [.condition "a" up "in" .and]) = .ok q ∧
      q.parameters = [⟨"@param0", .list [.int 0, .int 8]⟩]) ∧
    (∃ q, build {} (selectAll "c") (.list [.condition "a" down "in" .and]) = .ok q ∧
      q.parameters = [⟨"@param0", .list [.int 8, .int 0]⟩]) ∧
    ∃ q, build {} (selectAll "c")
      (.list [.condition "a" up "in" .and, .condition "b" down "in" .and]) = .ok q ∧
      q.statement = "SELECT * FROM c WHERE 1=1 AND ARRAY_CONTAINS(@param0, c.a) AND " ++
        "ARRAY_CONTAINS(@param1, c.b)" ∧
      q.parameters = [⟨"@param0", .list [.int 0, .int 8]⟩, ⟨"@param1", .list [.int 8, .int 0]⟩] := by
  intro up down
  exact ⟨.sets rfl rfl (List.Perm.swap _ _ _), ⟨_, rfl, rfl⟩, ⟨_, rfl, rfl⟩, ⟨_, rfl, rfl, rfl⟩⟩

end Statement

end Docstore
