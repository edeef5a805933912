import Docstore.Proofs.Query.FilterMeaning

/-!
# Statements as outlines

What a statement says apart from its literals is an outline: a selection, a slot for each condition,
a sort, and perhaps a page window.  Building a statement binds the values of the conditions in order
and then those of the page window, and fills the outline with the placeholders that they get.  The
values themselves go into the parameters only.

* `clauses_slots` — what a run over conditions binds and which slots it fills.
* `build_filled` — a statement that is built is its outline, filled with placeholders.
-/

namespace Docstore

namespace Binder

/-- Binds values one after the other. -/
def bindAll : List Value → Binder → Except Fault (List String × Binder)
  | [], b => .ok ([], b)
  | v :: rest, b => do
    let (placeholder, b') ← b.bind v
    let (placeholders, b'') ← bindAll rest b'
    return (placeholder :: placeholders, b'')

theorem bindAll_cons_eq_ok {v : Value} {rest : List Value} {b b' : Binder} {ps : List String} :
    bindAll (v :: rest) b = .ok (ps, b') ↔ ∃ p b₁ others, b.bind v = .ok (p, b₁) ∧
      bindAll rest b₁ = .ok (others, b') ∧ ps = p :: others := by
  rw [bindAll]
  constructor
  · intro h
    obtain ⟨⟨p, b₁⟩, hbind, h⟩ := bind_eq_ok.mp h
    obtain ⟨⟨others, b₂⟩, hothers, h⟩ := bind_eq_ok.mp h
    cases h
    exact ⟨p, b₁, others, hbind, hothers, rfl⟩
  · rintro ⟨p, b₁, others, hbind, hothers, rfl⟩
    exact bind_eq_ok.mpr ⟨(p, b₁), hbind, bind_eq_ok.mpr ⟨(others, b'), hothers, rfl⟩⟩

/-- Values are bound in parts as they are at once. -/
theorem bindAll_append {ws : List Value} {b₁ b₂ : Binder} {qs : List String}
    (hws : bindAll ws b₁ = .ok (qs, b₂)) : ∀ {vs : List Value} {b : Binder} {ps : List String},
      bindAll vs b = .ok (ps, b₁) → bindAll (vs ++ ws) b = .ok (ps ++ qs, b₂)
  | [], b, ps, h => by
    cases h
    exact hws
  | v :: rest, b, ps, h => by
    obtain ⟨p, b', others, hbind, hothers, rfl⟩ := bindAll_cons_eq_ok.mp h
    exact bindAll_cons_eq_ok.mpr ⟨p, b', others ++ qs, hbind, bindAll_append hws hothers, rfl⟩

/-- What binding one value keeps, binding all of them keeps. -/
theorem bindAll_keeps {P : Binder → Prop}
    (hstep : ∀ {b b' : Binder} {v : Value} {p : String}, P b → b.bind v = .ok (p, b') → P b') :
    ∀ {vs : List Value} {b b' : Binder} {ps : List String}, P b → bindAll vs b = .ok (ps, b') → P b'
  | [], b, b', ps, hb, h => by
    cases h
    exact hb
  | v :: rest, b, b', ps, hb, h => by
    obtain ⟨p, b₁, others, hbind, hothers, rfl⟩ := bindAll_cons_eq_ok.mp h
    exact bindAll_keeps hstep (hstep hb hbind) hothers

theorem bindAll_length : ∀ {vs : List Value} {b b' : Binder} {ps : List String},
    bindAll vs b = .ok (ps, b') → ps.length = vs.length
  | [], b, b', ps, h => by
    cases h
    rfl
  | v :: rest, b, b', ps, h => by
    obtain ⟨p, b₁, others, -, hothers, rfl⟩ := bindAll_cons_eq_ok.mp h
    rw [List.length_cons, List.length_cons, bindAll_length hothers]

end Binder

/-! ## Slots -/

/-- What a condition says apart from its value. -/
structure Slot where
  field : String
  operator : Operator
  connector : Connector

/-- The clause of a condition, given the placeholder of its value. -/
def Slot.text (names : FieldNames) (s : Slot) (placeholder : String) : String :=
  s.connector.text ++ " " ++ Fragment.text s.operator (names.ref s.field) placeholder

namespace Condition

/-- The conditions that a query is given; none if the value counts as false. -/
def ofValues (v : Value) : Except Fault (List Condition) :=
  if !v.isTruthy then .ok []
  else do
    let items ← v.elements
    items.mapM ofValue

/-- The slot of a condition, and the value that is bound for it. -/
def slot (c : Condition) : Except Fault (Slot × Value) := do
  let op ← Operator.resolve (.str c.operator)
  return (⟨c.field, op, c.connector⟩, op.operand c.operand)

end Condition

/-- The values that a page window binds, in order. -/
def Window.values (window : Option Window) : List Value :=
  match window with
  | none => []
  | some w => [.int w.offset, .int w.limit]

/-- What counts as true and can be enumerated has elements. -/
theorem Value.elements_ne_nil {v : Value} {items : List Value} (h : v.isTruthy = true)
    (helements : v.elements = .ok items) : items ≠ [] := by
  rintro rfl
  have hnone : v.elements? = some [] := by
    unfold elements at helements
    split at helements
    · rename_i hitems
      cases helements
      exact hitems
    · cases helements
  cases v with
  | operator op => cases op <;> cases hnone
  | connector c => cases c <;> cases hnone
  | direction d => cases d <;> cases hnone
  | _ => simp_all [elements?, isTruthy, characters, text?, fields?]

namespace Statement

/-- The filter of a statement, given its slots and their placeholders. -/
def filterText (names : FieldNames) (slots : List Slot) (placeholders : List String) : String :=
  if slots.isEmpty then ""
  else " ".intercalate (anchor :: List.zipWith (Slot.text names) slots placeholders)

/-- The page window of a statement, given the placeholders of the offset and the limit, if there is
one. -/
def pageText : (placeholders : List String) → String
  | [offset, limit] => "OFFSET " ++ offset ++ " LIMIT " ++ limit
  | _ => ""

/-- The values that a statement binds: those of the conditions in order, then the offset and the
limit. -/
def boundValues (cs : List Condition) (window : Option Window) : Except Fault (List Value) := do
  let slots ← cs.mapM Condition.slot
  return slots.map (·.2) ++ Window.values window

/-- A clause binds the value of its condition and fills its slot. -/
theorem clause_slot {names : FieldNames} {b b' : Binder} {v : Value} {text : String}
    (h : clause names b v = .ok (text, b')) : ∃ c s w p, Condition.ofValue v = .ok c ∧
      c.slot = .ok (s, w) ∧ b.bind w = .ok (p, b') ∧ text = s.text names p := by
  obtain ⟨c, hc, -⟩ := bind_eq_ok.mp h
  obtain ⟨compiled, hcompiled, rfl⟩ := clause_eq_ok hc h
  obtain ⟨op, name, hop, hbind, hfragment⟩ := compile_eq_ok hcompiled
  refine ⟨c, ⟨c.field, op, c.connector⟩, op.operand c.operand, name, hc, ?_, hbind, ?_⟩
  · exact bind_eq_ok.mpr ⟨op, Operator.resolve_str_eq_ok.mpr hop, rfl⟩
  · rw [hfragment]
    rfl

/-- **What a run over conditions binds**, and which slots it fills. -/
theorem clauses_slots {names : FieldNames} : ∀ {items : List Value} {b b' : Binder}
    {texts : List String}, clauses names items b = (.ok texts, b') → ∃ cs slots ps,
      items.mapM Condition.ofValue = .ok cs ∧ cs.mapM Condition.slot = .ok slots ∧
      b.bindAll (slots.map (·.2)) = .ok (ps, b') ∧
      texts = List.zipWith (Slot.text names) (slots.map (·.1)) ps
  | [], b, b', texts, h => by
    cases h
    exact ⟨[], [], [], rfl, rfl, rfl, rfl⟩
  | v :: rest, b, b', texts, h => by
    obtain ⟨text, b₁, others, hclause, hothers, rfl⟩ := clauses_cons_eq_ok h
    obtain ⟨c, s, w, p, hc, hs, hbind, rfl⟩ := clause_slot hclause
    obtain ⟨cs, slots, ps, hcs, hslots, hbindAll, rfl⟩ := clauses_slots hothers
    refine ⟨c :: cs, (s, w) :: slots, p :: ps, ?_, ?_, ?_, rfl⟩
    · rw [List.mapM_cons, hc, hcs]
      rfl
    · rw [List.mapM_cons, hs, hslots]
      rfl
    · exact Binder.bindAll_cons_eq_ok.mpr ⟨p, b₁, ps, hbind, hbindAll, rfl⟩

theorem filter_slots {names : FieldNames} {conditions : Value} {b b' : Binder} {text : String}
    (h : filter names conditions b = (.ok text, b')) : ∃ cs slots ps,
      Condition.ofValues conditions = .ok cs ∧ cs.mapM Condition.slot = .ok slots ∧
      b.bindAll (slots.map (·.2)) = .ok (ps, b') ∧
      text = filterText names (slots.map (·.1)) ps := by
  unfold filter at h
  by_cases htrue : conditions.isTruthy = true
  · rw [htrue] at h
    simp only [Bool.not_true, Bool.false_eq_true, if_false] at h
    split at h
    · cases h
    · rename_i items helements
      split at h
      · cases h
      · rename_i texts b₁ hclauses
        cases h
        obtain ⟨cs, slots, ps, hcs, hslots, hbind, rfl⟩ := clauses_slots hclauses
        refine ⟨cs, slots, ps, ?_, hslots, hbind, ?_⟩
        · rw [Condition.ofValues, htrue]
          exact bind_eq_ok.mpr ⟨items, helements, hcs⟩
        · have hne : slots.map (·.1) ≠ [] := by
            rw [← List.length_pos_iff, List.length_map, ← (mapM_eq_ok.mp hslots).length_eq,
              ← (mapM_eq_ok.mp hcs).length_eq, List.length_pos_iff]
            exact Value.elements_ne_nil htrue helements
          rw [filterText, if_neg (by simpa using hne)]
  · rw [Bool.eq_false_of_not_eq_true htrue] at h
    cases h
    refine ⟨[], [], [], ?_, rfl, rfl, rfl⟩
    rw [Condition.ofValues, Bool.eq_false_of_not_eq_true htrue]
    rfl

theorem page_values {window : Option Window} {b b' : Binder} {text : String}
    (h : page window b = (.ok text, b')) :
    ∃ ps, b.bindAll (Window.values window) = .ok (ps, b') ∧ text = pageText ps := by
  cases window with
  | none =>
    cases h
    exact ⟨[], rfl, rfl⟩
  | some w =>
    rw [page] at h
    split at h
    · cases h
    · rename_i offset b₁ hoffset
      split at h
      · cases h
      · rename_i limit b₂ hlimit
        cases h
        have hlast : b₁.bindAll [.int w.limit] = .ok ([limit], b') :=
          Binder.bindAll_cons_eq_ok.mpr ⟨limit, b', [], hlimit, rfl, rfl⟩
        exact ⟨[offset, limit],
          Binder.bindAll_cons_eq_ok.mpr ⟨offset, b₁, [limit], hoffset, hlast, rfl⟩, rfl⟩

/-- How a query was built: its conditions, their slots with the values that are bound for them, and
the placeholders that these values and those of the page window got. -/
structure Filling (names : FieldNames) (select : String) (conditions sortBy : Value)
    (window : Option Window) (q : Query) where
  given : List Condition
  slots : List (Slot × Value)
  sortText : String
  placeholders : List String
  pagePlaceholders : List String
  binder : Binder
  given_eq : Condition.ofValues conditions = .ok given
  slots_eq : given.mapM Condition.slot = .ok slots
  sort_eq : orderBy names sortBy = .ok sortText
  bound : Binder.bindAll (slots.map (·.2) ++ Window.values window) {} =
    .ok (placeholders ++ pagePlaceholders, binder)
  placeholders_length : placeholders.length = slots.length
  pagePlaceholders_length : pagePlaceholders.length = (Window.values window).length
  query_eq : q = ⟨joined [select, filterText names (slots.map (·.1)) placeholders, sortText,
    pageText pagePlaceholders], binder.parameters⟩

/-- **A statement that is built is its outline, filled** with the placeholders of its values. -/
theorem build_filled {names : FieldNames} {select : String} {conditions sortBy : Value}
    {window : Option Window} {q : Query}
    (h : build names select conditions sortBy window = .ok q) :
    Nonempty (Filling names select conditions sortBy window q) := by
  obtain ⟨filterText, b, sortText, pageText, b', hfilter, hsort, hpage, hq⟩ := build_eq_ok.mp h
  obtain ⟨cs, slots, ps, hcs, hslots, hbind, rfl⟩ := filter_slots hfilter
  obtain ⟨pagePs, hbindPage, rfl⟩ := page_values hpage
  have hlength := Binder.bindAll_length hbind
  rw [List.length_map] at hlength
  exact ⟨⟨cs, slots, sortText, ps, pagePs, b', hcs, hslots, hsort,
    Binder.bindAll_append hbindPage hbind, hlength, Binder.bindAll_length hbindPage, hq⟩⟩

end Statement

end Docstore
