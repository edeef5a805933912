import Docstore.Proofs.Query.FilterText

/-!
# Filters mean their conditions

The filter of a built statement, read and evaluated as the store does it, is true exactly if the
conditions are: each applies its own operator to its own field and to the datum of its own operand,
whichever placeholders the conditions, the sort and the page window share.

* `clauses_spec` — what a run over conditions binds and writes: one clause for each condition.
* `readChain_clauses` — clauses are read as the chain of their conditions.
* `orderBy_eq_ok`, `build_eq_ok` — when a sort and a statement are built, and what they are.
-/

namespace Docstore

/-! ## Conditions without statements -/

/-- What an operator compares with, as a datum.  The search of an array takes the elements of a
collection, or a single datum as the only element. -/
def Operator.datum? (op : Operator) (v : Value) : Option Datum :=
  match op with
  | .isIn => match v with
    | .list items | .tuple items | .set _ items => (items.mapM Value.datum?).map .array
    | _ => v.datum?.map fun d => .array [d]
  | _ => v.datum?

/-- Whether a condition is true, with the connector that joins it to those before it. -/
def Condition.link? (names : FieldNames) (meaning : Filter.Interpretation) (c : Condition) :
    Option (Connector × Bool) := do
  let op ← Operator.ofText? c.operator
  let d ← op.datum? c.operand
  return (c.connector, meaning op (names.ref c.field) d)

/-- Whether conditions are true, read as a chain that starts with what is true. -/
def Condition.hold? (names : FieldNames) (meaning : Filter.Interpretation) (cs : List Condition) :
    Option Bool :=
  (cs.mapM (link? names meaning)).map (Filter.truth true)

/-- Whether the filter of a query that starts with a selection is true. -/
def Query.selects? (q : Query) (select : String) (meaning : Filter.Interpretation) :
    Option Bool := do
  let e ← Filter.read (Filter.tokens [] (q.statement.toList.drop select.length))
  e.holds meaning q.parameters

/-! ## Operands -/

namespace Operator

theorem hasTextKeys_operand (op : Operator) {v : Value} (h : v.hasTextKeys = true) :
    (op.operand v).hasTextKeys = true := by
  cases op
  case isIn =>
    cases v <;> simp_all [operand, Value.hasTextKeys, Value.haveTextKeys]
  all_goals exact h

/-- The operand of an operator is stored as the datum that the operator compares with. -/
theorem datum?_operand (op : Operator) (v : Value) : (op.operand v).datum? = op.datum? v := by
  cases op
  case isIn =>
    cases v
    case list items | tuple items | set frozen items => exact Value.datum?_list items
    all_goals
      unfold operand datum?
      rw [Value.datum?_list, List.mapM_cons]
      simp only [List.mapM_nil]
      generalize Value.datum? _ = d
      cases d <;> rfl
  all_goals rfl

/-- The operand of an operator has a canonical key if the value has one. -/
theorem canonicalKey_operand (op : Operator) {v : Value} {key : String}
    (h : v.canonicalKey = .ok key) : ∃ key', (op.operand v).canonicalKey = .ok key' := by
  cases op
  case isIn =>
    cases v
    case list items | tuple items => exact ⟨key, h⟩
    case set frozen items => exact Value.canonicalKey_list_of_set h
    all_goals exact Value.canonicalKey_singleton h
  all_goals exact ⟨key, h⟩

theorem resolve_str_eq_ok {s : String} {op : Operator} :
    resolve (.str s) = .ok op ↔ ofText? s = some op := by
  unfold resolve
  simp only [Value.text?, Option.bind_some]
  cases ofText? s <;> simp [bind, Except.bind]

end Operator

/-! ## Names -/

/-- A text without blanks, marks of placeholders and punctuation. -/
def IsClean (s : String) : Prop := ∀ c ∈ s.toList, Filter.isPart c = true

instance (s : String) : Decidable (IsClean s) :=
  decidable_of_iff (s.toList.all Filter.isPart = true) List.all_eq_true

theorem FieldNames.ref_isWord {names : FieldNames} {field : String} (ha : IsClean names.aliasName)
    (hf : IsClean (names.physical field)) : Filter.IsWord (names.ref field) := by
  have hchars : (names.ref field).toList =
      names.aliasName.toList ++ '.' :: (names.physical field).toList := by
    simp [ref]
  constructor
  · intro h
    rw [h] at hchars
    simp at hchars
  · intro c hc
    rw [hchars] at hc
    rcases List.mem_append.mp hc with hc | hc
    · exact ha c hc
    · rcases List.mem_cons.mp hc with rfl | hc
      · decide
      · exact hf c hc

theorem FieldNames.ref_ne_anchor (names : FieldNames) (field : String) :
    names.ref field ≠ "1=1" := by
  intro h
  have hchars : (names.ref field).toList =
      names.aliasName.toList ++ '.' :: (names.physical field).toList := by
    simp [ref]
  have hmem : '.' ∈ (names.ref field).toList := by
    rw [hchars]
    simp
  rw [h] at hmem
  exact absurd hmem (by decide)

namespace Statement

/-! ## Compilation -/

theorem compile_eq_ok {b b' : Binder} {field operator : String} {operand : Value}
    {compiled : CompiledCondition} (h : b.compile field operator operand = .ok (compiled, b')) :
    ∃ op name, Operator.ofText? operator = some op ∧ b.bind (op.operand operand) = .ok (name, b') ∧
      compiled.fragment = Fragment.text op field name := by
  unfold Binder.compile at h
  obtain ⟨op, hop, h⟩ := bind_eq_ok.mp h
  obtain ⟨⟨name, b''⟩, hbind, h⟩ := bind_eq_ok.mp h
  obtain ⟨parameter, -, h⟩ := bind_eq_ok.mp h
  cases h
  exact ⟨op, name, Operator.resolve_str_eq_ok.mp hop, hbind, rfl⟩

/-- A text is the clause of a condition: it names a placeholder that stands for the condition's
operand. -/
def IsClause (names : FieldNames) (b : Binder) (c : Condition) (text : String) : Prop :=
  ∃ op number d, Operator.ofText? c.operator = some op ∧ op.datum? c.operand = some d ∧
    b.Holds number d ∧
    text = c.connector.text ++ " " ++
      Fragment.text op (names.ref c.field) (Binder.placeholder number)

theorem IsClause.mono {names : FieldNames} {b b' : Binder} {c : Condition} {text : String}
    (h : IsClause names b c text) (hext : b.bound <+: b'.bound) : IsClause names b' c text := by
  obtain ⟨op, number, d, hop, hd, hholds, htext⟩ := h
  exact ⟨op, number, d, hop, hd, hholds.mono hext, htext⟩

theorem clause_eq_ok {names : FieldNames} {b b' : Binder} {v : Value} {c : Condition}
    {text : String} (hc : Condition.ofValue v = .ok c) (h : clause names b v = .ok (text, b')) :
    ∃ compiled, b.compile (names.ref c.field) c.operator c.operand = .ok (compiled, b') ∧
      text = c.connector.text ++ " " ++ compiled.fragment := by
  unfold clause at h
  obtain ⟨c', hc', h⟩ := bind_eq_ok.mp h
  obtain rfl : c = c' := Except.ok.inj (hc.symm.trans hc')
  obtain ⟨reference, href, h⟩ := bind_eq_ok.mp h
  obtain ⟨-, rfl⟩ := FieldNames.reference_eq_ok.mp href
  obtain ⟨⟨compiled, b''⟩, hcompiled, h⟩ := bind_eq_ok.mp h
  cases h
  exact ⟨compiled, hcompiled, rfl⟩

theorem clauses_cons_eq_ok {names : FieldNames} {b b' : Binder} {v : Value} {rest : List Value}
    {texts : List String} (h : clauses names (v :: rest) b = (.ok texts, b')) :
    ∃ text b₁ others, clause names b v = .ok (text, b₁) ∧
      clauses names rest b₁ = (.ok others, b') ∧ texts = text :: others := by
  unfold clauses at h
  split at h
  · cases h
  · rename_i text b₁ hclause
    split at h
    · cases h
    · rename_i others b₂ hothers
      cases h
      exact ⟨text, b₁, others, hclause, hothers, rfl⟩

/-- The step of a run: a condition is compiled to its clause. -/
theorem clause_spec {names : FieldNames} {b b' : Binder} {v : Value} {c : Condition} {text : String}
    (h : clause names b v = .ok (text, b')) (hc : Condition.ofValue v = .ok c) (hb : b.Sound)
    (htext : c.operand.hasTextKeys = true) :
    b'.Sound ∧ b.bound <+: b'.bound ∧ IsClause names b' c text := by
  obtain ⟨compiled, hcompiled, rfl⟩ := clause_eq_ok hc h
  obtain ⟨op, name, hop, hbind, hfragment⟩ := compile_eq_ok hcompiled
  obtain ⟨hsound, number, d, rfl, hd, hholds⟩ :=
    Binder.bind_holds hb (op.hasTextKeys_operand htext) hbind
  rw [Operator.datum?_operand] at hd
  exact ⟨hsound, Binder.bind_prefix hbind, op, number, d, hop, hd, hholds, by rw [hfragment]⟩

/-- **What a run over conditions writes**: one clause for each condition, in order. -/
theorem clauses_spec {names : FieldNames} {items : List Value} {cs : List Condition}
    (hcs : List.Forall₂ (fun v c => Condition.ofValue v = .ok c) items cs) {b b' : Binder}
    {texts : List String} (h : clauses names items b = (.ok texts, b')) (hb : b.Sound)
    (htext : ∀ c ∈ cs, c.operand.hasTextKeys = true) :
    b.bound <+: b'.bound ∧ List.Forall₂ (IsClause names b') cs texts := by
  induction hcs generalizing b texts with
  | nil =>
    cases h
    exact ⟨List.prefix_refl _, .nil⟩
  | cons hc hrest ih =>
    obtain ⟨text, b₁, others, hclause, hothers, rfl⟩ := clauses_cons_eq_ok h
    obtain ⟨hsound, hext, hstep⟩ := clause_spec hclause hc hb (htext _ List.mem_cons_self)
    obtain ⟨hext', hclauses⟩ :=
      ih hothers hsound fun c hc => htext c (List.mem_cons_of_mem _ hc)
    -- what the first clause names is still bound after the others
    exact ⟨hext.trans hext', .cons (hstep.mono hext') hclauses⟩

/-! ## Reading clauses back -/

/-- The tokens of a clause: its connector and its fragment. -/
theorem tokens_clause (k : Connector) (fragment : String) :
    Filter.tokens [] (k.text ++ " " ++ fragment).toList =
      .word k.text :: Filter.tokens [] fragment.toList := by
  have hchars : (k.text ++ " " ++ fragment).toList = k.text.toList ++ ' ' :: fragment.toList := by
    simp
  rw [hchars, Filter.tokens_append_blank]
  cases k <;> rfl

/-- **Clauses are read as the chain of their conditions**, and each condition is true exactly if its
operand in the chain is. -/
theorem readChain_clauses {names : FieldNames} {b : Binder} (meaning : Filter.Interpretation)
    (ha : IsClean names.aliasName) {rest : List Filter.Token} (hrest : Filter.EndsFilter rest)
    {cs : List Condition} {texts : List String}
    (hclauses : List.Forall₂ (IsClause names b) cs texts)
    (hclean : ∀ c ∈ cs, IsClean (names.physical c.field)) :
    ∃ chain values, Filter.readChain
        (texts.flatMap (fun t => Filter.tokens [] t.toList) ++ rest) = some chain ∧
      cs.mapM (Condition.link? names meaning) = some values ∧
      List.Forall₂ (fun x y => x.1 = y.1 ∧ x.2.holds meaning b.parameters = some y.2) chain
        values := by
  induction hclauses with
  | nil =>
    refine ⟨[], [], ?_, rfl, .nil⟩
    rw [List.flatMap_nil, List.nil_append, Filter.readChain_end hrest]
  | @cons c _ cs texts hc _ ih =>
    obtain ⟨chain, values, hchain, hvalues, hholds⟩ :=
      ih fun c' hc' => hclean c' (List.mem_cons_of_mem c hc')
    obtain ⟨op, number, d, hop, hd, hbound, rfl⟩ := hc
    have hword := FieldNames.ref_isWord ha (hclean c (by simp))
    have hconnector : Filter.isEnd (.word c.connector.text) = false ∧
        Filter.connector? (.word c.connector.text) = some c.connector := by
      cases c.connector <;> decide
    refine ⟨(c.connector, .atom op (names.ref c.field) (Binder.placeholder number)) :: chain,
      (c.connector, meaning op (names.ref c.field) d) :: values, ?_, ?_, .cons ⟨rfl, ?_⟩ hholds⟩
    · rw [List.flatMap_cons, tokens_clause, Filter.tokens_fragment number hword, List.append_assoc,
        List.cons_append, Filter.readChain_cons hconnector.1 hconnector.2
          (Filter.readOperand_fragment op _ _ (names.ref_ne_anchor c.field)), hchain]
      rfl
    · rw [List.mapM_cons, hvalues, Condition.link?, hop]
      simp [hd]
    · rw [Filter.Expr.holds, hbound.datumOf]
      rfl

/-! ## Whole statements -/

/-- The tokens of a part that starts with a word and a blank. -/
theorem tokens_part {w : String} (hw : Filter.IsWord w) (rest : List Char) :
    Filter.tokens [] (w.toList ++ ' ' :: rest) = .word w :: Filter.tokens [] rest := by
  rw [Filter.tokens_word hw, Filter.tokens_blank, hw.lexeme]
  rfl

theorem endsFilter_nil : Filter.EndsFilter (Filter.tokens [] "".toList) := by
  intro t rest h
  cases h

/-- The sort of a statement: nothing, or the clause of a valid sort key on a field whose name the
resolver gives. -/
theorem orderBy_eq_ok {names : FieldNames} {sortBy : Value} {text : String} :
    orderBy names sortBy = .ok text ↔ (sortBy = .null ∧ text = "") ∨
      ∃ s, SortKey.ofValue sortBy = .ok s ∧ names.Resolves s.field ∧
        text = "ORDER BY " ++ names.ref s.field ++ " " ++ s.direction.label := by
  unfold orderBy
  split
  · have hnull : ∀ s, SortKey.ofValue .null ≠ .ok s := fun s h => by cases h
    simp [hnull, eq_comm]
  · rename_i hgiven
    constructor
    · intro h
      obtain ⟨s, hs, h⟩ := bind_eq_ok.mp h
      obtain ⟨reference, href, h⟩ := bind_eq_ok.mp h
      obtain ⟨hname, rfl⟩ := FieldNames.reference_eq_ok.mp href
      exact .inr ⟨s, hs, hname, (Except.ok.inj h).symm⟩
    · rintro (⟨rfl, -⟩ | ⟨s, hs, hname, rfl⟩)
      · exact absurd rfl hgiven
      · exact bind_eq_ok.mpr ⟨s, hs, bind_eq_ok.mpr
          ⟨_, FieldNames.reference_eq_ok.mpr ⟨hname, rfl⟩, rfl⟩⟩

theorem endsFilter_orderBy {names : FieldNames} {sortBy : Value} {text : String}
    (h : orderBy names sortBy = .ok text) : Filter.EndsFilter (Filter.tokens [] text.toList) := by
  rcases orderBy_eq_ok.mp h with ⟨-, rfl⟩ | ⟨s, -, -, rfl⟩
  · exact endsFilter_nil
  · have hchars : ("ORDER BY " ++ names.ref s.field ++ " " ++ s.direction.label).toList =
        "ORDER".toList ++
          ' ' :: ("BY " ++ names.ref s.field ++ " " ++ s.direction.label).toList := by
      simp
    rw [hchars, tokens_part (by decide)]
    intro t rest h
    cases h
    decide

/-- The page window only binds, and its text ends the filter. -/
theorem page_spec {window : Option Window} {b b' : Binder} {text : String}
    (h : page window b = (.ok text, b')) :
    b.bound <+: b'.bound ∧ Filter.EndsFilter (Filter.tokens [] text.toList) := by
  unfold page at h
  split at h
  · cases h
    exact ⟨List.prefix_refl _, endsFilter_nil⟩
  · split at h
    · cases h
    · rename_i w offset b₁ hoffset
      split at h
      · cases h
      · rename_i limit b₂ hlimit
        cases h
        refine ⟨(Binder.bind_prefix hoffset).trans (Binder.bind_prefix hlimit), ?_⟩
        have hchars : ("OFFSET " ++ offset ++ " LIMIT " ++ limit).toList =
            "OFFSET".toList ++ ' ' :: (offset ++ " LIMIT " ++ limit).toList := by
          simp
        rw [hchars, tokens_part (by decide)]
        intro t rest h
        cases h
        decide

theorem filter_nil (names : FieldNames) (b : Binder) : filter names (.list []) b = (.ok "", b) :=
  rfl

/-- The filter of conditions starts with the anchor. -/
theorem filter_cons (names : FieldNames) (v : Value) (rest : List Value) (b : Binder) :
    filter names (.list (v :: rest)) b = ((clauses names (v :: rest) b).1.map
      fun texts => " ".intercalate (anchor :: texts), (clauses names (v :: rest) b).2) := by
  have helements : (Value.list (v :: rest)).elements = .ok (v :: rest) := rfl
  unfold filter
  rw [helements]
  simp only [Value.isTruthy, List.isEmpty_cons, Bool.not_false, Bool.not_true, Bool.false_eq_true,
    if_false]
  rcases clauses names (v :: rest) b with ⟨outcome, b'⟩
  cases outcome <;> rfl

theorem build_eq_ok {names : FieldNames} {select : String} {conditions sortBy : Value}
    {window : Option Window} {q : Query} :
    build names select conditions sortBy window = .ok q ↔ ∃ filterText b sortText pageText b',
      filter names conditions {} = (.ok filterText, b) ∧ orderBy names sortBy = .ok sortText ∧
      page window b = (.ok pageText, b') ∧
      q = ⟨joined [select, filterText, sortText, pageText], b'.parameters⟩ := by
  unfold build
  rcases filter names conditions {} with ⟨filtered, b⟩
  rcases hp : page window b with ⟨paged, b'⟩
  simp only [hp]
  constructor
  · intro h
    obtain ⟨filterText, hfilter, h⟩ := bind_eq_ok.mp h
    obtain ⟨sortText, hsort, h⟩ := bind_eq_ok.mp h
    obtain ⟨pageText, hpage, h⟩ := bind_eq_ok.mp h
    exact ⟨filterText, b, sortText, pageText, b', by rw [hfilter], hsort, by rw [hp, hpage],
      (Except.ok.inj h).symm⟩
  · rintro ⟨filterText, b₁, sortText, pageText, b₂, hfilter, hsort, hpage, rfl⟩
    cases hfilter
    rw [hp] at hpage
    cases hpage
    rw [hsort]
    rfl

/-- The filter of a statement is read as a chain, which is true exactly if the conditions are. -/
theorem selects_of_build {names : FieldNames} {select : String} {items : List Value}
    {cs : List Condition} {sortBy : Value} {window : Option Window} {q : Query}
    (meaning : Filter.Interpretation) (ha : IsClean names.aliasName)
    (hf : ∀ c ∈ cs, IsClean (names.physical c.field))
    (hcs : List.Forall₂ (fun v c => Condition.ofValue v = .ok c) items cs)
    (htext : ∀ c ∈ cs, c.operand.hasTextKeys = true)
    (h : build names select (.list items) sortBy window = .ok q) :
    ∃ holds, q.selects? select meaning = some holds ∧
      Condition.hold? names meaning cs = some holds := by
  obtain ⟨filterText, b, sortText, pageText, b', hfilter, hsort, hpage, rfl⟩ := build_eq_ok.mp h
  obtain ⟨hext, hpageEnd⟩ := page_spec hpage
  have hend : Filter.EndsFilter
      ([sortText, pageText].flatMap fun t => Filter.tokens [] t.toList) := by
    rw [List.flatMap_cons, List.flatMap_cons, List.flatMap_nil, List.append_nil]
    exact (endsFilter_orderBy hsort).append hpageEnd
  unfold Query.selects?
  dsimp only
  rw [Filter.tokens_joined, List.flatMap_cons]
  cases hcs with
  | nil =>
    -- without conditions there is no filter, and every document is selected
    rw [filter_nil] at hfilter
    cases hfilter
    refine ⟨true, ?_, rfl⟩
    rw [show Filter.tokens [] "".toList = [] from rfl, List.nil_append, Filter.read_end hend]
    rfl
  | cons hc hrest =>
    rename_i v c rest cs'
    rw [filter_cons] at hfilter
    rcases hclauses : clauses names (v :: rest) {} with ⟨outcome, b₁⟩
    rw [hclauses] at hfilter
    simp only [Prod.mk.injEq] at hfilter
    obtain ⟨htexts, rfl⟩ := hfilter
    obtain ⟨texts, rfl, rfl⟩ := map_eq_ok.mp htexts
    obtain ⟨-, hall⟩ := clauses_spec (.cons hc hrest) hclauses Binder.sound_empty htext
    -- the page window is bound after the filter, but this only adds to what is bound
    obtain ⟨chain, values, hchain, hvalues, hholds⟩ := readChain_clauses meaning ha hend
      (hall.imp fun _ _ hclause => hclause.mono hext) hf
    refine ⟨Filter.truth true values, ?_, by rw [Condition.hold?, hvalues]; rfl⟩
    have hanchor : Filter.tokens [] anchor.toList = [.word "WHERE", .word "1=1"] := by decide
    rw [Filter.tokens_intercalate, List.flatMap_cons, hanchor, List.append_assoc,
      List.cons_append, List.cons_append, List.nil_append, Filter.read_anchor hchain]
    exact Filter.holds_grouped rfl hholds

/-! ## Statements that are built -/

theorem clause_ok {names : FieldNames} {b : Binder} {v : Value} {c : Condition} {op : Operator}
    {key : String} (hc : Condition.ofValue v = .ok c) (hname : names.Resolves c.field)
    (hop : Operator.ofText? c.operator = some op) (hkey : c.operand.canonicalKey = .ok key)
    (hplaces : b.size < 2 ^ 63) :
    ∃ text b', clause names b v = .ok (text, b') ∧ b'.size ≤ b.size + 1 := by
  obtain ⟨key', hkey'⟩ := op.canonicalKey_operand hkey
  obtain ⟨number, b', hbind, hnumber, hsize⟩ := Binder.bind_ok_of_canonicalKey (b := b) hkey'
  obtain ⟨parameter, hparameter⟩ : ∃ p, b'.parameter (Binder.placeholder number) = .ok p :=
    ⟨_, Binder.parameter_placeholder (List.getElem?_eq_getElem hnumber) (by omega)⟩
  have hcompiled : b.compile (names.ref c.field) c.operator c.operand =
      .ok (⟨Fragment.text op (names.ref c.field) (Binder.placeholder number), parameter⟩, b') := by
    refine bind_eq_ok.mpr ⟨op, Operator.resolve_str_eq_ok.mpr hop, ?_⟩
    exact bind_eq_ok.mpr ⟨_, hbind, bind_eq_ok.mpr ⟨parameter, hparameter, rfl⟩⟩
  have href : names.reference c.field = .ok (names.ref c.field) :=
    FieldNames.reference_eq_ok.mpr ⟨hname, rfl⟩
  exact ⟨_, b', bind_eq_ok.mpr ⟨c, hc, bind_eq_ok.mpr ⟨_, href,
    bind_eq_ok.mpr ⟨_, hcompiled, rfl⟩⟩⟩, hsize⟩

/-- A run over valid conditions comes to its end. -/
theorem clauses_ok (names : FieldNames) {items : List Value} {cs : List Condition} {b : Binder}
    (hcs : List.Forall₂ (fun v c => Condition.ofValue v = .ok c) items cs)
    (hnames : ∀ c ∈ cs, names.Resolves c.field)
    (hops : ∀ c ∈ cs, ∃ op, Operator.ofText? c.operator = some op)
    (hkeys : ∀ c ∈ cs, ∃ key, c.operand.canonicalKey = .ok key)
    (hplaces : b.size + items.length ≤ 2 ^ 63) :
    ∃ texts b', clauses names items b = (.ok texts, b') := by
  induction hcs generalizing b with
  | nil => exact ⟨[], b, rfl⟩
  | cons hc hrest ih =>
    rw [List.length_cons] at hplaces
    have hname := hnames _ List.mem_cons_self
    obtain ⟨op, hop⟩ := hops _ List.mem_cons_self
    obtain ⟨key, hkey⟩ := hkeys _ List.mem_cons_self
    obtain ⟨text, b₁, hclause, hsize⟩ := clause_ok (b := b) hc hname hop hkey (by omega)
    obtain ⟨texts, b₂, hclauses⟩ := ih (b := b₁)
      (fun c hc => hnames c (List.mem_cons_of_mem _ hc))
      (fun c hc => hops c (List.mem_cons_of_mem _ hc))
      (fun c hc => hkeys c (List.mem_cons_of_mem _ hc)) (by omega)
    exact ⟨text :: texts, b₂, by rw [clauses, hclause]; simp only [hclauses]⟩

theorem filter_ok {names : FieldNames} {items : List Value} {cs : List Condition}
    (hcs : List.Forall₂ (fun v c => Condition.ofValue v = .ok c) items cs)
    (hnames : ∀ c ∈ cs, names.Resolves c.field)
    (hops : ∀ c ∈ cs, ∃ op, Operator.ofText? c.operator = some op)
    (hkeys : ∀ c ∈ cs, ∃ key, c.operand.canonicalKey = .ok key) (hplaces : items.length ≤ 2 ^ 63) :
    ∃ text b, filter names (.list items) {} = (.ok text, b) := by
  cases items with
  | nil => exact ⟨"", {}, rfl⟩
  | cons v rest =>
    obtain ⟨texts, b, hclauses⟩ := clauses_ok names (b := {}) hcs hnames hops hkeys
      (le_of_eq_of_le (Nat.zero_add _) hplaces)
    exact ⟨_, b, by rw [filter_cons, hclauses]; rfl⟩

theorem page_ok {window : Option Window} (b : Binder) (h : ∀ w ∈ window, ∀ n ∈ [w.offset, w.limit],
    ∃ key, (Value.int n).canonicalKey = .ok key) : ∃ text b', page window b = (.ok text, b') := by
  cases window with
  | none => exact ⟨"", b, rfl⟩
  | some w =>
    obtain ⟨key, hkey⟩ := h w rfl w.offset (by simp)
    obtain ⟨key', hkey'⟩ := h w rfl w.limit (by simp)
    obtain ⟨offset, b₁, hoffset, -⟩ := Binder.bind_ok_of_canonicalKey (b := b) hkey
    obtain ⟨limit, b₂, hlimit, -⟩ := Binder.bind_ok_of_canonicalKey (b := b₁) hkey'
    refine ⟨"OFFSET " ++ Binder.placeholder offset ++ " LIMIT " ++ Binder.placeholder limit, b₂, ?_⟩
    rw [page, hoffset]
    simp only [hlimit]

/-- **A statement is built** from valid conditions, a valid sort and a page window. -/
theorem build_ok {names : FieldNames} (select : String) {items : List Value} {cs : List Condition}
    {sortBy : Value} {window : Option Window}
    (hcs : List.Forall₂ (fun v c => Condition.ofValue v = .ok c) items cs)
    (hnames : ∀ c ∈ cs, names.Resolves c.field)
    (hops : ∀ c ∈ cs, ∃ op, Operator.ofText? c.operator = some op)
    (hkeys : ∀ c ∈ cs, ∃ key, c.operand.canonicalKey = .ok key) (hplaces : items.length ≤ 2 ^ 63)
    (hsort : sortBy = .null ∨ ∃ s, SortKey.ofValue sortBy = .ok s ∧ names.Resolves s.field)
    (hwindow : ∀ w ∈ window, ∀ n ∈ [w.offset, w.limit],
      ∃ key, (Value.int n).canonicalKey = .ok key) :
    ∃ q, build names select (.list items) sortBy window = .ok q := by
  obtain ⟨filterText, b, hfilter⟩ := @filter_ok names _ _ hcs hnames hops hkeys hplaces
  obtain ⟨pageText, b', hpage⟩ := page_ok b hwindow
  have horder : ∃ sortText, orderBy names sortBy = .ok sortText := by
    rcases hsort with rfl | ⟨s, hs, hname⟩
    · exact ⟨"", rfl⟩
    · exact ⟨_, orderBy_eq_ok.mpr (.inr ⟨s, hs, hname, rfl⟩)⟩
  obtain ⟨sortText, hsortText⟩ := horder
  exact ⟨_, build_eq_ok.mpr ⟨filterText, b, sortText, pageText, b', hfilter, hsortText, hpage, rfl⟩⟩

/-- **The filter of a statement means its conditions.**  A statement is built from valid conditions
on fields whose names the resolver gives, with supported operators and serializable operands, as
many as a sequence has places, and its filter, read as the store reads it, is true exactly if the
chain of the conditions is, whatever the operators mean. -/
theorem filter_means_conditions (names : FieldNames) (select : String) {items : List Value}
    {cs : List Condition} (sortBy : Value) (window : Option Window) (ha : IsClean names.aliasName)
    (hf : ∀ c ∈ cs, IsClean (names.physical c.field))
    (hcs : items.mapM Condition.ofValue = .ok cs)
    (htext : ∀ c ∈ cs, c.operand.hasTextKeys = true) :
    (∀ q, build names select (.list items) sortBy window = .ok q →
      ∀ meaning : Filter.Interpretation, ∃ holds, q.selects? select meaning = some holds ∧
        Condition.hold? names meaning cs = some holds) ∧
    ((∀ c ∈ cs, names.Resolves c.field) →
      (∀ c ∈ cs, ∃ op, Operator.ofText? c.operator = some op) →
      (∀ c ∈ cs, ∃ key, c.operand.canonicalKey = .ok key) → items.length ≤ 2 ^ 63 →
      (sortBy = .null ∨ ∃ s, SortKey.ofValue sortBy = .ok s ∧ names.Resolves s.field) →
      (∀ w ∈ window, ∀ n ∈ [w.offset, w.limit], ∃ key, (Value.int n).canonicalKey = .ok key) →
      ∃ q, build names select (.list items) sortBy window = .ok q) := by
  have hall := mapM_eq_ok.mp hcs
  refine ⟨fun q hq meaning => selects_of_build meaning ha hf hall htext hq, ?_⟩
  intro hnames hops hkeys hplaces hsort hwindow
  exact build_ok select hall hnames hops hkeys hplaces hsort hwindow

/-- Three conditions and a page window that share the placeholder of one literal. -/
theorem filter_means_shared_conditions :
    ∃ q, build {} (selectAll "c") (.list [.condition "a" (.int 1) "eq" .or,
      .condition "b" (.set false [.int 1]) "in" .and,
      .condition "a" (.int 1) "ne" .or]) .null (some ⟨1, 0⟩) = .ok q ∧
      ∃ holds, q.selects? (selectAll "c") (fun op _ _ => op = .isIn) = some holds ∧
        Condition.hold? {} (fun op _ _ => op = .isIn) [⟨"a", .int 1, "eq", .or⟩,
          ⟨"b", .set false [.int 1], "in", .and⟩, ⟨"a", .int 1, "ne", .or⟩] =
          some holds := by
  have hcs : [Value.condition "a" (.int 1) "eq" .or,
      .condition "b" (.set false [.int 1]) "in" .and,
      .condition "a" (.int 1) "ne" .or].mapM Condition.ofValue =
      .ok [⟨"a", .int 1, "eq", .or⟩, ⟨"b", .set false [.int 1], "in", .and⟩,
        ⟨"a", .int 1, "ne", .or⟩] := rfl
  obtain ⟨hmeans, hbuilt⟩ := filter_means_conditions {} (selectAll "c") .null (some ⟨1, 0⟩)
    (by decide) (by decide) hcs (by decide)
  have hone : ∃ key, (Value.int 1).canonicalKey = .ok key := ⟨"1", by rfl⟩
  have hset : ∃ key, (Value.set false [.int 1]).canonicalKey = .ok key :=
    ⟨"[1]", by rfl⟩
  have hzero : ∃ key, (Value.int 0).canonicalKey = .ok key := ⟨"0", by rfl⟩
  obtain ⟨q, hq⟩ := hbuilt (fun c _ => ⟨c.field, rfl⟩)
    (by simp only [List.forall_mem_cons]; exact ⟨⟨.eq, rfl⟩, ⟨.isIn, rfl⟩, ⟨.ne, rfl⟩, by simp⟩)
    (by simp only [List.forall_mem_cons]; exact ⟨hone, hset, hone, by simp⟩) (by decide) (.inl rfl)
    (by simpa using ⟨hzero, hone⟩)
  exact ⟨q, hq, hmeans q hq _⟩

end Statement

end Docstore
