import Docstore.Proofs.Query.FilterMeaning

/-!
# The anchor of filters

A filter starts with `1=1`, which is true, and every condition carries the connector that joins it
to what stands before it.  For the first condition this is the anchor: joined by `AND` it leaves the
chain of the conditions as it is, joined by `OR` it makes the whole filter true.

Here a filter is read with the fragments of its conditions as units, so nothing is assumed of names.

* `connectorsAround?_clauses` — around the fragments stand the connectors of the conditions.
* `first_connector_decides` — a filter is the chain of its conditions exactly if the first connector
  is `AND`; otherwise it is always true.
-/

namespace Docstore

namespace Filter

/-! ## Reading around fragments -/

/-- What stands behind a text at the front of another. -/
def behind? (front cs : List Char) : Option (List Char) :=
  if front.isPrefixOf cs then some (cs.drop front.length) else none

/-- The connectors that stand before fragments, one after the other. -/
def connectorsAround? : List String → List Char → Option (List Connector)
  | [], cs => if cs.isEmpty then some [] else none
  | f :: rest, cs =>
    match behind? (" AND " ++ f).toList cs, behind? (" OR " ++ f).toList cs with
    | some left, _ => (connectorsAround? rest left).map (.and :: ·)
    | none, some left => (connectorsAround? rest left).map (.or :: ·)
    | none, none => none

/-- Whether a filter with given fragments is true, when these have given values. -/
def holdsAround? (fragments : List String) (values : List Bool) (text : String) : Option Bool := do
  let rest ← behind? "WHERE 1=1".toList text.toList
  let connectors ← connectorsAround? fragments rest
  return truth true (connectors.zip values)

theorem behind?_append (front cs : List Char) : behind? front (front ++ cs) = some cs := by
  have hprefix : front.isPrefixOf (front ++ cs) = true :=
    List.isPrefixOf_iff_prefix.mpr (List.prefix_append front cs)
  rw [behind?, hprefix, if_pos rfl, List.drop_left]

theorem behind?_and_of_or (f g : String) (cs : List Char) :
    behind? (" AND " ++ f).toList ((" OR " ++ g).toList ++ cs) = none := by
  simp [behind?]

/-- A fragment is read with the connector before it. -/
theorem connectorsAround?_cons (k : Connector) (f : String) (rest : List String) (cs : List Char) :
    connectorsAround? (f :: rest) ((" " ++ k.text ++ " " ++ f).toList ++ cs) =
      (connectorsAround? rest cs).map (k :: ·) := by
  cases k with
  | and =>
    have hfront : (" " ++ Connector.and.text ++ " " ++ f) = " AND " ++ f := rfl
    rw [connectorsAround?, hfront, behind?_append]
  | or =>
    have hfront : (" " ++ Connector.or.text ++ " " ++ f) = " OR " ++ f := rfl
    rw [connectorsAround?, hfront, behind?_and_of_or, behind?_append]

/-! ## Truth -/

/-- A chain that starts with what is true is the chain behind an `AND`, and is true behind an
`OR`. -/
theorem truth_true_cons (k : Connector) (x : Bool) (rest : List (Connector × Bool)) :
    truth true ((k, x) :: rest) = (k == .or || truth x rest) := by
  cases k <;> rfl

/-- A chain of what is false is false. -/
theorem truth_false : ∀ (ks : List Connector) (n : Nat),
    truth false (ks.zip (List.replicate n false)) = false
  | [], _ => rfl
  | _ :: _, 0 => rfl
  | .and :: ks, n + 1 => truth_false ks n
  | .or :: ks, n + 1 => truth_false ks n

end Filter

namespace Statement

/-! ## Fragments -/

/-- The fragments of conditions, compiled one after the other. -/
def fragments (names : FieldNames) : List Condition → Binder → Except Fault (List String)
  | [], _ => .ok []
  | c :: rest, b => do
    let (compiled, b') ← b.compile (names.ref c.field) c.operator c.operand
    let others ← fragments names rest b'
    return compiled.fragment :: others

/-- The clauses of conditions are their connectors and their fragments. -/
theorem clauses_fragments {names : FieldNames} {items : List Value} {cs : List Condition}
    (hcs : List.Forall₂ (fun v c => Condition.ofValue v = .ok c) items cs) {b b' : Binder}
    {texts : List String} (h : clauses names items b = (.ok texts, b')) :
    ∃ fs, fragments names cs b = .ok fs ∧ fs.length = cs.length ∧
      texts = cs.zipWith (fun c f => c.connector.text ++ " " ++ f) fs := by
  induction hcs generalizing b texts with
  | nil =>
    cases h
    exact ⟨[], rfl, rfl, rfl⟩
  | cons hc hrest ih =>
    obtain ⟨text, b₁, others, hclause, hothers, rfl⟩ := clauses_cons_eq_ok h
    obtain ⟨compiled, hcompiled, rfl⟩ := clause_eq_ok hc hclause
    obtain ⟨fs, hfs, hlen, rfl⟩ := ih hothers
    refine ⟨compiled.fragment :: fs, ?_, by rw [List.length_cons, List.length_cons, hlen], rfl⟩
    exact bind_eq_ok.mpr ⟨_, hcompiled, bind_eq_ok.mpr ⟨fs, hfs, rfl⟩⟩

/-- **Around the fragments of a filter stand the connectors of its conditions.** -/
theorem connectorsAround?_clauses : ∀ {cs : List Condition} {fs : List String},
    fs.length = cs.length → Filter.connectorsAround? fs
      ((cs.zipWith (fun c f => c.connector.text ++ " " ++ f) fs).flatMap fun t => ' ' :: t.toList) =
        some (cs.map (·.connector))
  | [], [], _ => rfl
  | c :: cs, f :: fs, h => by
    have hlen : fs.length = cs.length := Nat.succ.inj h
    have hclause : ' ' :: (c.connector.text ++ " " ++ f).toList =
        (" " ++ c.connector.text ++ " " ++ f).toList := by
      simp
    rw [List.zipWith_cons_cons, List.flatMap_cons, hclause, Filter.connectorsAround?_cons,
      connectorsAround?_clauses hlen]
    rfl

/-! ## The first connector -/

/-- What the connector of the first condition decides of a filter: whether the filter is the chain
of its conditions, and whether a document that satisfies no condition is left out. -/
structure DecidedByFirst (first : Connector) (later : List Connector) (fs : List String)
    (text : String) : Prop where
  value : ∀ x xs, xs.length = later.length →
    Filter.holdsAround? fs (x :: xs) text = some (first == .or || Filter.truth x (later.zip xs))
  chain_iff : (∀ x xs, xs.length = later.length →
    Filter.holdsAround? fs (x :: xs) text = some (Filter.truth x (later.zip xs))) ↔ first = .and
  excludes_iff : Filter.holdsAround? fs (List.replicate (later.length + 1) false) text =
    some false ↔ first = .and

theorem decidedByFirst_of_value {first : Connector} {later : List Connector} {fs : List String}
    {text : String} (h : ∀ x xs, xs.length = later.length →
      Filter.holdsAround? fs (x :: xs) text =
        some (first == .or || Filter.truth x (later.zip xs))) :
    DecidedByFirst first later fs text := by
  have hfalse : Filter.holdsAround? fs (List.replicate (later.length + 1) false) text =
      some (first == .or) := by
    rw [List.replicate_succ, h false _ List.length_replicate, Filter.truth_false, Bool.or_false]
  have hexcludes : Filter.holdsAround? fs (List.replicate (later.length + 1) false) text =
      some false ↔ first = .and := by
    rw [hfalse]
    cases first <;> decide
  refine ⟨h, ⟨fun hchain => ?_, ?_⟩, hexcludes⟩
  · -- a document that satisfies no condition tells the connectors apart
    refine hexcludes.mp ?_
    rw [List.replicate_succ, hchain false _ List.length_replicate, Filter.truth_false]
  · rintro rfl x xs hlen
    exact h x xs hlen

theorem filter_decidedByFirst {names : FieldNames} {v : Value} {rest : List Value} {c : Condition}
    {cs : List Condition} {b b' : Binder} {text : String}
    (hcs : List.Forall₂ (fun v c => Condition.ofValue v = .ok c) (v :: rest) (c :: cs))
    (h : filter names (.list (v :: rest)) b = (.ok text, b')) :
    ∃ fs, fragments names (c :: cs) b = .ok fs ∧
      DecidedByFirst c.connector (cs.map (·.connector)) fs text := by
  rw [filter_cons] at h
  rcases hclauses : clauses names (v :: rest) b with ⟨outcome, b₁⟩
  rw [hclauses, Prod.mk.injEq] at h
  obtain ⟨texts, rfl, rfl⟩ := map_eq_ok.mp h.1
  obtain ⟨fs, hfs, hlen, rfl⟩ := clauses_fragments hcs hclauses
  refine ⟨fs, hfs, decidedByFirst_of_value fun x xs _ => ?_⟩
  have hanchor : anchor.toList = "WHERE 1=1".toList := rfl
  unfold Filter.holdsAround?
  rw [Filter.intercalate_cons_toList, hanchor, Filter.behind?_append]
  simp only [Option.bind_eq_bind, Option.bind_some]
  rw [connectorsAround?_clauses hlen, List.map_cons]
  exact congrArg some (Filter.truth_true_cons _ _ _)

/-- **The first connector decides** whether a filter is the chain of its conditions.  Joined by
`AND`, the first condition is all that stands there; joined by `OR`, it makes the filter true for
every document, also for one that satisfies no condition. -/
theorem first_connector_decides (names : FieldNames) {v : Value} {rest : List Value} {c : Condition}
    {cs : List Condition} (hcs : (v :: rest).mapM Condition.ofValue = .ok (c :: cs)) :
    (∀ b b' text, filter names (.list (v :: rest)) b = (.ok text, b') →
      ∃ fs, fragments names (c :: cs) b = .ok fs ∧
        DecidedByFirst c.connector (cs.map (·.connector)) fs text) ∧
    ∀ select sortBy window q, build names select (.list (v :: rest)) sortBy window = .ok q →
      ∃ filterText fs sortText pageText,
        q.statement = joined [select, filterText, sortText, pageText] ∧
        fragments names (c :: cs) {} = .ok fs ∧
        DecidedByFirst c.connector (cs.map (·.connector)) fs filterText := by
  have hall := mapM_eq_ok.mp hcs
  refine ⟨fun b b' text h => filter_decidedByFirst hall h, ?_⟩
  intro select sortBy window q h
  obtain ⟨filterText, b, sortText, pageText, b', hfilter, -, -, rfl⟩ := build_eq_ok.mp h
  obtain ⟨fs, hfs, hdecided⟩ := filter_decidedByFirst hall hfilter
  exact ⟨filterText, fs, sortText, pageText, rfl, hfs, hdecided⟩

/-- Two conditions whose first one is joined by `OR`. -/
theorem first_connector_decides_or :
    ∃ fs, fragments {} [⟨"a", .int 1, "eq", .or⟩, ⟨"b", .int 2, "eq", .and⟩] {} = .ok fs ∧
      DecidedByFirst .or [.and] fs "WHERE 1=1 OR c.a = @param0 AND c.b = @param1" := by
  have hfilter : filter {} (.list [.condition "a" (.int 1) "eq" .or,
      .condition "b" (.int 2) "eq" .and]) {} =
        (.ok "WHERE 1=1 OR c.a = @param0 AND c.b = @param1", ⟨[⟨"1", .int 1⟩, ⟨"2", .int 2⟩]⟩) := by
    rfl
  exact (first_connector_decides {} rfl).1 {} _ _ hfilter

/-- A filter of one condition joined by `OR` is true where the condition is false. -/
theorem filter_of_single_or_is_true :
    (filter {} (.list [.condition "a" (.int 1) "eq" .or]) {}).1 =
      .ok "WHERE 1=1 OR c.a = @param0" ∧
    fragments {} [⟨"a", .int 1, "eq", .or⟩] {} = .ok ["c.a = @param0"] ∧
    Filter.holdsAround? ["c.a = @param0"] [false] "WHERE 1=1 OR c.a = @param0" = some true ∧
    Filter.truth false [] = false := by
  refine ⟨by rfl, by rfl, by decide, rfl⟩

end Statement

end Docstore
