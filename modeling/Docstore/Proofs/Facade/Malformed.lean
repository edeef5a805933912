import Docstore.Proofs.Facade.Call
import Docstore.Proofs.Query.FilterMeaning
import Docstore.Store.Scripted

/-!
# Malformed query inputs

Conditions, sort keys and page windows are validated while the statement of a call is built, before
a store is asked for anything.  A malformed window is refused with its violations, if the limit and
the offset can be put into words; a malformed condition or sort key is raised as it was found, and is
no refusal.

* `Statement.clauses_eq_error_iff` — conditions fail at the first that is not compiled.
* `Statement.build_eq_invalid_iff` — when a statement is not built because of violations.
* `Facade.perform_of_queryOf_error` — a call whose statement is not built does nothing else.
* `Facade.refused_iff_malformed_window` — of malformed inputs, those and only those of windows that
  can be put into words are refused.
-/

namespace Docstore

/-- The names of fields do not fail with violations, which are what validation finds. -/
def FieldNames.FindsNoViolations (names : FieldNames) : Prop :=
  ∀ field, FailsWith (fun e => ∀ s vs, e ≠ .invalid s vs) (names.renamed? field)

/-! ## Statements -/

namespace Statement

variable {names : FieldNames} {select : String} {conditions sortBy v : Value} {s : Subject}
  {vs : List Violation}

theorem clauses_eq_error {e : Fault} : ∀ {items : List Value} {b : Binder},
    (clauses names items b).1 = .error e → ∃ before v after texts b',
      items = before ++ v :: after ∧ clauses names before b = (.ok texts, b') ∧
      clause names b' v = .error e
  | [], b, h => by cases h
  | item :: rest, b, h => by
    unfold clauses at h
    split at h
    · rename_i e' he
      cases h
      exact ⟨[], item, rest, [], b, rfl, rfl, he⟩
    · rename_i text b' hitem
      have hrest : (clauses names rest b').1 = .error e := by
        split at h
        · rename_i e' b'' hrest
          cases h
          exact congrArg Prod.fst hrest
        · cases h
      obtain ⟨before, v, after, texts, b'', rfl, hbefore, hv⟩ := clauses_eq_error hrest
      refine ⟨item :: before, v, after, text :: texts, b'', rfl, ?_, hv⟩
      rw [clauses, hitem]
      dsimp only
      rw [hbefore]

theorem clauses_append_error {e : Fault} {v : Value} {after : List Value} {b' : Binder} :
    ∀ {before : List Value} {b : Binder} {texts : List String},
      clauses names before b = (.ok texts, b') → clause names b' v = .error e →
        (clauses names (before ++ v :: after) b).1 = .error e
  | [], b, texts, hbefore, hv => by
    cases hbefore
    rw [List.nil_append, clauses, hv]
  | item :: before, b, texts, hbefore, hv => by
    obtain ⟨text, b₁, others, hitem, hrest, rfl⟩ := clauses_cons_eq_ok hbefore
    have herror : (clauses names (before ++ v :: after) b₁).1 = .error e :=
      clauses_append_error hrest hv
    rw [List.cons_append, clauses, hitem]
    dsimp only
    cases hx : clauses names (before ++ v :: after) b₁ with
    | mk result b₂ =>
      rw [hx] at herror
      dsimp only at herror
      rw [herror]

/-- **Conditions fail at the first that is not compiled**, with its error. -/
theorem clauses_eq_error_iff {e : Fault} {items : List Value} {b : Binder} :
    (clauses names items b).1 = .error e ↔ ∃ before v after texts b',
      items = before ++ v :: after ∧ clauses names before b = (.ok texts, b') ∧
      clause names b' v = .error e := by
  refine ⟨clauses_eq_error, ?_⟩
  rintro ⟨before, v, after, texts, b', rfl, hbefore, hv⟩
  exact clauses_append_error hbefore hv

/-- What validation says of a mapping of fields, it says of the subject that it validates. -/
theorem subject_of_validation {α : Type} {subject : Subject} (v : Value)
    (check : List (Value × Value) → Except (List Violation) α) :
    FailsWith (fun e => ∀ s vs, e = .invalid s vs → s = subject)
      (do
        let entries ← v.mapping
        (check entries).mapError (Fault.invalid subject)) := by
  refine Yields.bind ((Value.mapping_failsInside v).mono ?_ fun _ _ => trivial) fun entries _ => ?_
  · rintro e he s vs rfl
    cases he
  · cases check entries with
    | ok a => trivial
    | error found =>
      intro s vs h
      cases h
      rfl

theorem condition_subject (h : Condition.ofValue v = .error (.invalid s vs)) : s = .condition := by
  have hyields : FailsWith (fun e => ∀ s vs, e = .invalid s vs → s = .condition)
      (Condition.ofValue v) := by
    unfold Condition.ofValue
    split
    · trivial
    · exact subject_of_validation v Condition.ofEntries
  exact hyields.of_error h s vs rfl

theorem sortKey_subject (h : SortKey.ofValue v = .error (.invalid s vs)) : s = .sortKey := by
  have hyields : FailsWith (fun e => ∀ s vs, e = .invalid s vs → s = .sortKey)
      (SortKey.ofValue v) := by
    unfold SortKey.ofValue
    split
    · trivial
    · exact subject_of_validation v SortKey.ofEntries
  exact hyields.of_error h s vs rfl

theorem clause_of_condition {b : Binder} {e : Fault} (h : Condition.ofValue v = .error e) :
    clause names b v = .error e := by
  rw [clause, h]
  rfl

/-- A clause is not built because of violations exactly if they are those of its condition. -/
theorem clause_eq_invalid_iff (hnames : names.FindsNoViolations) {b : Binder} :
    clause names b v = .error (.invalid s vs) ↔ Condition.ofValue v = .error (.invalid s vs) := by
  refine ⟨fun h => ?_, clause_of_condition⟩
  cases hc : Condition.ofValue v with
  | error e =>
    cases (clause_of_condition hc).symm.trans h
    rfl
  | ok c =>
    have hyields : FailsWith (fun e => ∀ s vs, e ≠ .invalid s vs) (clause names b v) := by
      refine clause_yields hc (hnames c.field) ?_
      rintro e he s vs rfl
      cases he
    exact absurd rfl (hyields.of_error h s vs)

/-- The inputs of a statement that are found malformed when it is built: the conditions come before
the sort key. -/
inductive Malformed (names : FieldNames) (conditions sortBy : Value) :
    Subject → List Violation → Prop
  /-- A condition breaks rules, and those before it have been compiled. -/
  | condition {before after : List Value} {v : Value} {texts : List String} {b : Binder}
      {vs : List Violation} (hsome : conditions.isTruthy = true)
      (hitems : conditions.elements = .ok (before ++ v :: after))
      (hbefore : clauses names before {} = (.ok texts, b))
      (h : Condition.ofValue v = .error (.invalid .condition vs)) :
      Malformed names conditions sortBy .condition vs
  /-- The sort key breaks rules, and all conditions have been compiled. -/
  | sortKey {text : String} {vs : List Violation}
      (hfilter : (filter names conditions {}).1 = .ok text) (hsome : sortBy ≠ .null)
      (h : SortKey.ofValue sortBy = .error (.invalid .sortKey vs)) :
      Malformed names conditions sortBy .sortKey vs

theorem filter_fst (hsome : conditions.isTruthy = true) {items : List Value}
    (hitems : conditions.elements = .ok items) :
    (filter names conditions {}).1 =
      (clauses names items {}).1.map fun texts => " ".intercalate (anchor :: texts) := by
  unfold filter
  rw [hsome, hitems]
  cases hclauses : clauses names items {} with
  | mk result b => cases result <;> simp [hclauses, Except.map]

/-- A filter that is not built because of violations has a condition with them. -/
theorem malformed_of_filter (hnames : names.FindsNoViolations)
    (h : (filter names conditions {}).1 = .error (.invalid s vs)) :
    Malformed names conditions sortBy s vs := by
  cases hsome : conditions.isTruthy with
  | false => simp [filter, hsome] at h
  | true =>
    cases hitems : conditions.elements with
    | error e =>
      simp only [filter, hsome, hitems] at h
      cases h
      cases (Value.elements_failsInside conditions).of_error hitems
    | ok items =>
      rw [filter_fst hsome hitems] at h
      have herror : (clauses names items {}).1 = .error (.invalid s vs) := by
        cases hclauses : (clauses names items {}).1 with
        | error e =>
          rw [hclauses] at h
          cases h
          rfl
        | ok texts =>
          rw [hclauses] at h
          cases h
      obtain ⟨before, v, after, texts, b, rfl, hbefore, hv⟩ := clauses_eq_error_iff.mp herror
      have hcondition := (clause_eq_invalid_iff hnames).mp hv
      cases condition_subject hcondition
      exact .condition hsome hitems hbefore hcondition

theorem orderBy_eq_of_ne_null (hnull : sortBy ≠ .null) : orderBy names sortBy = (do
    let s ← SortKey.ofValue sortBy
    let reference ← names.reference s.field
    return "ORDER BY " ++ reference ++ " " ++ s.direction.label) := by
  unfold orderBy
  split
  · exact absurd rfl hnull
  · rfl

theorem orderBy_of_sortKey {e : Fault} (hnull : sortBy ≠ .null)
    (h : SortKey.ofValue sortBy = .error e) : orderBy names sortBy = .error e := by
  rw [orderBy_eq_of_ne_null hnull, h]
  rfl

/-- A sort is not built because of violations exactly if they are those of its key. -/
theorem orderBy_eq_invalid_iff (hnames : names.FindsNoViolations) :
    orderBy names sortBy = .error (.invalid s vs) ↔
      sortBy ≠ .null ∧ SortKey.ofValue sortBy = .error (.invalid s vs) := by
  refine ⟨fun h => ?_, fun h => orderBy_of_sortKey h.1 h.2⟩
  by_cases hnull : sortBy = .null
  · subst hnull
    cases h
  · rw [orderBy_eq_of_ne_null hnull] at h
    refine ⟨hnull, ?_⟩
    cases hkey : SortKey.ofValue sortBy with
    | error e =>
      rw [hkey] at h
      cases h
      rfl
    | ok key =>
      rw [hkey] at h
      have hyields : FailsWith (fun e => ∀ s vs, e ≠ .invalid s vs) (do
          let reference ← names.reference key.field
          return "ORDER BY " ++ reference ++ " " ++ key.direction.label) :=
        (FieldNames.reference_yields (hnames key.field)).bind fun _ _ => trivial
      exact absurd rfl (hyields.of_error h s vs)

/-- A malformed input keeps a statement from being built, with its violations. -/
theorem build_of_malformed {window : Option Window} (h : Malformed names conditions sortBy s vs) :
    build names select conditions sortBy window = .error (.invalid s vs) := by
  unfold build
  cases hfilter : filter names conditions {} with
  | mk filtered b =>
    have hfst : (filter names conditions {}).1 = filtered := congrArg Prod.fst hfilter
    cases h with
    | condition hsome hitems hbefore hv =>
      rw [filter_fst hsome hitems, clauses_append_error hbefore (clause_of_condition hv)] at hfst
      subst hfst
      rfl
    | sortKey htext hnull hkey =>
      rw [hfst] at htext
      subst htext
      rw [orderBy_of_sortKey hnull hkey]
      rfl

/-- **A statement is not built because of violations** exactly if an input is malformed. -/
theorem build_eq_invalid_iff (hnames : names.FindsNoViolations) {window : Option Window} :
    build names select conditions sortBy window = .error (.invalid s vs) ↔
      Malformed names conditions sortBy s vs := by
  refine ⟨fun h => ?_, build_of_malformed⟩
  unfold build at h
  cases hfilter : filter names conditions {} with
  | mk filtered b =>
    have hfst : (filter names conditions {}).1 = filtered := congrArg Prod.fst hfilter
    rw [hfilter] at h
    cases filtered with
    | error e =>
      cases h
      exact malformed_of_filter hnames hfst
    | ok text =>
      cases horder : orderBy names sortBy with
      | error e =>
        rw [horder] at h
        cases h
        obtain ⟨hnull, hkey⟩ := (orderBy_eq_invalid_iff hnames).mp horder
        cases sortKey_subject hkey
        exact .sortKey hfst hnull hkey
      | ok sortText =>
        rw [horder] at h
        have hpage := page_failsInside window b
        cases hp : page window b with
        | mk paged b' =>
          rw [hp] at hpage
          cases paged with
          | error e =>
            simp only [hp] at h
            cases h
            cases hpage
          | ok pageText =>
            simp only [hp] at h
            cases h

/-- Violations of windows are found before a statement is built. -/
theorem Malformed.ne_window (h : Malformed names conditions sortBy s vs) : s ≠ .window := by
  cases h <;> decide

end Statement

/-! ## Calls -/

/-- Whether the limit and the offset of a call can be put into words; only `findMany` has them. -/
def Call.windowIsWritable : Call → Bool
  | findMany _ _ _ limit offset => limit.isWritable && offset.isWritable
  | _ => true

namespace Facade

variable {f : Facade} {c : Container} {call : Call}

/-- The inputs of a call that are found malformed, and what is wrong with them: the window comes
first, where what counts as nothing is left to the defaults, and then the selection is written. -/
inductive Malformed (f : Facade) : Call → Subject → List Violation → Prop
  | window {model conditions sortBy limit offset : Value} {vs : List Violation}
      (h : Window.ofValues (some (if limit.isTruthy then limit else f.config.defaultLimit))
        (some (if offset.isTruthy then offset else .int 0)) = .error vs) :
      Malformed f (.findMany model conditions sortBy limit offset) .window vs
  | statement {call : Call} {extent : Extent} {window : Option Window} {s : Subject}
      {vs : List Violation} {selected : String} (hextent : call.extent? = some extent)
      (hwindow : f.windowOf call = .ok window) (hselected : f.selectOf call = .ok selected)
      (h : Statement.Malformed (f.names call.model) call.conditions call.sortBy s vs) :
      Malformed f call s vs

/-- What fails at once ends what follows. -/
theorem bind_of_failed {α β : Type} {x : Run α} {e : Failure} (h : x = ⟨.error e, []⟩)
    (g : α → Run β) : x >>= g = ⟨.error e, []⟩ := by
  rw [h, Run.bind_error]

theorem container_bind_of_failed {α : Type} {model : Value}
    (hc : f.registry.resolve model = .ok c) {g : Container → Run α} {e : Failure}
    (h : g c = ⟨.error e, []⟩) : f.container model >>= g = ⟨.error e, []⟩ := by
  rw [container, hc]
  exact h

/-- **A call whose statement is not built** does nothing else. -/
theorem perform_of_queryOf_error {extent : Extent} (hc : f.registry.resolve call.model = .ok c)
    (hextent : call.extent? = some extent) {e : Failure} (h : f.queryOf call = .error e) :
    f.perform call = ⟨.error e, []⟩ := by
  have hquery : (⟨f.queryOf call, []⟩ : Run Query) = ⟨.error e, []⟩ := by rw [h]
  cases call with
  | create => cases hextent
  | findOne | update => exact container_bind_of_failed hc (bind_of_failed hquery _)
  | count | updateMany | delete | deleteMany =>
    exact bind_of_failed (container_bind_of_failed hc (bind_of_failed hquery _)) _
  | findMany model conditions sortBy limit offset =>
    refine bind_of_failed (container_bind_of_failed hc ?_) _
    cases hwindow : f.window limit offset with
    | error e' =>
      simp only [queryOf, windowOf, hwindow] at h
      cases h
      rfl
    | ok w =>
      simp only [queryOf, windowOf, hwindow] at hquery
      rw [Run.bind_ok]
      exact congrArg (fun x : Run (List Value) => (⟨x.outcome, x.events⟩ : Run (List Value)))
        (bind_of_failed hquery fun q => fetchAll c q (some w.limit))

/-- A malformed window makes no window. -/
theorem window_of_malformed {limit offset : Value} {vs : List Violation}
    (h : Window.ofValues (some (if limit.isTruthy then limit else f.config.defaultLimit))
      (some (if offset.isTruthy then offset else .int 0)) = .error vs) :
    f.window limit offset = .error (windowFailure limit offset vs) := by
  unfold window
  dsimp only
  rw [h]
  rfl

/-- A malformed window is refused, with what is wrong with it, if it can be put into words. -/
theorem windowFailure_of_isWritable {limit offset : Value} (vs : List Violation)
    (h : limit.isWritable = true ∧ offset.isWritable = true) :
    ∃ message, windowFailure limit offset vs =
      ⟨.refusal (.invalidQuery message (vs.map Violation.report)), some (.invalid .window vs)⟩ := by
  obtain ⟨message, hmessage⟩ := exists_windowMessage_iff.mpr h
  exact ⟨message, by rw [windowFailure, hmessage]⟩

theorem windowFailure_of_not_isWritable {limit offset : Value} (vs : List Violation)
    (h : ¬(limit.isWritable = true ∧ offset.isWritable = true)) :
    windowFailure limit offset vs = ⟨.flawed .tooLongToWrite, none⟩ := by
  rw [windowFailure, windowMessage_of_not_isWritable h]

/-- A window never fails with violations. -/
theorem windowOf_finds_none (f : Facade) (call : Call) :
    FailsWith (fun e => ∀ s vs, e.fault ≠ .invalid s vs) (f.windowOf call) := by
  cases call with
  | findMany model conditions sortBy limit offset =>
    have hwindow : FailsWith (fun e => ∀ s vs, e.fault ≠ .invalid s vs) (f.window limit offset) := by
      unfold window
      dsimp only
      cases Window.ofValues _ _ with
      | ok w => trivial
      | error vs =>
        intro s vs' h
        by_cases hwords : limit.isWritable = true ∧ offset.isWritable = true
        · obtain ⟨message, hmessage⟩ := windowFailure_of_isWritable vs hwords
          rw [hmessage] at h
          cases h
        · rw [windowFailure_of_not_isWritable vs hwords] at h
          cases h
    exact hwindow.map fun _ _ => trivial
  | _ => trivial

/-- The violations of a condition or a sort key are raised as they were found. -/
theorem queryOf_of_malformed {window : Option Window} {s : Subject} {vs : List Violation}
    {selected : String} (hwindow : f.windowOf call = .ok window)
    (hselected : f.selectOf call = .ok selected)
    (h : Statement.Malformed (f.names call.model) call.conditions call.sortBy s vs) :
    f.queryOf call = .error ⟨.invalid s vs, none⟩ := by
  simp only [queryOf, statement, hwindow, hselected, bind, Except.bind]
  rw [Statement.build_of_malformed h]
  rfl

/-- Violations that are raised as they were found are those of a condition or a sort key. -/
theorem malformed_of_queryOf (hnames : (f.names call.model).FindsNoViolations) {s : Subject}
    {vs : List Violation} (h : f.queryOf call = .error ⟨.invalid s vs, none⟩) :
    f.Malformed call s vs ∧ s ≠ .window := by
  cases hwindow : f.windowOf call with
  | error e =>
    simp only [queryOf, hwindow, bind, Except.bind] at h
    cases h
    exact absurd rfl ((f.windowOf_finds_none call).of_error hwindow s vs)
  | ok window =>
    cases hselected : f.selectOf call with
    | error e =>
      simp only [queryOf, statement, hwindow, hselected, bind, Except.bind] at h
      cases h
      cases (selectOf_failsInside f call).of_error hselected
    | ok selected =>
      simp only [queryOf, statement, hwindow, hselected, bind, Except.bind] at h
      have hbuild : Statement.build (f.names call.model) selected call.conditions call.sortBy
          window = .error (.invalid s vs) := by
        cases hx : Statement.build (f.names call.model) selected call.conditions call.sortBy
            window with
        | error e =>
          rw [hx] at h
          cases h
          rfl
        | ok q =>
          rw [hx] at h
          cases h
      have hmalformed := (Statement.build_eq_invalid_iff hnames).mp hbuild
      refine ⟨?_, hmalformed.ne_window⟩
      cases hextent : call.extent? with
      | some extent => exact .statement hextent hwindow hselected hmalformed
      | none =>
        -- creations have neither conditions nor a sort key
        cases call with
        | create =>
          cases hmalformed with
          | condition hsome => cases hsome
          | sortKey _ hsome => exact absurd rfl hsome
        | _ => cases hextent

/-- **Of malformed inputs, those and only those of windows that can be put into words are refused.**

A call that has a malformed input asks the store for nothing, and fails.  If the window is malformed,
and the limit and the offset can be put into words, the failure is a refusal that carries the
violations, and attempting the call makes a result of it; without words the failure says only that.
If a condition or the sort key is malformed, the violations are raised as validation found them; that
happens only then, unless the resolver raises violations itself. -/
theorem refused_iff_malformed_window (f : Facade) (call : Call) {c : Container}
    (hc : f.registry.resolve call.model = .ok c) :
    (∀ s vs, f.Malformed call s vs → (f.perform call).events = [] ∧
      ∃ e, (f.perform call).outcome = .error e ∧
        ((∃ message, e.fault = .refusal (.invalidQuery message (vs.map Violation.report))) ↔
          s = .window ∧ call.windowIsWritable = true) ∧
        ((∃ result, (f.perform call).attempt.outcome = .ok result) ↔
          s = .window ∧ call.windowIsWritable = true) ∧
        (s = .window → call.windowIsWritable = false → e = ⟨.flawed .tooLongToWrite, none⟩) ∧
        (s ≠ .window → e = ⟨.invalid s vs, none⟩)) ∧
    ((f.names call.model).FindsNoViolations → ∀ s vs,
      f.queryOf call = .error ⟨.invalid s vs, none⟩ → f.Malformed call s vs ∧ s ≠ .window) := by
  constructor
  · intro s vs h
    cases h with
    | @window model conditions sortBy limit offset _ h =>
      have hquery : f.queryOf (.findMany model conditions sortBy limit offset) =
          .error (windowFailure limit offset vs) := queryOf_findMany_error (window_of_malformed h)
      have hwritable : (Call.findMany model conditions sortBy limit offset).windowIsWritable = true ↔
          limit.isWritable = true ∧ offset.isWritable = true := by
        rw [Call.windowIsWritable, Bool.and_eq_true]
      rw [Run.attempt, perform_of_queryOf_error hc rfl hquery, ← Bool.not_eq_true, hwritable]
      by_cases hwords : limit.isWritable = true ∧ offset.isWritable = true
      · obtain ⟨message, hmessage⟩ := windowFailure_of_isWritable vs hwords
        rw [hmessage]
        exact ⟨rfl, _, rfl, by simp [hwords], by simp [hwords], by simp [hwords], by simp⟩
      · rw [windowFailure_of_not_isWritable vs hwords]
        exact ⟨rfl, _, rfl, by simp [hwords], by simp [hwords], fun _ _ => rfl, by simp⟩
    | statement hextent hwindow hselected h =>
      have hne := h.ne_window
      have hquery := queryOf_of_malformed hwindow hselected h
      rw [Run.attempt, perform_of_queryOf_error hc hextent hquery]
      exact ⟨rfl, _, rfl, by simp [hne], by simp [hne], by simp [hne], fun _ => rfl⟩
  · exact fun hnames s vs h => malformed_of_queryOf hnames h

/-- A limit below one is refused before the store is asked. -/
theorem negative_limit_is_refused :
    let f : Facade := ⟨⟨[("user", .container (Script.toContainer {} "users"))], false⟩, .identity,
      .standard⟩
    let call : Call := .findMany (.str "user") .null .null (.int (-1)) .null
    (∃ c, f.registry.resolve call.model = .ok c) ∧ (f.names call.model).FindsNoViolations ∧
      f.Malformed call .window [⟨"limit", .positive, .int (-1)⟩] ∧
      (f.perform call).events = [] ∧
      ∃ e message, (f.perform call).outcome = .error e ∧ e.fault = .refusal
        (.invalidQuery message [Violation.report ⟨"limit", .positive, .int (-1)⟩]) := by
  intro f call
  have hc : f.registry.resolve call.model = .ok (Script.toContainer {} "users") := rfl
  have hmalformed : f.Malformed call .window [⟨"limit", .positive, .int (-1)⟩] := .window rfl
  obtain ⟨hevents, e, he, hrefused, -⟩ :=
    (refused_iff_malformed_window f call hc).1 _ _ hmalformed
  obtain ⟨message, hmessage⟩ := hrefused.mpr ⟨rfl, by decide +kernel⟩
  exact ⟨⟨_, hc⟩, fun _ => trivial, hmalformed, hevents, e, message, he, hmessage⟩

/-- An empty field name is not refused: the violation is raised as it was found. -/
theorem empty_field_name_is_raised :
    let f : Facade := ⟨⟨[("user", .container (Script.toContainer {} "users"))], false⟩, .identity,
      .standard⟩
    let call : Call := .findOne (.str "user") (.list [.dict [(.str "field", .str "")]])
    f.Malformed call .condition [⟨"field", .nonempty, .str ""⟩] ∧
      f.perform call = ⟨.error ⟨.invalid .condition [⟨"field", .nonempty, .str ""⟩], none⟩, []⟩ := by
  intro f call
  have hcondition : Condition.ofValue (.dict [(.str "field", .str "")]) =
      .error (.invalid .condition [⟨"field", .nonempty, .str ""⟩]) := by
    simp [Condition.ofValue, Value.mapping, Condition.ofEntries, Validation.fieldName,
      Validation.operator, Validation.connector, Value.lookup, Validation.text, Value.text?,
      Validation.violation?, bind, Except.bind, Except.mapError]
  have hitems : call.conditions.elements = .ok ([] ++ .dict [(.str "field", .str "")] :: []) := rfl
  have hmalformed : Statement.Malformed (f.names call.model) call.conditions call.sortBy .condition
      [⟨"field", .nonempty, .str ""⟩] := .condition rfl hitems rfl hcondition
  exact ⟨.statement rfl rfl rfl hmalformed,
    perform_of_queryOf_error rfl rfl (queryOf_of_malformed rfl rfl hmalformed)⟩

end Facade

end Docstore
