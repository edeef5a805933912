import Docstore.Facade
import Docstore.Proofs.Run

/-!
# Where faults come from

Reading, showing, storing and comparing values fails for reasons of its own: never with an error of
the remote service, never with a timeout, and never because a query input broke rules.  Only the
validation of conditions and sort keys says the last, and only stores, and what callers supply,
bring in the others.

* `Value.canonicalKey_failsInside`, `Value.store_failsInside` — values.
* `Fault.message_failsInside` — putting a fault into words.
* `Binder.compile_failsInside` — conditions that are valid.
* `Statement.build_not_foreign` — statements.
* `Mutation.apply_failsInside`, `Tally.reduce_isLocal` — mutations and tallies.
* `Failure.recast_not_foreign` — what leaves the boundary of a store.
* `Registry.resolve_failsInside`, `Facade.resolveData_not_foreign`, `Planner.deletions_not_foreign`
  — what a facade does before it asks a store.
-/

namespace Docstore

variable {α β : Type}

namespace Fault

/-- Whether a fault is an error of the remote service, or a timeout that is no refusal of the
library. -/
def isForeign : Fault → Bool
  | service _ | timeout _ => true
  | _ => false

/-- Whether computing with values may come to a fault by itself. -/
def isInternal : Fault → Bool
  | service _ | timeout _ | invalid .. => false
  | _ => true

theorem not_foreign_of_isInternal {e : Fault} (h : e.isInternal = true) : e.isForeign = false := by
  cases e with
  | service e => cases h
  | timeout message => cases h
  | _ => rfl

end Fault

/-- A computation fails only for reasons of its own. -/
abbrev FailsInside (x : Except Fault α) : Prop :=
  FailsWith (fun e => e.isInternal = true) x

/-- A computation does not fail with what comes from outside. -/
abbrev NotForeign (x : Except Fault α) : Prop :=
  FailsWith (fun e => e.isForeign = false) x

theorem NotForeign.of_failsInside {x : Except Fault α} (h : FailsInside x) : NotForeign x :=
  h.mono (fun _ => Fault.not_foreign_of_isInternal) fun _ _ => trivial

/-! ## Values -/

namespace Value

theorem elements_failsInside (v : Value) : FailsInside v.elements := by
  unfold elements
  split
  · trivial
  · exact rfl

theorem pairAt_failsInside (position : Nat) (item : Value) : FailsInside (pairAt position item) := by
  refine (elements_failsInside item).bind fun parts _ => ?_
  split
  · split
    · trivial
    · exact rfl
  · exact rfl

theorem readEntries_failsInside : ∀ (items : List Value) (entries : List (Value × Value))
    (position : Nat), FailsInside (readEntries entries position items)
  | [], _, _ => trivial
  | item :: rest, _, position =>
    (pairAt_failsInside position item).bind fun _ _ => readEntries_failsInside rest _ _

theorem mapping_failsInside (v : Value) : FailsInside v.mapping := by
  unfold mapping
  split
  · trivial
  · exact (elements_failsInside _).bind fun items _ => readEntries_failsInside items _ _

theorem entries_failsInside (v : Value) : FailsInside v.entries := by
  unfold entries
  split
  · trivial
  · exact rfl

theorem itemAt_failsInside (sequence : Sequence) (items : List α) (index : Int) :
    FailsInside (itemAt sequence items index) := by
  unfold itemAt
  split
  · exact rfl
  · split
    · split
      · trivial
      · exact rfl
    · exact rfl

theorem part_failsInside (v key : Value) : FailsInside (v.part key) := by
  unfold part
  split
  · split
    · exact rfl
    · split
      · trivial
      · exact rfl
  · split
    · exact itemAt_failsInside _ _ _
    · exact rfl

theorem size_failsInside (v : Value) : FailsInside v.size := by
  unfold size
  split
  · exact rfl
  · exact rfl
  · exact (elements_failsInside _).bind fun _ _ => trivial

theorem readInt_failsInside (digit : Char → Option Nat) (cs : List Char) (shown : String) :
    FailsInside (match Text.readInt digit cs with
      | .number n => Except.ok n
      | .notNumeral => .error (Fault.flawed (.notNumeral shown))
      | .tooLong count => .error (.flawed (.tooManyDigits count))) := by
  split
  · trivial
  · exact rfl
  · exact rfl

theorem toInt_failsInside (v : Value) : FailsInside v.toInt := by
  unfold toInt
  dsimp only
  split
  · trivial
  · trivial
  · trivial
  · split
    · trivial
    · split <;> exact rfl
  · split
    · trivial
    · exact rfl
    · exact rfl
  · exact readInt_failsInside _ _ _
  · split
    · exact readInt_failsInside _ _ _
    · exact rfl

theorem display_failsInside (v : Value) : FailsInside v.display := by
  unfold display worded
  split
  · trivial
  · exact rfl

theorem plainText_failsInside (v : Value) : FailsInside v.plainText := by
  unfold plainText worded
  split
  · trivial
  · exact rfl

theorem displayAll_failsInside (items : List Value) : FailsInside (displayAll items) :=
  Yields.mapM fun v _ => display_failsInside v

/-! ## Store forms -/

mutual

/-- **Storing a value** fails only for reasons of its own. -/
theorem store_failsInside : ∀ v : Value, FailsInside v.store
  | .list items | .tuple items => by
    rw [store]
    exact (storeItems_failsInside items).bind fun _ _ => trivial
  | .set _ items => by
    rw [store]
    exact (displayAll_failsInside items).bind fun _ _ =>
      (storeItems_failsInside items).bind fun _ _ => trivial
  | .dict entries => by
    rw [store]
    exact (storeEntries_failsInside entries).bind fun _ _ => trivial
  | .decimal .. => by
    rw [store]
    split
    · trivial
    · exact rfl
  | .null | .bool _ | .int _ | .float .. | .str _ | .timestamp _ | .date _ | .uuid _ | .bytes _
  | .operator _ | .connector _ | .direction _ | .condition .. | .sortKey .. => by
    simp only [store]
    trivial

theorem storeItems_failsInside : ∀ items : List Value, FailsInside (storeItems items)
  | [] => trivial
  | v :: rest => by
    rw [storeItems]
    exact (store_failsInside v).bind fun _ _ =>
      (storeItems_failsInside rest).bind fun _ _ => trivial

theorem storeEntries_failsInside : ∀ entries : List (Value × Value),
    FailsInside (storeEntries entries)
  | [] => trivial
  | (k, v) :: rest => by
    rw [storeEntries]
    exact (store_failsInside v).bind fun _ _ =>
      (storeEntries_failsInside rest).bind fun _ _ => trivial

end

/-! ## Order -/

theorem atomBefore_failsInside (v w : Value) : FailsInside (atomBefore v w) := by
  unfold atomBefore
  split
  · trivial
  · split
    · unfold numberBefore
      split
      · exact rfl
      · trivial
    · split
      · trivial
      · trivial
      · trivial
      · split
        · trivial
        · exact rfl
      · exact rfl

mutual

theorem before_failsInside : ∀ v w : Value, FailsInside (before v w)
  | .list xs, w => by
    cases w with
    | list ys =>
      rw [before]
      exact itemsBefore_failsInside xs ys
    | _ => simp only [before, atomBefore_failsInside]
  | .tuple xs, w => by
    cases w with
    | tuple ys =>
      rw [before]
      exact itemsBefore_failsInside xs ys
    | _ => simp only [before, atomBefore_failsInside]
  | .set _ xs, w => by
    cases w with
    | set _ ys =>
      rw [before]
      trivial
    | _ => simp only [before, atomBefore_failsInside]
  | .dict _, w | .decimal .., w | .null, w | .bool _, w | .int _, w | .float .., w | .str _, w
  | .timestamp _, w | .date _, w | .uuid _, w | .bytes _, w | .operator _, w | .connector _, w
  | .direction _, w | .condition .., w | .sortKey .., w => by
    simp only [before, atomBefore_failsInside]

theorem itemsBefore_failsInside : ∀ xs ys : List Value, FailsInside (itemsBefore xs ys)
  | [], ys => by
    rw [itemsBefore]
    trivial
  | _ :: _, [] => by
    rw [itemsBefore]
    trivial
  | x :: xs, y :: ys => by
    rw [itemsBefore]
    split
    · exact itemsBefore_failsInside xs ys
    · exact before_failsInside x y
    · exact rfl

end

end Value

/-! ## Canonical keys -/

namespace Json

theorem int_failsInside (n : Int) : FailsInside (int n) := by
  unfold int
  split
  · trivial
  · exact rfl

theorem keyText_failsInside (key : Value) : FailsInside (keyText key) := by
  unfold keyText
  split
  · trivial
  · trivial
  · exact int_failsInside _
  · trivial
  · split
    · trivial
    · exact rfl

/-- Ordering the entries of an object fails only as comparing keys does, and otherwise only
rearranges them. -/
theorem ordered_yields (entries : List (Value × β)) :
    Yields (fun e => e.isInternal = true) (·.Perm entries) (ordered entries) := by
  unfold ordered
  split
  · exact Sorting.sort_perm _ entries
  · exact Sorting.sortByRuns_yields (fun x y => Value.before_failsInside x.1 y.1) entries

theorem entry_failsInside (key : Value) {text : Except Fault (List Char)} (h : FailsInside text) :
    FailsInside (entry key text) :=
  (keyText_failsInside key).bind fun _ _ => h.bind fun _ _ => trivial

mutual

theorem write_failsInside : ∀ v : Value, FailsInside (write v)
  | .list items | .tuple items => by
    rw [write]
    exact (writeItems_failsInside items).bind fun _ _ => trivial
  | .dict entries => by
    rw [write]
    refine (ordered_yields _).bind fun sorted hsorted => ?_
    have htexts : FailsInside (sorted.mapM fun e => entry e.1 e.2) := Yields.mapM fun e he =>
      entry_failsInside e.1 (writeEntries_failsInside entries e (hsorted.mem_iff.mp he))
    exact htexts.bind fun _ _ => trivial
  | .int n => by
    rw [write]
    exact int_failsInside n
  | .null | .bool _ | .float .. | .str _ | .operator _ | .connector _ | .direction _ => by
    simp only [write]
    trivial
  | .decimal .. | .timestamp _ | .date _ | .uuid _ | .bytes _ | .set .. | .condition ..
  | .sortKey .. => by
    simp only [write]
    exact rfl

theorem writeItems_failsInside : ∀ items : List Value, FailsInside (writeItems items)
  | [] => trivial
  | v :: rest => by
    rw [writeItems]
    exact (write_failsInside v).bind fun _ _ =>
      (writeItems_failsInside rest).bind fun _ _ => trivial

theorem writeEntries_failsInside : ∀ entries : List (Value × Value),
    ∀ e ∈ writeEntries entries, FailsInside e.2
  | [], e, he => by
    rw [writeEntries] at he
    cases he
  | (k, v) :: rest, e, he => by
    rw [writeEntries] at he
    rcases List.mem_cons.mp he with rfl | he
    · exact write_failsInside v
    · exact writeEntries_failsInside rest e he

end

end Json

/-- **The canonical key of a value** is missing only for reasons of its own. -/
theorem Value.canonicalKey_failsInside (v : Value) : FailsInside v.canonicalKey :=
  (store_failsInside v).bind fun stored _ =>
    (Json.write_failsInside stored).bind fun _ _ => trivial

/-! ## Wordings -/

namespace Refusal

theorem withDetail_failsInside (message detail : Value) : FailsInside (withDetail message detail) := by
  refine (Value.plainText_failsInside message).bind fun words _ => ?_
  split
  · exact (Value.plainText_failsInside detail).bind fun _ _ => trivial
  · trivial

theorem message_failsInside (r : Refusal) : FailsInside r.message := by
  cases r with
  | plain message => trivial
  | unsupportedOperator operator valid suggestions =>
    exact (Value.plainText_failsInside operator).bind fun _ _ => trivial
  | configuration message model => trivial
  | persistence message detail action => exact withDetail_failsInside message detail
  | storeTimeout message detail action => exact withDetail_failsInside message detail
  | invalidQuery message violations => trivial

end Refusal

namespace Fault

/-- **Putting a fault into words** fails only for reasons of its own. -/
theorem message_failsInside (e : Fault) : FailsInside e.message := by
  cases e with
  | refusal r => exact Refusal.message_failsInside r
  | missingKey key => cases key with
    | none => trivial
    | some k => exact Value.display_failsInside k
  | notDecimal m => cases m <;> trivial
  | _ => trivial

theorem detail_failsInside (e : Fault) : FailsInside e.detail := by
  unfold detail
  dsimp only
  split
  · trivial
  · exact (message_failsInside e).bind fun _ _ => trivial

/-- What becomes of a store's fault: a refusal for one that would be foreign. -/
theorem refusal?_yields (action : Action) (e : Fault) :
    Yields (fun e => e.isInternal = true) (fun r => r = none → e.isForeign = false)
      (e.refusal? action) := by
  unfold refusal?
  refine (detail_failsInside e).bind fun detail _ => ?_
  cases hr : e.refusalWith? action detail with
  | some r => exact (Refusal.message_failsInside r).bind fun _ _ => nofun
  | none =>
    intro _
    unfold refusalWith? at hr
    cases e with
    | service s => split at hr <;> cases hr
    | timeout message => cases hr
    | _ => rfl

end Fault

/-! ## Statements -/

theorem Operator.resolve_failsInside (v : Value) : FailsInside (resolve v) := by
  unfold resolve
  split
  · trivial
  · split
    · trivial
    · exact (Value.plainText_failsInside v).bind fun _ _ => rfl

namespace Binder

theorem literal_failsInside (v : Value) : FailsInside (literal v) := by
  have hdata : FailsInside v.storedData := (Value.store_failsInside v).map fun _ _ => trivial
  exact (Value.canonicalKey_failsInside v).bind fun _ _ => hdata.bind fun _ _ => trivial

theorem bind_failsInside (b : Binder) (v : Value) : FailsInside (b.bind v) :=
  (literal_failsInside v).map fun _ _ => trivial

theorem parameter_failsInside (b : Binder) (name : String) : FailsInside (b.parameter name) :=
  (Value.toInt_failsInside _).bind fun _ _ => Value.itemAt_failsInside _ _ _

/-- **Compiling a condition** fails only for reasons of its own. -/
theorem compile_failsInside (b : Binder) (field operator : String) (operand : Value) :
    FailsInside (b.compile field operator operand) := by
  refine (Operator.resolve_failsInside _).bind fun op _ => ?_
  refine (bind_failsInside b _).bind ?_
  rintro ⟨name, b'⟩ -
  exact (parameter_failsInside b' name).bind fun _ _ => trivial

end Binder

theorem Condition.ofValue_not_foreign (v : Value) : NotForeign (ofValue v) := by
  unfold ofValue
  split
  · trivial
  · refine (NotForeign.of_failsInside (Value.mapping_failsInside _)).bind fun entries _ => ?_
    cases ofEntries entries with
    | ok c => trivial
    | error violations => exact rfl

theorem SortKey.ofValue_not_foreign (v : Value) : NotForeign (ofValue v) := by
  unfold ofValue
  split
  · trivial
  · refine (NotForeign.of_failsInside (Value.mapping_failsInside _)).bind fun entries _ => ?_
    cases ofEntries entries with
    | ok c => trivial
    | error violations => exact rfl

/-- The names that a resolver gives do not fail with what comes from outside. -/
def FieldResolver.GivesOwnNames (resolver : FieldResolver) : Prop :=
  ∀ model field, NotForeign (resolver model field)

namespace FieldNames

/-- The names of fields do not fail with what comes from outside. -/
def GivesOwnNames (names : FieldNames) : Prop :=
  ∀ field, NotForeign (names.renamed? field)

variable {names : FieldNames}

theorem reference_yields {P : Fault → Prop} {field : String}
    (h : FailsWith P (names.renamed? field)) : FailsWith P (names.reference field) :=
  (h.bind fun _ _ => trivial : FailsWith P (names.resolve field)).bind fun _ _ => trivial

end FieldNames

namespace Statement

variable {names : FieldNames}

/-- The clause of a valid condition fails as the names of fields do, or for reasons of its own. -/
theorem clause_yields {P : Fault → Prop} {b : Binder} {v : Value} {c : Condition}
    (hc : Condition.ofValue v = .ok c) (hname : FailsWith P (names.renamed? c.field))
    (hP : ∀ e : Fault, e.isInternal = true → P e) : FailsWith P (clause names b v) := by
  unfold clause
  rw [hc]
  refine (FieldNames.reference_yields hname).bind fun _ _ => ?_
  exact ((Binder.compile_failsInside b _ _ _).mono hP fun _ _ => trivial).bind fun _ _ => trivial

theorem clause_not_foreign (hnames : names.GivesOwnNames) (b : Binder) (v : Value) :
    NotForeign (clause names b v) := by
  cases hc : Condition.ofValue v with
  | ok c => exact clause_yields hc (hnames c.field) fun _ => Fault.not_foreign_of_isInternal
  | error e =>
    unfold clause
    rw [hc]
    exact (Condition.ofValue_not_foreign v).of_error hc

theorem clauses_not_foreign (hnames : names.GivesOwnNames) : ∀ (items : List Value) (b : Binder),
    NotForeign (clauses names items b).1
  | [], _ => trivial
  | v :: rest, b => by
    unfold clauses
    split
    · rename_i e he
      exact (clause_not_foreign hnames b v).of_error he
    · rename_i text b' _
      have hrest := clauses_not_foreign hnames rest b'
      split
      · rename_i e b'' he
        exact hrest.of_error (congrArg Prod.fst he)
      · trivial

theorem filter_not_foreign (hnames : names.GivesOwnNames) (conditions : Value) (b : Binder) :
    NotForeign (filter names conditions b).1 := by
  unfold filter
  split
  · trivial
  · split
    · rename_i e he
      exact (NotForeign.of_failsInside (Value.elements_failsInside conditions)).of_error he
    · rename_i items _
      have hitems := clauses_not_foreign hnames items b
      split
      · rename_i e b' he
        exact hitems.of_error (congrArg Prod.fst he)
      · trivial

theorem orderBy_not_foreign (hnames : names.GivesOwnNames) (sortBy : Value) :
    NotForeign (orderBy names sortBy) := by
  unfold orderBy
  split
  · trivial
  · exact (SortKey.ofValue_not_foreign _).bind fun s _ =>
      (FieldNames.reference_yields (hnames s.field)).bind fun _ _ => trivial

theorem page_failsInside (window : Option Window) (b : Binder) : FailsInside (page window b).1 := by
  unfold page
  split
  · trivial
  · split
    · rename_i e he
      exact (Binder.bind_failsInside b _).of_error he
    · rename_i offset b' _
      split
      · rename_i e he
        exact (Binder.bind_failsInside b' _).of_error he
      · trivial

/-- **Building a statement** does not fail with what comes from outside. -/
theorem build_not_foreign (hnames : names.GivesOwnNames) (select : String)
    (conditions sortBy : Value) (window : Option Window) :
    NotForeign (build names select conditions sortBy window) := by
  unfold build
  refine (filter_not_foreign hnames conditions {}).bind fun _ _ => ?_
  refine (orderBy_not_foreign hnames sortBy).bind fun _ _ => ?_
  exact (NotForeign.of_failsInside (page_failsInside window _)).bind fun _ _ => trivial

end Statement

/-! ## Mutations and tallies -/

theorem Mutation.setFields_failsInside : ∀ (changes fields : List (Value × Value)) (changed : Bool),
    FailsInside (setFields fields changed changes)
  | [], _, _ => trivial
  | (name, value) :: rest, fields, changed => by
    unfold setFields
    split
    · exact setFields_failsInside rest _ _
    · split
      · exact setFields_failsInside rest _ _
      · exact setFields_failsInside rest _ _
      · exact rfl

/-- **Applying a mutation** fails only for reasons of its own. -/
theorem Mutation.apply_failsInside (document mutation : Value) :
    FailsInside (apply document mutation) :=
  (Value.mapping_failsInside document).bind fun fields _ =>
    (Value.entries_failsInside mutation).bind fun changes _ =>
      setFields_failsInside changes fields false

namespace Tally

theorem isExpected_failsInside (kind : WriteKind) (status : Value) :
    FailsInside (isExpected kind status) := by
  unfold isExpected
  split
  · trivial
  · trivial
  · exact rfl

/-- What reports the statuses of a batch fails only for reasons of its own. -/
theorem statusesOf_yields (v : Value) : Yields (fun e => e.isInternal = true)
    (fun s => ∀ place, FailsInside (s.get place)) (statusesOf v) := by
  refine (Value.size_failsInside v).bind fun size _ => fun place => ?_
  unfold Statuses.get
  split
  · exact Value.part_failsInside v _
  · trivial

theorem enter_failsInside {statuses : Statuses}
    (h : ∀ place, FailsInside (statuses.get place)) :
    ∀ (operations : List Operation) (t : Tally) (place : Nat),
      FailsInside (enter statuses t place operations)
  | [], _, _ => trivial
  | o :: rest, t, place => by
    unfold enter
    refine (h place).bind fun status _ => ?_
    refine (isExpected_failsInside o.kind status).bind fun expected _ => ?_
    split
    · exact enter_failsInside h rest _ _
    · split
      · exact enter_failsInside h rest _ _
      · exact rfl

theorem failureMessage_failsInside (operations : List Operation) (t : Tally) :
    FailsInside (failureMessage operations t) := by
  have htexts : FailsInside (t.failed.mapM fun e => e.2.plainText) :=
    Yields.mapM fun e _ => Value.plainText_failsInside e.2
  exact (htexts.bind fun _ _ => trivial : FailsInside t.statusTexts).bind fun _ _ => trivial

/-- **Tallying a batch** leaves log records only, and fails only for reasons of its own. -/
theorem reduce_isLocal (operations : List Operation) (statuses : Value) :
    (reduce operations statuses).IsLocal fun e => e.fault.isInternal = true := by
  have hreported := statusesOf_yields statuses
  unfold reduce
  refine (Run.isLocal_of (hreported.mono (fun _ he => he) fun _ _ => trivial)).bind ?_
  intro reported hok
  have hparts : ∀ place, FailsInside (reported.get place) := by
    cases hstatuses : statusesOf statuses with
    | error e =>
      rw [hstatuses] at hok
      cases hok
    | ok s =>
      rw [hstatuses] at hok
      cases hok
      exact hreported.of_ok hstatuses
  have htally : (do
      let t ← Run.of (enter reported {} 0 operations)
      if !t.failed.isEmpty then
        let words ← Run.of (failureMessage operations t)
        Run.log .warning logger words
      return t : Run Tally).IsLocal fun e => e.fault.isInternal = true := by
    refine (Run.isLocal_of (enter_failsInside hparts operations _ _)).bind fun t _ => ?_
    dsimp only
    split
    · exact (Run.isLocal_of (failureMessage_failsInside operations t)).bind fun _ _ =>
        (Run.isLocal_log ..).bind fun _ _ => Run.isLocal_pure _
    · exact Run.isLocal_pure _
  dsimp only
  split
  · exact (Run.isLocal_log ..).bind fun _ _ => htally
  · exact htally

end Tally

/-- **What leaves the boundary of a store** is nothing foreign. -/
theorem Failure.recast_not_foreign (action : Action) (e : Failure) :
    (e.recast action).fault.isForeign = false := by
  have hrefusal := Fault.refusal?_yields action e.fault
  unfold recast
  split
  · rename_i hr
    rw [hr]
    rfl
  · split
    · rfl
    · rename_i hnone
      exact hrefusal.of_ok hnone rfl
    · rename_i g hg
      exact Fault.not_foreign_of_isInternal (hrefusal.of_error hg)

/-! ## Registries, data and plans -/

namespace Registry

theorem entry?_failsInside (r : Registry) (model : Value) : FailsInside (r.entry? model) := by
  unfold entry?
  split
  · trivial
  · exact rfl

theorem present?_failsInside (r : Registry) (model : Value) : FailsInside (r.present? model) := by
  refine (entry?_failsInside r model).bind fun found _ => ?_
  split <;> trivial

theorem complaint_isInternal (model : Value) (words : String) :
    (complaint model words).isInternal = true := by
  unfold complaint
  split
  · rfl
  · rename_i e he
    exact (Value.plainText_failsInside model).of_error he

theorem pick_failsInside (model : Value) (found : Option Registered) :
    FailsInside (match found with
      | none => .error (notFound model)
      | some (.container c) => .ok c
      | some (.value v) => .error (notContainer model v.typeName)
      | some (.incomplete typeName) => .error (notContainer model typeName)
        : Except Fault Container) := by
  split
  · exact complaint_isInternal model _
  · trivial
  · exact complaint_isInternal model _
  · exact complaint_isInternal model _

theorem resolve_failsInside (r : Registry) (model : Value) : FailsInside (r.resolve model) := by
  refine (present?_failsInside r model).bind fun found _ => ?_
  split
  · exact pick_failsInside model _
  · split
    · exact (Value.plainText_failsInside model).bind fun name _ =>
        (present?_failsInside r _).bind fun found _ => pick_failsInside model found
    · exact pick_failsInside model none

end Registry

namespace Facade

variable {f : Facade}

theorem names_giveOwnNames (h : f.resolver.GivesOwnNames) (model : Value) :
    (f.names model).GivesOwnNames := by
  intro field
  unfold names
  split
  · exact h _ field
  · trivial

theorem physicalKey_not_foreign (h : f.resolver.GivesOwnNames) (model key : Value) :
    NotForeign (f.physicalKey model key) := by
  unfold physicalKey
  split
  · exact (names_giveOwnNames h model _).bind fun _ _ => trivial
  · trivial

theorem resolveEntries_not_foreign (h : f.resolver.GivesOwnNames) (model : Value) :
    ∀ given resolved : List (Value × Value), NotForeign (f.resolveEntries model resolved given)
  | [], _ => trivial
  | (k, v) :: rest, _ => (physicalKey_not_foreign h model k).bind fun _ _ =>
    (NotForeign.of_failsInside (Value.store_failsInside v)).bind fun _ _ =>
      resolveEntries_not_foreign h model rest _

theorem resolveData_not_foreign (h : f.resolver.GivesOwnNames) (model data : Value) :
    NotForeign (f.resolveData model data) :=
  (NotForeign.of_failsInside (Value.entries_failsInside data)).bind fun entries _ =>
    (resolveEntries_not_foreign h model entries []).bind fun _ _ => trivial

theorem selectAll_failsInside (f : Facade) : FailsInside f.selectAll :=
  (Value.plainText_failsInside _).bind fun _ _ => trivial

theorem selectCount_failsInside (f : Facade) : FailsInside f.selectCount :=
  (Value.plainText_failsInside _).bind fun _ _ => trivial

theorem selectKeys_failsInside (f : Facade) : FailsInside f.selectKeys := by
  unfold selectKeys
  split
  · exact (Value.plainText_failsInside _).bind fun _ _ =>
      (Value.plainText_failsInside _).bind fun _ _ => trivial
  · exact selectAll_failsInside f

end Facade

namespace Planner

/-- The partition keys that a planner takes do not fail with what comes from outside. -/
def TakesOwnKeys (p : Planner) : Prop :=
  ∀ extract, p.partitionKey = some extract → ∀ document, NotForeign (extract document)

theorem documentKeyOf_failsInside (p : Planner) (document : Value) :
    FailsInside (p.documentKeyOf document) :=
  Value.part_failsInside document p.idField

variable {p : Planner}

theorem partitionKeyOf_not_foreign (hp : p.TakesOwnKeys) (document : Value) :
    NotForeign (p.partitionKeyOf document) := by
  unfold partitionKeyOf
  split
  · rename_i extract hextract
    exact hp extract hextract document
  · exact NotForeign.of_failsInside (documentKeyOf_failsInside p document)

theorem deletion_not_foreign (hp : p.TakesOwnKeys) (document : Value) :
    NotForeign (p.deletion document) :=
  (NotForeign.of_failsInside (documentKeyOf_failsInside p document)).bind fun _ _ =>
    (partitionKeyOf_not_foreign hp document).bind fun _ _ => trivial

theorem deletions_not_foreign (hp : p.TakesOwnKeys) (documents : List Value) :
    NotForeign (p.deletions documents) :=
  Yields.mapM fun document _ => deletion_not_foreign hp document

theorem replacement_not_foreign (hp : p.TakesOwnKeys) (mutation document : Value) :
    NotForeign (p.replacement mutation document) := by
  refine (NotForeign.of_failsInside (Mutation.apply_failsInside document mutation)).bind ?_
  rintro ⟨fields, changed⟩ -
  dsimp only
  split
  · refine (NotForeign.of_failsInside (documentKeyOf_failsInside p _)).bind fun _ _ => ?_
    exact (partitionKeyOf_not_foreign hp _).bind fun _ _ => trivial
  · trivial

theorem replacements_not_foreign (hp : p.TakesOwnKeys) (mutation : Value)
    (documents : List Value) : NotForeign (p.replacements mutation documents) := by
  have hall : NotForeign (documents.mapM (p.replacement mutation)) :=
    Yields.mapM fun document _ => replacement_not_foreign hp mutation document
  exact hall.bind fun _ _ => trivial

end Planner

end Docstore
