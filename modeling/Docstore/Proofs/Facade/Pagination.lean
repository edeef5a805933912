import Docstore.Proofs.Facade.Paging
import Docstore.Proofs.Facade.Malformed
import Docstore.Proofs.Query.PageWindow

/-!
# Windows over what matches

A store that gives, for a window of a query, this part of what matches the query is read window by
window.  Every call finds its part of the matches, however the store cuts it into pages, and calls
with a fixed limit, each one limit further than the one before, find all matches, every one of them
once, before one finds nothing.

* `Container.Serves` — a container gives the parts of some rows that windows of a query ask for.
* `Sweep` — asking for window after window until nothing is found.
* `Sweep.of_windows` — a sweep over parts of a list gives the list.
* `Facade.windows_tile_matches` — finding documents window by window.
-/

namespace Docstore

/-! ## Sweeps -/

/-- Asks for what begins at one offset after the other, a step apart, until nothing is found. -/
inductive Sweep (ask : (offset : Nat) → Except Failure (List Value)) (step : Nat) :
    (offset : Nat) → (found : List Value) → Prop
  | done {offset : Nat} (h : ask offset = .ok []) : Sweep ask step offset []
  | next {offset : Nat} {rows found : List Value} (h : ask offset = .ok rows) (hrows : rows ≠ [])
      (hfound : Sweep ask step (offset + step) found) : Sweep ask step offset (rows ++ found)

namespace Sweep

variable {ask : Nat → Except Failure (List Value)} {step offset : Nat} {rows found : List Value}

/-- What a sweep finds is determined by the answers. -/
theorem unique (h : Sweep ask step offset found) :
    ∀ {others : List Value}, Sweep ask step offset others → found = others := by
  induction h with
  | done h =>
    intro others hothers
    cases hothers with
    | done _ => rfl
    | next h' hrows _ => exact absurd (Except.ok.inj (h'.symm.trans h)) hrows
  | next h hrows _ ih =>
    intro others hothers
    cases hothers with
    | done h' => exact absurd (Except.ok.inj (h.symm.trans h')) hrows
    | next h' _ hfound' => rw [Except.ok.inj (h.symm.trans h'), ih hfound']

/-- **A sweep over the parts of a list** gives the list, as far as its answers reach. -/
theorem of_windows (hstep : 0 < step) (hask : ∀ k, k * step < rows.length + step →
    ask (k * step) = .ok ((rows.drop (k * step)).take step)) (k : Nat)
    (hk : k * step < rows.length + step) : Sweep ask step (k * step) (rows.drop (k * step)) := by
  have hanswer := hask k hk
  by_cases hend : rows.length ≤ k * step
  · have hnothing : rows.drop (k * step) = [] := List.drop_eq_nil_of_le hend
    rw [hnothing, List.take_nil] at hanswer
    rw [hnothing]
    exact .done hanswer
  · -- something is left, so the next offset is asked for, from where less is left
    have hnext : (k + 1) * step < rows.length + step := by
      rw [Nat.succ_mul]
      omega
    have hrest := of_windows hstep hask (k + 1) hnext
    have hsplit : rows.drop (k * step) =
        (rows.drop (k * step)).take step ++ rows.drop ((k + 1) * step) := by
      rw [Nat.succ_mul, ← List.drop_drop, List.take_append_drop]
    have hsome : (rows.drop (k * step)).take step ≠ [] := by
      rw [← List.length_pos_iff, List.length_take, List.length_drop]
      omega
    rw [hsplit]
    refine .next hanswer hsome ?_
    rwa [Nat.succ_mul] at hrest ⊢
termination_by rows.length + step - k * step
decreasing_by
  rw [Nat.succ_mul]
  omega

end Sweep

/-! ## Stores with rows -/

/-- The part of rows that a window asks for. -/
def Window.part (w : Window) (rows : List Value) : List Value :=
  (rows.drop w.offset.toNat).take w.limit.toNat

/-- A container gives the parts of some rows that windows of a query ask for, on pages of any
lengths. -/
def Container.Serves (c : Container) (whole : Query) (rows : List Value) : Prop :=
  ∀ q w, q.IsWindowOf whole w → ∀ maxItems, ∃ pages, c.query q maxItems = .ofPages pages ∧
    pages.flatten = w.part rows

/-- A container that keeps rows and gives the parts that windows ask for, every row on a page of its
own behind an empty page. -/
def Container.ofRows (name : String) (rows : List Value) : Container :=
  { Script.toContainer {} name with
    query := fun q _ => match q.window? with
      | some w => .ofPages ((w.part rows).flatMap fun row => [[], [row]])
      | none => .done }

theorem Container.ofRows_serves (name : String) (rows : List Value) (whole : Query) :
    (Container.ofRows name rows).Serves whole rows := by
  intro q w hq maxItems
  refine ⟨(w.part rows).flatMap fun row => [[], [row]], ?_, ?_⟩
  · simp only [ofRows, hq.window]
  · induction w.part rows with
    | nil => rfl
    | cons row rest ih => simp [List.flatMap_cons, ih]

namespace Facade

variable {f : Facade} {c : Container} {model conditions sortBy : Value} {whole : Query}
  {rows : List Value} {limit offset : Nat}

theorem window_of_numbers (hlimit : 1 ≤ limit) :
    f.window (.int limit) (.int offset) = .ok ⟨limit, offset⟩ := by
  have htrue : (Value.int limit).isTruthy = true := by
    simp only [Value.isTruthy, bne_iff_ne]
    omega
  have hoffset : (if (Value.int offset).isTruthy then Value.int offset else .int 0) =
      .int offset := by
    cases offset with
    | zero => rfl
    | succ n => rfl
  have hwindow : Window.ofValues (some (.int limit)) (some (.int offset)) = .ok ⟨limit, offset⟩ := by
    have hpositive : 0 < limit := hlimit
    simp [Window.ofValues, Validation.integerWith, Validation.integer, bind, Except.bind, hpositive]
  unfold window
  rw [if_pos htrue]
  dsimp only
  rw [hoffset, hwindow]
  rfl

/-- Where a statement is built without a window, it is with one whose numbers can be written. -/
theorem statement_isWindowOf {w : Window}
    (hwhole : f.statement model f.selectAll conditions sortBy none = .ok whole)
    (hlimit : w.limit.natAbs < 10 ^ Text.maxDigits)
    (hoffset : w.offset.natAbs < 10 ^ Text.maxDigits) :
    ∃ q, f.statement model f.selectAll conditions sortBy (some w) = .ok q ∧ q.IsWindowOf whole w := by
  obtain ⟨selected, hselected, hbuild⟩ := statement_eq_ok.mp hwhole
  obtain ⟨q, hq, hwindow⟩ := Statement.build_isWindowOf hbuild hlimit hoffset
  exact ⟨q, statement_eq_ok.mpr ⟨selected, hselected, hq⟩, hwindow⟩

/-- It is not built with a window that has a number of more digits than are ever written. -/
theorem statement_unwritable {w : Window}
    (hwhole : f.statement model f.selectAll conditions sortBy none = .ok whole)
    (h : 10 ^ Text.maxDigits ≤ w.limit.natAbs ∨ 10 ^ Text.maxDigits ≤ w.offset.natAbs) :
    f.statement model f.selectAll conditions sortBy (some w) = .error (.flawed .tooLongToWrite) := by
  obtain ⟨selected, hselected, hbuild⟩ := statement_eq_ok.mp hwhole
  rw [statement, hselected]
  exact Statement.build_unwritable hbuild h

/-- A statement that is built with the window of two numbers is that of the call. -/
theorem queryOf_of_numbers (hlimit : 1 ≤ limit) {q : Query}
    (h : f.statement model f.selectAll conditions sortBy (some ⟨limit, offset⟩) = .ok q) :
    f.queryOf (.findMany model conditions sortBy (.int limit) (.int offset)) = .ok q := by
  have hwindow : f.window (.int limit) (.int offset) = .ok ⟨limit, offset⟩ :=
    window_of_numbers hlimit
  have hrun : (⟨f.queryOf (.findMany model conditions sortBy (.int limit) (.int offset)), []⟩ :
      Run Query) = Run.of (.ok q) := by rw [queryOf_findMany hwindow, h]
  exact congrArg Run.outcome hrun

/-- **A call finds the part of the matches** that its window asks for. -/
theorem findMany_part (hc : f.registry.resolve model = .ok c)
    (hwhole : f.statement model f.selectAll conditions sortBy none = .ok whole)
    (hserves : c.Serves whole rows) (hpositive : 1 ≤ limit)
    (hlimit : limit < 10 ^ Text.maxDigits) (hoffset : offset < 10 ^ Text.maxDigits) :
    (∃ q, f.queryOf (.findMany model conditions sortBy (.int limit) (.int offset)) = .ok q ∧
      q.IsWindowOf whole ⟨limit, offset⟩) ∧
    (f.findMany model conditions sortBy (.int limit) (.int offset)).outcome =
      .ok ((rows.drop offset).take limit) := by
  obtain ⟨q, hbuild, hwindow⟩ :=
    @statement_isWindowOf _ _ _ _ _ ⟨limit, offset⟩ hwhole hlimit hoffset
  have hq := queryOf_of_numbers hpositive hbuild
  obtain ⟨pages, hpages, hpart⟩ := hserves q _ hwindow
    (f.pageSize (.findMany model conditions sortBy (.int limit) (.int offset)))
  refine ⟨⟨q, hq, hwindow⟩, ?_⟩
  rw [findMany_outcome hc hq hpages, hpart]
  rfl

/-- A call whose statement is built with its window reads what answers it, on pages of its limit. -/
theorem findMany_eq_fetchAll {limit offset : Value} {w : Window} {q : Query}
    (hc : f.registry.resolve model = .ok c) (hw : f.window limit offset = .ok w)
    (h : f.statement model f.selectAll conditions sortBy (some w) = .ok q) :
    f.findMany model conditions sortBy limit offset = fetchAll c q (some w.limit) := by
  have hcontainer : f.container model = pure c := by
    rw [container, hc]
    rfl
  have hwindow : (⟨f.window limit offset, []⟩ : Run Window) = pure w := by
    rw [hw]
    rfl
  have hquery : Run.of (f.statement model f.selectAll conditions sortBy (some w)) = pure q := by
    rw [h]
    rfl
  unfold findMany
  rw [hcontainer, pure_bind, hwindow, pure_bind, hquery, pure_bind]

/-- A call whose window has a number of more digits than are ever written fails and asks nothing. -/
theorem findMany_of_unwritable {limit offset : Value} {w : Window}
    (hc : f.registry.resolve model = .ok c)
    (hwhole : f.statement model f.selectAll conditions sortBy none = .ok whole)
    (hw : f.window limit offset = .ok w)
    (h : 10 ^ Text.maxDigits ≤ w.limit.natAbs ∨ 10 ^ Text.maxDigits ≤ w.offset.natAbs) :
    f.findMany model conditions sortBy limit offset =
      ⟨.error ⟨.flawed .tooLongToWrite, none⟩, []⟩ := by
  have hrun : Run.of (f.statement model f.selectAll conditions sortBy (some w)) =
      ⟨.error ⟨.flawed .tooLongToWrite, none⟩, []⟩ := by
    rw [statement_unwritable hwhole h]
    rfl
  refine container_bind_of_failed hc ?_
  rw [hw, Run.bind_ok, hrun, Run.bind_error]
  rfl

theorem findMany_unwritable (hc : f.registry.resolve model = .ok c)
    (hwhole : f.statement model f.selectAll conditions sortBy none = .ok whole)
    (hpositive : 1 ≤ limit)
    (h : 10 ^ Text.maxDigits ≤ limit ∨ 10 ^ Text.maxDigits ≤ offset) :
    f.findMany model conditions sortBy (.int limit) (.int offset) =
      ⟨.error ⟨.flawed .tooLongToWrite, none⟩, []⟩ :=
  findMany_of_unwritable hc hwhole (window_of_numbers hpositive) h

/-- What a call with a limit finds from an offset on. -/
def foundFrom (f : Facade) (model conditions sortBy : Value) (limit offset : Nat) :
    Except Failure (List Value) :=
  (f.findMany model conditions sortBy (.int limit) (.int offset)).outcome

/-- **Windows tile what matches.**

Suppose that a model has a container, that a statement with the given conditions and sort is built,
and that the container gives, for every window of it, this part of some rows.

Then a call with a limit and an offset asks for this window of the statement, whatever values the
conditions have, and finds this part of the rows.  A sweep from the start finds all rows, each of
them once and in order, and nothing else.  This holds for limits and offsets that are written with
at most as many digits as are ever written; others make the call fail before anything is asked. -/
theorem windows_tile_matches (f : Facade) (hc : f.registry.resolve model = .ok c)
    (hwhole : f.statement model f.selectAll conditions sortBy none = .ok whole)
    (hserves : c.Serves whole rows) :
    (∀ limit offset : Nat, 1 ≤ limit → limit < 10 ^ Text.maxDigits →
      offset < 10 ^ Text.maxDigits →
      (∃ q, f.queryOf (.findMany model conditions sortBy (.int limit) (.int offset)) = .ok q ∧
        q.IsWindowOf whole ⟨limit, offset⟩) ∧
      (f.findMany model conditions sortBy (.int limit) (.int offset)).outcome =
        .ok ((rows.drop offset).take limit)) ∧
    (∀ limit : Nat, 1 ≤ limit → limit < 10 ^ Text.maxDigits →
      (∀ k, k * limit < rows.length + limit → k * limit < 10 ^ Text.maxDigits) →
      ∀ found, Sweep (f.foundFrom model conditions sortBy limit) limit 0 found ↔ found = rows) ∧
    ∀ limit offset : Nat, 1 ≤ limit →
      10 ^ Text.maxDigits ≤ limit ∨ 10 ^ Text.maxDigits ≤ offset →
      f.findMany model conditions sortBy (.int limit) (.int offset) =
        ⟨.error ⟨.flawed .tooLongToWrite, none⟩, []⟩ := by
  refine ⟨fun limit offset => findMany_part hc hwhole hserves, ?_,
    fun limit offset => findMany_unwritable hc hwhole⟩
  intro limit hpositive hlimit hoffsets found
  have hparts : ∀ k, k * limit < rows.length + limit →
      f.foundFrom model conditions sortBy limit (k * limit) =
        .ok ((rows.drop (k * limit)).take limit) := fun k hk =>
    (findMany_part hc hwhole hserves hpositive hlimit (hoffsets k hk)).2
  have hsweep := Sweep.of_windows hpositive hparts 0 (by omega)
  rw [Nat.zero_mul, List.drop_zero] at hsweep
  constructor
  · exact fun h => h.unique hsweep
  · rintro rfl
    exact hsweep

/-- Three rows in windows of two.  The conditions ask for the limit and an offset, and for a truth
value, a text and a floating-point number that come close to them. -/
theorem sweep_of_two_windows :
    let rows : List Value := [.dict [(.str "id", .str "a")], .dict [(.str "id", .str "b")],
      .dict [(.str "id", .str "c")]]
    let f : Facade := ⟨⟨[("user", .container (Container.ofRows "users" rows))], false⟩, .identity,
      .standard⟩
    let conditions : Value := .list [.condition "a" (.int 2) "ne" .and,
      .condition "a" (.float (.ofRatio false 2 1) (.given 0)) "ne" .and,
      .condition "a" (.str "2") "ne" .and, .condition "a" (.bool false) "ne" .and, .condition "a" (.int 0) "ne" .and]
    Sweep (f.foundFrom (.str "user") conditions .null 2) 2 0 rows := by
  intro rows f conditions
  have hc : f.registry.resolve (.str "user") = .ok (Container.ofRows "users" rows) := rfl
  obtain ⟨whole, hwhole⟩ : ∃ whole, f.statement (.str "user") f.selectAll conditions .null none =
      .ok whole := ⟨_, rfl⟩
  obtain ⟨-, hsweep, -⟩ :=
    windows_tile_matches f hc hwhole (Container.ofRows_serves "users" rows whole)
  have hwritten : ∀ n < 10, n < 10 ^ Text.maxDigits := fun n hn =>
    Nat.lt_of_lt_of_le hn (Nat.le_self_pow (by decide) 10)
  refine (hsweep 2 (by decide) (hwritten 2 (by decide)) (fun k hk => hwritten _ ?_) rows).mpr rfl
  have hlength : rows.length = 3 := rfl
  omega

/-- A limit with more digits than are ever written is refused, though the store would give all its
rows. -/
theorem longer_limit_fails :
    let rows : List Value := [.dict [(.str "id", .str "a")]]
    let c := Container.ofRows "users" rows
    let f : Facade := ⟨⟨[("user", .container c)], false⟩, .identity, .standard⟩
    let limit : Nat := 10 ^ Text.maxDigits
    (∃ whole, f.statement (.str "user") f.selectAll .null .null none = .ok whole ∧
        c.Serves whole rows) ∧
      (rows.drop 0).take limit = rows ∧ f.findMany (.str "user") .null .null (.int limit) (.int 0) =
        ⟨.error ⟨.flawed .tooLongToWrite, none⟩, []⟩ := by
  intro rows c f limit
  obtain ⟨whole, hwhole⟩ : ∃ whole, f.statement (.str "user") f.selectAll .null .null none =
      .ok whole := ⟨_, rfl⟩
  have hpositive : 1 ≤ limit := Nat.one_le_pow _ _ (by decide)
  have hlength : rows.length ≤ limit := hpositive
  have hfails : f.findMany (.str "user") .null .null (.int limit) (.int (0 : Nat)) =
      ⟨.error ⟨.flawed .tooLongToWrite, none⟩, []⟩ :=
    findMany_unwritable rfl hwhole hpositive (.inl (Nat.le_refl limit))
  exact ⟨⟨whole, hwhole, Container.ofRows_serves "users" rows whole⟩,
    List.take_of_length_le hlength, hfails⟩

end Facade

end Docstore
