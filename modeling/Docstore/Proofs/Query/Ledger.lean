import Docstore.Proofs.Query.Placeholders

/-!
# Binders at work

While a binder works it keeps a table that finds the placeholder of a key, and the list of the
parameters.  It writes the placeholder of a new literal into the table first, converts the literal
then, and adds the parameter last; and a compiled condition reads its parameter back by the number in
the name of the placeholder.  A failure between two of these steps would leave what was written.

No call fails there: a value with a canonical key can be converted, every operator has a fragment, and
the number of a placeholder is read back.  So the table and the list never come apart, and a ledger is
at any time that of a binder, which is no more than the list of its literals.

* `bind_ledger`, `compile_ledger` — a ledger does what its binder does, and what fails leaves it as it
  was.
* `Binder.run_ledger` — so it is for any number of calls, of which any may fail.
* `ledger_accounts_for_calls` — what a ledger says after each of its calls.
-/

namespace Docstore

open Binder (placeholder)

/-- What a binder works on: the placeholders by the keys of their literals, and the parameters. -/
structure Ledger where
  names : List (String × String) := []
  parameters : List Parameter := []

namespace Ledger

/-- The placeholder of a value, and the ledger after it.  The placeholder of a new literal is entered
before the literal is converted, and stays if that fails. -/
def bind (l : Ledger) (v : Value) : Except Fault String × Ledger :=
  match v.canonicalKey with
  | .error e => (.error e, l)
  | .ok key =>
    match l.names.lookup key with
    | some name => (.ok name, l)
    | none =>
      let name := placeholder l.parameters.length
      let named := { l with names := l.names ++ [(key, name)] }
      match v.storedData with
      | .error e => (.error e, named)
      | .ok value => (.ok name, { named with parameters := l.parameters ++ [⟨name, value⟩] })

/-- The parameter at the number in a name. -/
def parameter (l : Ledger) (name : String) : Except Fault Parameter := do
  let number ← (Value.str (String.ofList (name.toList.drop Binder.stem.length))).toInt
  Value.itemAt .list l.parameters number

/-- A condition on a field, compiled.  The first form that knows the operator gives the fragment; the
literal stays bound if there is none, or if its parameter is not found. -/
def compile (l : Ledger) (field operator : String) (operand : Value) :
    Except Fault CompiledCondition × Ledger :=
  match Operator.resolve (.str operator) with
  | .error e => (.error e, l)
  | .ok op =>
    match l.bind (op.operand operand) with
    | (.error e, l') => (.error e, l')
    | (.ok name, l') =>
      let fragments := [Fragment.comparison? op field name, Fragment.function? op field name,
        Fragment.membership? op field name]
      match fragments.findSome? id with
      | some fragment => ((l'.parameter name).map (⟨fragment, ·⟩), l')
      | none => (.error (.refusal (.ofOperatorText op.text (Operator.texts.map .str))), l')

end Ledger

namespace Binder

variable {b b' : Binder} {v : Value} {p : String}

/-- The ledger of a binder. -/
def ledger (b : Binder) : Ledger :=
  ⟨b.bound.zipIdx.map fun (l, number) => (l.key, placeholder number), b.parameters⟩

/-- The table of a ledger finds the placeholder of the first literal with a key. -/
theorem lookup_names (key : String) : ∀ (bound : List Literal) (first : Nat),
    ((bound.zipIdx first).map fun (l, number) => (l.key, placeholder number)).lookup key =
      (bound.findIdx? (·.key == key)).map fun number => placeholder (first + number)
  | [], _ => rfl
  | l :: rest, first => by
    rw [List.zipIdx_cons, List.map_cons, List.lookup_cons, List.findIdx?_cons,
      lookup_names key rest (first + 1)]
    by_cases heq : l.key = key
    · simp [heq]
    · have hne : (key == l.key) = false := beq_eq_false_iff_ne.mpr (Ne.symm heq)
      have hne' : (l.key == key) = false := beq_eq_false_iff_ne.mpr heq
      simp only [hne, hne', Bool.false_eq_true, if_false, Option.map_map]
      refine congrArg (Option.map · _) (funext fun number => ?_)
      rw [Function.comp_apply, Nat.add_assoc, Nat.add_comm 1 number]

/-- Adding a literal enters its placeholder and adds its parameter. -/
theorem ledger_append (b : Binder) (l : Literal) : ledger ⟨b.bound ++ [l]⟩ =
    ⟨b.ledger.names ++ [(l.key, placeholder b.size)],
      b.parameters ++ [⟨placeholder b.size, l.value⟩]⟩ := by
  simp [ledger, parameters, List.zipIdx_append, size]

/-- **A ledger binds as its binder does**; a value that is not bound leaves it as it was. -/
theorem bind_ledger (b : Binder) (v : Value) : b.ledger.bind v = match b.bind v with
    | .ok (name, b') => (.ok name, b'.ledger)
    | .error e => (.error e, b.ledger) := by
  have hlength : b.ledger.parameters.length = b.size := b.parameters_length
  unfold Ledger.bind Binder.bind
  cases hkey : v.canonicalKey with
  | error e =>
    have hliteral : literal v = .error e := by
      unfold literal
      rw [hkey]
      rfl
    rw [hliteral]
    rfl
  | ok key =>
    -- a value with a key was converted for it, so that it is converted once more
    obtain ⟨value, hdata, -⟩ := Value.canonicalKey_eq_ok_iff.mp hkey
    have hliteral : literal v = .ok ⟨key, value⟩ := literal_eq_ok.mpr ⟨hkey, hdata⟩
    rw [hliteral]
    have hlookup : b.ledger.names.lookup key =
        (b.bound.findIdx? (·.key == key)).map placeholder := by
      refine (lookup_names key b.bound 0).trans ?_
      simp only [Nat.zero_add]
    simp only [Except.map, allot, hlookup]
    cases hfound : b.bound.findIdx? (·.key == key) with
    | some number => rfl
    | none =>
      simp only [Option.map_none, hdata, hlength]
      exact Prod.ext rfl (ledger_append b ⟨key, value⟩).symm

/-- Every operator has a fragment, and it is that of the form that knows it. -/
theorem findSome?_fragments (op : Operator) (field name : String) :
    [Fragment.comparison? op field name, Fragment.function? op field name,
      Fragment.membership? op field name].findSome? id = some (Fragment.text op field name) := by
  cases op <;> rfl

theorem bind_size (h : b.bind v = .ok (p, b')) : b.size ≤ b'.size ∧ b'.size ≤ b.size + 1 := by
  rcases bind_bound h with hb | ⟨l, -, hb⟩ <;> simp [size, hb]

/-- The parameter of a value that was just bound is read back, if its number is a place of any
sequence. -/
theorem parameter_of_bind (hsize : b.size < 2 ^ 63) (h : b.bind v = .ok (p, b')) :
    ∃ held, b'.parameter p = .ok held ∧ held.name = p := by
  obtain ⟨number, l, rfl, hl, -⟩ := bind_standsFor h
  have hnumber : number < b'.size := (List.getElem?_eq_some_iff.mp hl).1
  have hgrown := (bind_size h).2
  exact ⟨_, parameter_placeholder hl (by omega), rfl⟩

section Compile

variable {field operator : String} {operand : Value} {op : Operator} {e : Fault}

/-- An operator that is not supported is found before the operand is looked at. -/
theorem compile_of_unresolved (hop : Operator.resolve (.str operator) = .error e) :
    b.compile field operator operand = .error e := by
  unfold compile
  rw [hop]
  rfl

theorem compile_of_unbound (hop : Operator.resolve (.str operator) = .ok op)
    (hbind : b.bind (op.operand operand) = .error e) :
    b.compile field operator operand = .error e := by
  unfold compile
  rw [hop]
  show (b.bind (op.operand operand) >>= _) = _
  rw [hbind]
  rfl

theorem compile_of_bound (hop : Operator.resolve (.str operator) = .ok op)
    (hbind : b.bind (op.operand operand) = .ok (p, b')) {held : Parameter}
    (hheld : b'.parameter p = .ok held) :
    b.compile field operator operand = .ok (⟨Fragment.text op field p, held⟩, b') :=
  bind_eq_ok.mpr ⟨op, hop, bind_eq_ok.mpr ⟨(p, b'), hbind, bind_eq_ok.mpr ⟨held, hheld, rfl⟩⟩⟩

/-- **A ledger compiles as its binder does**; a condition that is not compiled leaves it as it
was. -/
theorem compile_ledger (hsize : b.size < 2 ^ 63) : b.ledger.compile field operator operand =
    match b.compile field operator operand with
    | .ok (compiled, b') => (.ok compiled, b'.ledger)
    | .error e => (.error e, b.ledger) := by
  unfold Ledger.compile
  cases hop : Operator.resolve (.str operator) with
  | error e => rw [compile_of_unresolved hop]
  | ok op =>
    simp only [bind_ledger]
    cases hbind : b.bind (op.operand operand) with
    | error e => rw [compile_of_unbound hop hbind]
    | ok result =>
      obtain ⟨p, b'⟩ := result
      -- the number of the placeholder is read back, so nothing fails once the literal is bound
      obtain ⟨held, hheld, -⟩ := parameter_of_bind hsize hbind
      have hfound : b'.ledger.parameter p = .ok held := hheld
      rw [compile_of_bound hop hbind hheld]
      simp only [findSome?_fragments, hfound]
      rfl

end Compile

end Binder

/-! ## Calls -/

/-- A call on a binder: a value is bound, or a condition is compiled on a field. -/
inductive Ledger.Call where
  | bind (v : Value)
  | compile (field operator : String) (operand : Value)

/-- The operand that a call binds: a condition has one if its operator is supported, and that of a
membership is a list. -/
def Ledger.Call.operand? : Ledger.Call → Option Value
  | .bind v => some v
  | .compile _ operator operand => (Operator.ofText? operator).map (·.operand operand)

/-- The placeholder that a call gives, and the ledger after it. -/
def Ledger.call (l : Ledger) : Call → Except Fault String × Ledger
  | .bind v => l.bind v
  | .compile field operator operand =>
    let (compiled, l') := l.compile field operator operand
    (compiled.map (·.parameter.name), l')

namespace Binder

/-- The placeholder that a call gives, and the binder after it. -/
def call (b : Binder) : Ledger.Call → Except Fault (String × Binder)
  | .bind v => b.bind v
  | .compile field operator operand =>
    (b.compile field operator operand).map fun (compiled, b') => (compiled.parameter.name, b')

/-- A call whose failure leaves the binder that was there. -/
def step (b : Binder) (c : Ledger.Call) : Except Fault String × Binder :=
  match b.call c with
  | .ok (name, b') => (.ok name, b')
  | .error e => (.error e, b)

variable {b b' : Binder} {c : Ledger.Call} {v : Value} {p : String}

/-- **A call that succeeds binds its operand**, and gives the placeholder that the operand gets. -/
theorem call_binds (hsize : b.size < 2 ^ 63) (h : b.call c = .ok (p, b')) :
    ∃ v, c.operand? = some v ∧ b.bind v = .ok (p, b') := by
  cases c with
  | bind v => exact ⟨v, rfl, h⟩
  | compile field operator operand =>
    obtain ⟨⟨compiled, b₁⟩, hcompile, hp⟩ := map_eq_ok.mp h
    cases hp
    obtain ⟨op, name, hop, hbind, -⟩ := Statement.compile_eq_ok hcompile
    obtain ⟨held, hheld, hname⟩ := parameter_of_bind hsize hbind
    have hcompiled : b.compile field operator operand = _ :=
      compile_of_bound (Operator.resolve_str_eq_ok.mpr hop) hbind hheld
    rw [hcompile] at hcompiled
    cases hcompiled
    refine ⟨op.operand operand, by rw [Ledger.Call.operand?, hop]; rfl, ?_⟩
    dsimp only
    rw [hname]
    exact hbind

/-- A call binds its operand, or it fails and leaves the binder. -/
theorem step_cases (hsize : b.size < 2 ^ 63) (c : Ledger.Call) :
    (∃ v p b', c.operand? = some v ∧ b.bind v = .ok (p, b') ∧ b.step c = (.ok p, b')) ∨
      ∃ e, b.step c = (.error e, b) := by
  unfold step
  cases hcall : b.call c with
  | error e => exact .inr ⟨e, rfl⟩
  | ok result =>
    obtain ⟨p, b'⟩ := result
    obtain ⟨v, hv, hbind⟩ := call_binds hsize hcall
    exact .inl ⟨v, p, b', hv, hbind, rfl⟩

/-- A call keeps what is bound, adds one literal at most, and keeps the keys different. -/
theorem step_grows (hsize : b.size < 2 ^ 63) (hb : b.IsDistinct) (c : Ledger.Call) :
    b.bound <+: (b.step c).2.bound ∧ (b.step c).2.size ≤ b.size + 1 ∧ (b.step c).2.IsDistinct := by
  rcases step_cases hsize c with ⟨v, p, b', -, hbind, hstep⟩ | ⟨e, hstep⟩
  · have hkept := bind_prefix hbind
    rw [hstep]
    exact ⟨hkept, (bind_size hbind).2, hb.bind hbind⟩
  · rw [hstep]
    exact ⟨List.prefix_refl _, Nat.le_succ _, hb⟩

/-- **A ledger answers a call as its binder does**, and a call that fails leaves it as it was. -/
theorem call_ledger (hsize : b.size < 2 ^ 63) (c : Ledger.Call) :
    b.ledger.call c = ((b.step c).1, (b.step c).2.ledger) := by
  unfold step
  cases c with
  | bind v =>
    rw [Ledger.call, bind_ledger, call]
    cases b.bind v <;> rfl
  | compile field operator operand =>
    rw [Ledger.call, compile_ledger hsize, call]
    cases b.compile field operator operand <;> rfl

end Binder

/-! ## Runs of calls -/

/-- One call of a run: what it gave, and the ledger before and after it. -/
structure Ledger.Event where
  call : Ledger.Call
  outcome : Except Fault String
  before : Ledger
  after : Ledger

/-- The calls of a run, one after the other, whether they fail or not. -/
def Ledger.run (l : Ledger) : List Call → List Event
  | [] => []
  | c :: rest => ⟨c, (l.call c).1, l, (l.call c).2⟩ :: (l.call c).2.run rest

/-- The run of a binder, as its ledger shows it. -/
def Binder.run (b : Binder) : List Ledger.Call → List Ledger.Event
  | [] => []
  | c :: rest => ⟨c, (b.step c).1, b.ledger, (b.step c).2.ledger⟩ :: (b.step c).2.run rest

/-- **A ledger runs as its binder does**, however many of the calls fail. -/
theorem Binder.run_ledger : ∀ (calls : List Ledger.Call) {b : Binder}, b.IsDistinct →
    b.size + calls.length ≤ 2 ^ 63 → b.ledger.run calls = b.run calls
  | [], _, _, _ => rfl
  | c :: rest, b, hb, hsize => by
    rw [List.length_cons] at hsize
    have hroom : b.size < 2 ^ 63 := by omega
    obtain ⟨-, hgrown, hb'⟩ := step_grows hroom hb c
    rw [Ledger.run, Binder.run, call_ledger hroom, run_ledger rest hb' (by omega)]

/-- The binder after some calls. -/
def Binder.after (b : Binder) (calls : List Ledger.Call) : Binder :=
  calls.foldl (fun b c => (b.step c).2) b

/-- An event is a step of a binder, whose literals stay bound until the last one. -/
structure Ledger.Event.Steps (e : Ledger.Event) (b last : Binder) : Prop where
  distinct : b.IsDistinct
  room : b.size < 2 ^ 63
  before : e.before = b.ledger
  after : e.after = (b.step e.call).2.ledger
  outcome : e.outcome = (b.step e.call).1
  kept : (b.step e.call).2.bound <+: last.bound

/-- **Every event of a run is a step of a binder**, and the keys of the last binder are different. -/
theorem Binder.run_steps : ∀ (calls : List Ledger.Call) {b : Binder}, b.IsDistinct →
    b.size + calls.length ≤ 2 ^ 63 →
    b.bound <+: (b.after calls).bound ∧ (b.after calls).IsDistinct ∧
      ∀ e ∈ b.run calls, ∃ b₁, e.Steps b₁ (b.after calls)
  | [], b, hb, _ => ⟨List.prefix_refl _, hb, fun _ he => nomatch he⟩
  | c :: rest, b, hb, hsize => by
    rw [List.length_cons] at hsize
    have hroom : b.size < 2 ^ 63 := by omega
    obtain ⟨hkept, hgrown, hb'⟩ := step_grows hroom hb c
    obtain ⟨hlast, hdistinct, hsteps⟩ := run_steps rest hb' (by omega)
    refine ⟨hkept.trans hlast, hdistinct, ?_⟩
    intro e he
    rcases List.mem_cons.mp he with rfl | he
    · exact ⟨b, hb, hroom, rfl, rfl, rfl, hlast⟩
    · exact hsteps e he

/-! ## What a ledger says -/

/-- A ledger whose table and list agree. -/
structure Ledger.IsConsistent (l : Ledger) : Prop where
  /-- The parameters are numbered from zero on. -/
  numbered : l.parameters.map (·.name) = (List.range l.parameters.length).map placeholder
  /-- The table has the canonical key of each parameter, in the order of the parameters. -/
  keyed : List.Forall₂ (fun (key, name) p => p.name = name ∧ p.value.canonicalKey = .ok key)
    l.names l.parameters
  /-- The keys are different. -/
  keys_nodup : (l.names.map (·.1)).Nodup
  /-- Each parameter is found by its name. -/
  found : ∀ p ∈ l.parameters, l.parameter p.name = .ok p

/-- What the events of a run on a fresh ledger have in common. -/
structure Ledger.Accounts (events : List Event) : Prop where
  /-- After every call the ledger is consistent. -/
  consistent : ∀ e ∈ events, e.after.IsConsistent
  /-- A call that fails leaves the ledger as it was. -/
  unchanged : ∀ e ∈ events, ∀ fault, e.outcome = .error fault → e.after = e.before
  /-- An operator that is not supported is refused whatever its operand. -/
  refused : ∀ e ∈ events, ∀ field operator operand, e.call = .compile field operator operand →
    Operator.ofText? operator = none →
    e.outcome = .error (.refusal (.ofOperatorText operator (Operator.texts.map .str)))
  /-- A call that succeeds keeps the parameters, adds one at most, and gives the name of one. -/
  grows : ∀ e ∈ events, ∀ p, e.outcome = .ok p →
    e.before.parameters <+: e.after.parameters ∧
      e.after.parameters.length ≤ e.before.parameters.length + 1 ∧
      p ∈ e.after.parameters.map (·.name)
  /-- Two calls give the same name exactly if their operands have the same canonical key. -/
  shared : ∀ e ∈ events, ∀ f ∈ events, ∀ p q, e.outcome = .ok p → f.outcome = .ok q →
    ∃ v w key key', e.call.operand? = some v ∧ f.call.operand? = some w ∧
      v.canonicalKey = .ok key ∧ w.canonicalKey = .ok key' ∧ (p = q ↔ key = key')

namespace Binder

variable {b b' : Binder}

/-- **The table and the list of a binder agree.** -/
theorem IsDistinct.isConsistent (hb : b.IsDistinct) (hsize : b.size ≤ 2 ^ 63) :
    b.ledger.IsConsistent where
  numbered := by
    show b.parameters.map (·.name) = (List.range b.parameters.length).map placeholder
    rw [parameters_names, parameters_length]
  keyed := by
    show List.Forall₂ _ (b.bound.zipIdx.map _) (b.bound.zipIdx.map _)
    rw [List.forall₂_map_left_iff, List.forall₂_map_right_iff]
    refine List.forall₂_same.mpr fun entry hentry => ⟨rfl, ?_⟩
    exact hb.canonicalKey entry.1 (List.fst_mem_of_mem_zipIdx hentry)
  keys_nodup := by
    have hkeys : b.ledger.names.map (·.1) = b.bound.map (·.key) := by
      conv_rhs => rw [← List.zipIdx_map_fst 0 b.bound]
      rw [ledger, List.map_map, List.map_map]
      rfl
    rw [hkeys]
    exact hb.keys_nodup
  found := by
    intro p hp
    obtain ⟨⟨l, number⟩, hentry, rfl⟩ := List.mem_map.mp (show p ∈ b.parameters from hp)
    have hl : b.bound[number]? = some l := List.mk_mem_zipIdx_iff_getElem?.mp hentry
    have hnumber : number < b.size := (List.getElem?_eq_some_iff.mp hl).1
    exact parameter_placeholder hl (by omega)

end Binder

namespace Ledger.Event.Steps

variable {e : Ledger.Event} {b last : Binder}

/-- An event without a failure gives the placeholder that stands for its operand. -/
theorem of_ok {p : String} (h : e.Steps b last) (hp : e.outcome = .ok p) :
    ∃ v b', e.call.operand? = some v ∧ b.bind v = .ok (p, b') ∧ e.after = b'.ledger ∧
      b'.bound <+: last.bound := by
  rcases Binder.step_cases h.room e.call with ⟨v, q, b', hv, hbind, hstep⟩ | ⟨fault, hstep⟩
  · have hq := h.outcome
    have hafter := h.after
    have hkept := h.kept
    rw [hstep] at hq hafter hkept
    cases hp.symm.trans hq
    exact ⟨v, b', hv, hbind, hafter, hkept⟩
  · rw [h.outcome, hstep] at hp
    cases hp

theorem of_error {fault : Fault} (h : e.Steps b last) (hfault : e.outcome = .error fault) :
    e.after = e.before := by
  rcases Binder.step_cases h.room e.call with ⟨v, q, b', hv, hbind, hstep⟩ | ⟨fault', hstep⟩
  · rw [h.outcome, hstep] at hfault
    cases hfault
  · rw [h.after, h.before, hstep]

theorem isConsistent (h : e.Steps b last) : e.after.IsConsistent := by
  obtain ⟨-, hsize, hdistinct⟩ := Binder.step_grows h.room h.distinct e.call
  have hroom := h.room
  rw [h.after]
  exact hdistinct.isConsistent (by omega)

theorem grows {p : String} (h : e.Steps b last) (hp : e.outcome = .ok p) :
    e.before.parameters <+: e.after.parameters ∧
      e.after.parameters.length ≤ e.before.parameters.length + 1 ∧
      p ∈ e.after.parameters.map (·.name) := by
  obtain ⟨v, b', -, hbind, hafter, -⟩ := h.of_ok hp
  rw [h.before, hafter]
  show b.parameters <+: b'.parameters ∧ b'.parameters.length ≤ b.parameters.length + 1 ∧
    p ∈ b'.parameters.map (·.name)
  rw [Binder.parameters_length, Binder.parameters_length, Binder.parameters_names]
  have hkept := Binder.bind_prefix hbind
  have hparameters := Binder.parameters_prefix hkept
  refine ⟨hparameters, (Binder.bind_size hbind).2, ?_⟩
  obtain ⟨number, l, rfl, hl, -⟩ := Binder.bind_standsFor hbind
  have hnumber : number < b'.size := (List.getElem?_eq_some_iff.mp hl).1
  exact List.mem_map_of_mem (List.mem_range.mpr hnumber)

theorem refused {field operator : String} {operand : Value} (h : e.Steps b last)
    (hcall : e.call = .compile field operator operand) (hop : Operator.ofText? operator = none) :
    e.outcome = .error (.refusal (.ofOperatorText operator (Operator.texts.map .str))) := by
  have hresolve : Operator.resolve (.str operator) =
      .error (.refusal (.ofOperatorText operator (Operator.texts.map .str))) := by
    simp only [Operator.resolve, Value.text?, Option.bind_some, hop, Value.plainText_str]
    rfl
  rw [h.outcome, Binder.step, hcall, Binder.call, Binder.compile_of_unresolved hresolve]
  rfl

/-- Two events of a run give the same placeholder exactly if their operands have the same key. -/
theorem shared {f : Ledger.Event} {c : Binder} {p q : String} (he : e.Steps b last)
    (hlast : last.IsDistinct) (hf : f.Steps c last) (hp : e.outcome = .ok p)
    (hq : f.outcome = .ok q) : ∃ v w key key', e.call.operand? = some v ∧ f.call.operand? = some w ∧
      v.canonicalKey = .ok key ∧ w.canonicalKey = .ok key' ∧ (p = q ↔ key = key') := by
  obtain ⟨v, b', hv, hbind, -, hkept⟩ := he.of_ok hp
  obtain ⟨w, c', hw, hbind', -, hkept'⟩ := hf.of_ok hq
  obtain ⟨-, l, -, -, hkey⟩ := Binder.bind_standsFor hbind
  obtain ⟨-, l', -, -, hkey'⟩ := Binder.bind_standsFor hbind'
  -- when all calls are made, each placeholder stands for its operand still
  have hstands := (Binder.bind_standsFor hbind).mono hkept
  have hstands' := (Binder.bind_standsFor hbind').mono hkept'
  refine ⟨v, w, l.key, l'.key, hv, hw, hkey, hkey', ?_⟩
  rw [hstands.eq_iff hlast hstands', hkey, hkey', Except.ok.injEq]

end Ledger.Event.Steps

/-- **A fresh binder accounts for its calls**, however many of them fail, if they are not more than a
sequence has places: its ledger runs as it does, and no failure shows in it. -/
theorem ledger_accounts_for_calls (calls : List Ledger.Call) (hroom : calls.length ≤ 2 ^ 63) :
    ({} : Ledger).run calls = ({} : Binder).run calls ∧
      Ledger.Accounts (({} : Ledger).run calls) := by
  have hsize : Binder.size {} + calls.length ≤ 2 ^ 63 := (Nat.zero_add _).trans_le hroom
  have hrun := Binder.run_ledger calls Binder.isDistinct_empty hsize
  obtain ⟨-, hlast, hsteps⟩ := Binder.run_steps calls Binder.isDistinct_empty hsize
  have hfresh : Binder.ledger {} = {} := rfl
  rw [hfresh] at hrun
  rw [hrun]
  refine ⟨rfl, ?_⟩
  constructor
  case consistent =>
    intro e he
    obtain ⟨b, h⟩ := hsteps e he
    exact h.isConsistent
  case unchanged =>
    intro e he fault hfault
    obtain ⟨b, h⟩ := hsteps e he
    exact h.of_error hfault
  case refused =>
    intro e he field operator operand hcall hop
    obtain ⟨b, h⟩ := hsteps e he
    exact h.refused hcall hop
  case grows =>
    intro e he p hp
    obtain ⟨b, h⟩ := hsteps e he
    exact h.grows hp
  case shared =>
    intro e he f hf p q hp hq
    obtain ⟨b, he⟩ := hsteps e he
    obtain ⟨c, hf⟩ := hsteps f hf
    exact he.shared hlast hf hp hq

/-- Among five calls an operator that is not supported and an operand that cannot be written fail;
a condition shares the placeholder of a value that was bound before them. -/
theorem ledger_accounts_for_calls_two_of_which_fail :
    let calls : List Ledger.Call := [.bind (.int 1), .compile "c.size" "like" (.str "a"),
      .compile "c.size" "eq" (.bytes []), .compile "c.size" "eq" (.int 1), .bind (.str "1")]
    calls.length ≤ 2 ^ 63 ∧
      (({} : Ledger).run calls = ({} : Binder).run calls ∧
        Ledger.Accounts (({} : Ledger).run calls)) ∧
      (({} : Binder).run calls).map (·.outcome.toOption) =
        [some "@param0", none, none, some "@param0", some "@param1"] :=
  ⟨by decide, ledger_accounts_for_calls _ (by decide), by decide +kernel⟩

end Docstore
