import Docstore.Connection
import Docstore.Proofs.Run

/-!
# The life of a connection

A connection whose calls come one after the other, each of them meeting the remote service as it is
at that time.  The account of a connection is kept from outside, by what its calls did and gave:
which clients were made, and which were closed without failure.

* `Connection.connect_cases`, `Connection.close_cases` — what the calls that change a connection
  come to.
* `Account.after` — a call keeps the account.
* `runAll_account` — so do all calls.
* `holds_the_open_client` — at every point the client that is held is the one that was made and not
  closed, and every call acts by it.
-/

namespace Docstore.Connection

/-- A call of a connection. -/
inductive Command where
  | connect
  | client
  | container (name : String)
  | registry (models : List (String × String)) (usePlural : Bool)
  | close
  | healthCheck

/-- What a call gives. -/
inductive Answer where
  | client (number : Nat)
  | container (c : Container)
  | registry (r : Registry)
  | closed
  | health (reachable : Bool)

/-- The run of a call, and the connection after it. -/
def perform (r : Remote) (c : Connection) : Command → Run Answer × Connection
  | .connect => (.client <$> (c.connect r).1, (c.connect r).2)
  | .client => (.client <$> c.client, c)
  | .container name => (.container <$> c.container r name, c)
  | .registry models usePlural => (.registry <$> c.registry r models usePlural, c)
  | .close => ((fun _ => .closed) <$> (c.close r).1, (c.close r).2)
  | .healthCheck => (.health <$> c.healthCheck r, c)

/-- The runs of calls, one after the other, and the connection after them. -/
def runAll (c : Connection) : List (Remote × Command) → List (Run Answer) × Connection
  | [] => ([], c)
  | (r, command) :: rest =>
    let (x, c') := c.perform r command
    let (xs, c'') := runAll c' rest
    (x :: xs, c'')

/-! ## What calls come to -/

section

variable {r : Remote} {c : Connection}

/-- **What connecting comes to**: the client that is held, a failure, or a new client. -/
theorem connect_cases (r : Remote) (c : Connection) :
    (∃ n, c.held = some n ∧ c.connect r = (pure n, c)) ∨
    (∃ e, c.held = none ∧ r.onConnect = some e ∧ c.connect r = (⟨.error (connectFailure e),
      [.client (.opened c.endpoint.url c.endpoint.credential c.endpoint.options)]⟩, c)) ∨
    (c.held = none ∧ r.onConnect = none ∧ c.connect r = (⟨.ok c.made,
      [.client (.opened c.endpoint.url c.endpoint.credential c.endpoint.options)]⟩, c.holding)) := by
  unfold connect
  cases hheld : c.held with
  | some n => exact .inl ⟨n, rfl, rfl⟩
  | none =>
    cases hconnect : r.onConnect with
    | some e => exact .inr (.inl ⟨e, rfl, rfl, rfl⟩)
    | none => exact .inr (.inr ⟨rfl, rfl, rfl⟩)

/-- **What closing comes to**: nothing without a client, a failure, or the release of the client. -/
theorem close_cases (r : Remote) (c : Connection) :
    (c.held = none ∧ c.close r = (pure (), c)) ∨
    (∃ n e, c.held = some n ∧ r.onClose = some e ∧
      c.close r = (⟨.error e, [.client (.closed n)]⟩, c)) ∨
    (∃ n, c.held = some n ∧ r.onClose = none ∧
      c.close r = (⟨.ok (), [.client (.closed n)]⟩, c.released)) := by
  unfold close beginClose
  cases hheld : c.held with
  | none => exact .inl ⟨rfl, rfl⟩
  | some n =>
    cases hclose : r.onClose with
    | some e => exact .inr (.inl ⟨n, e, rfl, rfl, rfl⟩)
    | none => exact .inr (.inr ⟨n, rfl, rfl, rfl⟩)

/-- Without a client, what needs one is refused and nothing is asked of the service. -/
theorem client_of_none (h : c.held = none) :
    c.client = ⟨.error ⟨.refusal notConnected, none⟩, []⟩ := by
  unfold client
  rw [h]
  rfl

theorem client_of_held {n : Nat} (h : c.held = some n) : c.client = pure n := by
  unfold client
  rw [h]

theorem container_of_none (h : c.held = none) (name : String) :
    c.container r name = ⟨.error ⟨.refusal notConnected, none⟩, []⟩ := by
  rw [container, database, client_of_none h]
  rfl

theorem container_of_held {n : Nat} (h : c.held = some n) (name : String) :
    (c.container r name).outcome = .ok ((r.container name).toContainer c.endpoint.concurrency) := by
  rw [container, database, client_of_held h]
  rfl

/-- Without a client there is no registry, unless it is to be empty. -/
theorem registry_of_none (h : c.held = none) {models : List (String × String)} (hne : models ≠ [])
    (usePlural : Bool) :
    c.registry r models usePlural = ⟨.error ⟨.refusal notConnected, none⟩, []⟩ := by
  obtain ⟨⟨model, name⟩, rest, rfl⟩ := List.exists_cons_of_ne_nil hne
  rw [registry, List.mapM_cons]
  dsimp only
  rw [container_of_none h]
  rfl

theorem registry_of_held {n : Nat} (h : c.held = some n) (models : List (String × String))
    (usePlural : Bool) : ∃ registry, (c.registry r models usePlural).outcome = .ok registry := by
  unfold registry
  refine Run.exists_outcome_bind (Run.exists_outcome_mapM ?_ models) fun _ => ⟨_, rfl⟩
  rintro ⟨model, name⟩
  exact Run.exists_outcome_bind ⟨_, container_of_held h name⟩ fun _ => ⟨_, rfl⟩

end

/-! ## The account -/

/-- Whether an event tells that a client was to be made. -/
def opens : Event → Bool
  | .client (.opened ..) => true
  | _ => false

/-- The client that an event tells was to be closed. -/
def closes? : Event → Option Nat
  | .client (.closed n) => some n
  | _ => none

/-- The client that a call has made. -/
def made? (x : Run Answer) : Option Nat :=
  match x.outcome with
  | .ok (.client n) => if x.events.any opens then some n else none
  | _ => none

/-- The client that a call has closed without failure. -/
def closed? (x : Run Answer) : Option Nat :=
  match x.outcome with
  | .ok _ => x.events.findSome? closes?
  | .error _ => none

/-- The account of a connection, given the clients that were made and those that were closed:
clients are numbered as they are made, and all of them were closed but the one that is held. -/
structure Account (made closed : List Nat) (c : Connection) : Prop where
  numbers : made = List.range c.made
  open_is_held : made = closed ++ c.held.toList

theorem account_new (e : Endpoint) : Account [] [] { endpoint := e } :=
  ⟨rfl, rfl⟩

/-- A run in which no client is made or closed. -/
def Leaves {α : Type} (x : Run α) : Prop :=
  ∀ e ∈ x.events, opens e = false ∧ closes? e = none

namespace Leaves

variable {α β : Type}

theorem made?_eq_none {x : Run Answer} (h : Leaves x) : made? x = none := by
  have hany : x.events.any opens = false := by
    rw [List.any_eq_false]
    intro e he
    simp [(h e he).1]
  unfold made?
  split
  · rw [hany]
    rfl
  · rfl

theorem closed?_eq_none {x : Run Answer} (h : Leaves x) : closed? x = none := by
  unfold closed?
  split
  · exact List.findSome?_eq_none_iff.mpr fun e he => (h e he).2
  · rfl

theorem of_no_events {x : Run α} (h : x.events = []) : Leaves x := by
  intro e he
  rw [h] at he
  cases he

theorem emit {e : Event} (hopens : opens e = false) (hcloses : closes? e = none) :
    Leaves (Run.emit e) := by
  intro e' he
  rw [List.mem_singleton.mp he]
  exact ⟨hopens, hcloses⟩

theorem bind {x : Run α} {g : α → Run β} (hx : Leaves x) (hg : ∀ a, Leaves (g a)) :
    Leaves (x >>= g) := by
  obtain ⟨outcome, events⟩ := x
  cases outcome with
  | error e => exact hx
  | ok a =>
    intro e he
    exact (List.mem_append.mp he).elim (hx e) (hg a e)

theorem map {x : Run α} (hx : Leaves x) (f : α → β) : Leaves (f <$> x) := by
  rw [map_eq_pure_bind]
  exact hx.bind fun _ => of_no_events rfl

theorem mapM {g : α → Run β} (hg : ∀ a, Leaves (g a)) : ∀ xs : List α, Leaves (xs.mapM g)
  | [] => of_no_events rfl
  | x :: rest => by
    rw [List.mapM_cons]
    exact (hg x).bind fun _ => (mapM hg rest).bind fun _ => of_no_events rfl

end Leaves

section

variable (r : Remote) (c : Connection)

theorem client_leaves : Leaves c.client := by
  unfold client
  split <;> exact .of_no_events rfl

theorem database_leaves : Leaves c.database :=
  c.client_leaves.bind fun _ => (Leaves.emit rfl rfl).bind fun _ => .of_no_events rfl

theorem container_leaves (name : String) : Leaves (c.container r name) :=
  c.database_leaves.bind fun _ => (Leaves.emit rfl rfl).bind fun _ => .of_no_events rfl

theorem registry_leaves (models : List (String × String)) (usePlural : Bool) :
    Leaves (c.registry r models usePlural) :=
  (Leaves.mapM (fun (_, name) => (container_leaves r c name).bind fun _ => .of_no_events rfl)
    models).bind fun _ => .of_no_events rfl

theorem readDatabase_leaves : Leaves (c.readDatabase r) :=
  c.database_leaves.bind fun _ => (Leaves.emit rfl rfl).bind fun _ => .of_no_events rfl

/-- A check of the health reads the database, and may log what the service reports. -/
theorem healthCheck_leaves : Leaves (c.healthCheck r) := by
  have hread := readDatabase_leaves r c
  unfold healthCheck
  split
  · exact .of_no_events rfl
  · dsimp only
    split
    · exact hread
    · split
      · intro e he
        rcases List.mem_append.mp he with he | he
        · exact hread e he
        · rw [List.mem_singleton.mp he]
          exact ⟨rfl, rfl⟩
      · exact hread

end

theorem made?_of_error (e : Failure) (events : List Event) : made? ⟨.error e, events⟩ = none := rfl

theorem closed?_of_error (e : Failure) (events : List Event) : closed? ⟨.error e, events⟩ = none :=
  rfl

/-- **A call keeps the account** of the clients that were made and closed. -/
theorem Account.after {made closed : List Nat} {c : Connection} (h : Account made closed c)
    (r : Remote) (command : Command) :
    Account (made ++ (made? (c.perform r command).1).toList)
      (closed ++ (closed? (c.perform r command).1).toList) (c.perform r command).2 := by
  have hsame : ∀ x : Run Answer, made? x = none → closed? x = none →
      Account (made ++ (made? x).toList) (closed ++ (closed? x).toList) c := by
    intro x hmade hclosed
    rw [hmade, hclosed]
    simpa using h
  have hleaves : ∀ x : Run Answer, Leaves x →
      Account (made ++ (made? x).toList) (closed ++ (closed? x).toList) c := fun x hx =>
    hsame x hx.made?_eq_none hx.closed?_eq_none
  obtain ⟨hnumbers, hopen⟩ := h
  cases command with
  | client => exact hleaves _ (c.client_leaves.map _)
  | container name => exact hleaves _ ((container_leaves r c name).map _)
  | registry models usePlural => exact hleaves _ ((registry_leaves r c models usePlural).map _)
  | healthCheck => exact hleaves _ ((healthCheck_leaves r c).map _)
  | connect =>
    rcases connect_cases r c with ⟨n, -, hrun⟩ | ⟨e, -, -, hrun⟩ | ⟨hheld, -, hrun⟩
    · simp only [perform, hrun]
      exact hleaves _ (.of_no_events rfl)
    · simp only [perform, hrun, Run.map_error]
      exact hsame _ (made?_of_error _ _) (closed?_of_error _ _)
    · -- nothing was held, so all clients but the new one are closed
      rw [hheld, Option.toList_none, List.append_nil] at hopen
      simp only [perform, hrun, Run.map_ok]
      refine ⟨?_, ?_⟩
      · rw [hnumbers]
        exact List.range_succ.symm
      · rw [hopen]
        exact congrArg (· ++ [c.made]) (List.append_nil closed).symm
  | close =>
    rcases close_cases r c with ⟨-, hrun⟩ | ⟨n, e, -, -, hrun⟩ | ⟨n, hheld, -, hrun⟩
    · simp only [perform, hrun]
      exact hleaves _ (.of_no_events rfl)
    · simp only [perform, hrun, Run.map_error]
      exact hsame _ (made?_of_error _ _) (closed?_of_error _ _)
    · rw [hheld] at hopen
      simp only [perform, hrun, Run.map_ok]
      refine ⟨?_, ?_⟩
      · exact (List.append_nil made).trans hnumbers
      · exact (List.append_nil made).trans (hopen.trans (List.append_nil _).symm)

/-- Calls keep the account, one after the other. -/
theorem runAll_account : ∀ (script : List (Remote × Command)) {made closed : List Nat}
    {c : Connection}, Account made closed c →
      Account (made ++ (c.runAll script).1.filterMap made?)
        (closed ++ (c.runAll script).1.filterMap closed?) (c.runAll script).2
  | [], made, closed, c, h => by simpa [runAll] using h
  | (r, command) :: rest, made, closed, c, h => by
    have hrest := runAll_account rest (h.after r command)
    rw [List.append_assoc, List.append_assoc] at hrest
    have hcons : ∀ (f : Run Answer → Option Nat) (x : Run Answer) (xs : List (Run Answer)),
        (x :: xs).filterMap f = (f x).toList ++ xs.filterMap f := by
      intro f x xs
      rw [List.filterMap_cons]
      cases f x <;> rfl
    rw [runAll, hcons, hcons]
    exact hrest

namespace Account

variable {made closed : List Nat} {c : Connection} {n : Nat}

theorem nodup (h : Account made closed c) : made.Nodup := by
  rw [h.numbers]
  exact List.nodup_range

/-- The client that is held is the one that was made and not closed. -/
theorem held_iff (h : Account made closed c) : c.held = some n ↔ n ∈ made ∧ n ∉ closed := by
  have hnodup := h.nodup
  rw [h.open_is_held, List.nodup_append] at hnodup
  rw [h.open_is_held, List.mem_append, Option.mem_toList]
  constructor
  · intro hheld
    exact ⟨.inr hheld, fun hclosed => hnodup.2.2 n hclosed n (Option.mem_toList.mpr hheld) rfl⟩
  · rintro ⟨hclosed | hheld, hopen⟩
    · exact absurd hclosed hopen
    · exact hheld

theorem length_cases (h : Account made closed c) :
    made.length = closed.length ∨ made.length = closed.length + 1 := by
  rw [h.open_is_held, List.length_append]
  cases c.held with
  | none => exact .inl rfl
  | some n => exact .inr rfl

/-- The next client has a number that none has had. -/
theorem next_not_mem (h : Account made closed c) : c.made ∉ made := by
  rw [h.numbers]
  exact List.not_mem_range_self

end Account

/-! ## How calls act -/

/-- Whether a call takes a client. -/
def Command.NeedsClient : Command → Prop
  | .client | .container _ => True
  | .registry models _ => models ≠ []
  | _ => False

/-- The failure that a connection has no client. -/
def IsConfiguration (e : Failure) : Prop :=
  ∃ message model, e.fault = .refusal (.configuration message model)

/-- How the next call of a connection acts, given the clients that were made before it. -/
structure ActsByHeld (made : List Nat) (c : Connection) (r : Remote) : Prop where
  /-- The client that is held is given again, and nothing is asked of the service. -/
  connect_held : ∀ n, c.held = some n → c.perform r .connect = (pure (.client n), c)
  /-- Where none is held, one is asked for. -/
  connect_opens : c.held = none → (c.perform r .connect).1.events.any opens = true
  /-- The client that is made is a new one, and is given and held. -/
  connect_new : c.held = none → r.onConnect = none → ∃ n, n ∉ made ∧
    (c.perform r .connect).1.outcome = .ok (.client n) ∧ (c.perform r .connect).2.held = some n
  /-- A failure to make a client leaves the connection as it was, with none. -/
  connect_fails : c.held = none → ∀ e, r.onConnect = some e →
    (c.perform r .connect).1.outcome = .error (connectFailure e) ∧
      (c.perform r .connect).2 = c
  /-- Closing asks for the client that is held to be closed, as often as it is tried. -/
  close_held : ∀ n, c.held = some n →
    (c.perform r .close).1.events.findSome? closes? = some n
  close_ends : r.onClose = none →
    (c.perform r .close).1.outcome = .ok .closed ∧ (c.perform r .close).2.held = none
  /-- A close that fails leaves the connection as it was, with its client. -/
  close_fails : ∀ e, (c.perform r .close).1.outcome = .error e →
    c.held ≠ none ∧ (c.perform r .close).2 = c
  /-- What takes a client is refused exactly if none is held. -/
  refused_iff : ∀ command : Command, command.NeedsClient →
    ((∃ e, (c.perform r command).1.outcome = .error e ∧ IsConfiguration e) ↔ c.held = none) ∧
      (c.perform r command).2 = c
  /-- Without a client the health is not good, and nothing is asked of the service. -/
  health_none : c.held = none → c.perform r .healthCheck = (pure (.health false), c)
  health_keeps : (c.perform r .healthCheck).2 = c

theorem refused_iff_none {r : Remote} {c : Connection} {command : Command}
    (h : command.NeedsClient) :
    (∃ e, (c.perform r command).1.outcome = .error e ∧ IsConfiguration e) ↔ c.held = none := by
  cases hheld : c.held with
  | none =>
    refine iff_of_true ⟨⟨.refusal notConnected, none⟩, ?_, _, _, rfl⟩ rfl
    cases command with
    | client => rw [perform, client_of_none hheld]; rfl
    | container name => rw [perform, container_of_none hheld]; rfl
    | registry models usePlural => rw [perform, registry_of_none hheld h]; rfl
    | _ => cases h
  | some n =>
    -- with a client, an answer is given
    have hanswer : ∃ a, (c.perform r command).1.outcome = .ok a := by
      cases command with
      | client => exact ⟨.client n, by rw [perform, client_of_held hheld]; rfl⟩
      | container name =>
        exact ⟨_, Run.outcome_bind (fun a => pure (Answer.container a))
          (container_of_held hheld name)⟩
      | registry models usePlural =>
        obtain ⟨registry, hregistry⟩ := registry_of_held (r := r) hheld models usePlural
        exact ⟨_, Run.outcome_bind (fun a => pure (Answer.registry a)) hregistry⟩
      | _ => cases h
    obtain ⟨a, ha⟩ := hanswer
    refine iff_of_false ?_ nofun
    rintro ⟨e, he, -⟩
    cases ha.symm.trans he

theorem Account.actsByHeld {made closed : List Nat} {c : Connection} (h : Account made closed c)
    (r : Remote) : ActsByHeld made c r where
  connect_held n hheld := by rw [perform, connect_held r hheld]; rfl
  connect_opens hheld := by
    rcases connect_cases r c with ⟨n, hsome, -⟩ | ⟨e, -, -, hrun⟩ | ⟨-, -, hrun⟩
    · cases hheld.symm.trans hsome
    · rw [perform, hrun, Run.map_error]; rfl
    · rw [perform, hrun, Run.map_ok]; rfl
  connect_new hheld hconnect := by
    rcases connect_cases r c with ⟨n, hsome, -⟩ | ⟨e, -, hfails, -⟩ | ⟨-, -, hrun⟩
    · cases hheld.symm.trans hsome
    · cases hconnect.symm.trans hfails
    · rw [perform, hrun]
      exact ⟨c.made, h.next_not_mem, rfl, rfl⟩
  connect_fails hheld e hconnect := by
    rcases connect_cases r c with ⟨n, hsome, -⟩ | ⟨e', -, hfails, hrun⟩ | ⟨-, hnone, -⟩
    · cases hheld.symm.trans hsome
    · cases hconnect.symm.trans hfails
      rw [perform, hrun]
      exact ⟨rfl, rfl⟩
    · cases hconnect.symm.trans hnone
  close_held n hheld := by
    rcases close_cases r c with ⟨hnone, -⟩ | ⟨m, e, hsome, -, hrun⟩ | ⟨m, hsome, -, hrun⟩
    · cases hheld.symm.trans hnone
    · cases hheld.symm.trans hsome
      rw [perform, hrun, Run.map_error]; rfl
    · cases hheld.symm.trans hsome
      rw [perform, hrun, Run.map_ok]; rfl
  close_ends hclose := by
    rcases close_cases r c with ⟨hnone, hrun⟩ | ⟨m, e, -, hfails, -⟩ | ⟨m, -, -, hrun⟩
    · rw [perform, hrun]
      exact ⟨rfl, hnone⟩
    · cases hclose.symm.trans hfails
    · rw [perform, hrun]
      exact ⟨rfl, rfl⟩
  close_fails e he := by
    rcases close_cases r c with ⟨-, hrun⟩ | ⟨m, e', hsome, -, hrun⟩ | ⟨m, -, -, hrun⟩
    · rw [perform, hrun] at he
      cases he
    · rw [perform, hrun]
      exact ⟨by simp [hsome], rfl⟩
    · rw [perform, hrun] at he
      cases he
  refused_iff command hneeds := by
    refine ⟨refused_iff_none hneeds, ?_⟩
    cases command with
    | connect | close => cases hneeds
    | _ => rfl
  health_none hheld := by rw [perform, healthCheck_of_none r hheld]; rfl
  health_keeps := rfl

/-- **A connection holds the client that was made and not closed.**

However its calls come, one after the other, and whatever the service answers: at every point at
most one client more was made than closed without failure, and that client is the one that is held.
So a client is made only where none is held, a failure to make or to close one changes nothing, and
what takes a client is refused exactly where none is held. -/
theorem holds_the_open_client (e : Endpoint) (script : List (Remote × Command)) :
    let runs := (runAll { endpoint := e } script).1
    let c := (runAll { endpoint := e } script).2
    let made := runs.filterMap made?
    let closed := runs.filterMap closed?
    made.Nodup ∧ (made.length = closed.length ∨ made.length = closed.length + 1) ∧
      (∀ n, c.held = some n ↔ n ∈ made ∧ n ∉ closed) ∧ ∀ r, ActsByHeld made c r := by
  intro runs c made closed
  have haccount : Account made closed c := by
    have hall := runAll_account script (account_new e)
    rwa [List.nil_append, List.nil_append] at hall
  exact ⟨haccount.nodup, haccount.length_cases, fun n => haccount.held_iff, haccount.actsByHeld⟩

end Docstore.Connection
