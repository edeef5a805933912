import Docstore.Proofs.Connection.Lifecycle
import Docstore.Store.Scripted
import Mathlib.Logic.Relation

/-!
# Connections under every interleaving

Connecting happens at once, but closing takes time: a close asks for the client that is held to be
closed, and when the service has answered it lets go of whatever client is held by then.  Any number
of calls may come between.  So a client that is being closed is still given to who connects, and a
close that ends late lets go of a client that was never closed.

Neither happens as long as no one connects while a close is under way, or after one has failed; and
whenever someone does, one of the two happens or may happen later.

* `Traffic.Step` — what may happen next among calls that connect and close.
* `Traffic.Account.step` — what holds at every moment if clients are asked for at calm moments only.
* `Traffic.isCalm_iff_connect_is_safe` — calm moments are those at which connecting is safe.
* `Traffic.calls_amid_closes_give_and_lose_clients` — what happens at others.
-/

namespace Docstore.Connection

/-- A connection amid calls that connect and close: the clients whose closes are under way, and all
clients that were asked to close. -/
structure Traffic where
  connection : Connection
  closing : List Nat := []
  asked : List Nat := []

namespace Traffic

variable {s s' : Traffic} {e : Endpoint} {n : Nat}

/-- A connection that has not been used. -/
def initial (e : Endpoint) : Traffic :=
  ⟨{ endpoint := e }, [], []⟩

/-- After a call that connects, which happens at once. -/
def connected (r : Remote) (s : Traffic) : Traffic :=
  { s with connection := (s.connection.connect r).2 }

/-- What a call that connects gives. -/
def given (r : Remote) (s : Traffic) : Except Failure Nat :=
  (s.connection.connect r).1.outcome

/-- What may happen next, where someone connects only at moments that satisfy `may`. -/
inductive Step (may : Traffic → Prop) : Traffic → Traffic → Prop
  /-- Someone connects. -/
  | connect (s : Traffic) (r : Remote) (h : may s) : Step may s (s.connected r)
  /-- Someone closes, and there is no client to be closed. -/
  | closeNothing (s : Traffic) (h : s.connection.beginClose = none) : Step may s s
  /-- A close begins: the client that is held is asked to close. -/
  | closeBegins (s : Traffic) (n : Nat) (h : s.connection.beginClose = some n) :
      Step may s { s with closing := s.closing ++ [n], asked := s.asked ++ [n] }
  /-- A close ends, whichever it is, with a failure or without. -/
  | closeEnds (s : Traffic) (before : List Nat) (n : Nat) (after : List Nat)
      (failure : Option Failure) (h : s.closing = before ++ n :: after) :
      Step may s
        { s with connection := s.connection.endClose failure, closing := before ++ after }

/-- What may come of a moment, where someone connects only at moments that satisfy `may`. -/
def Leads (may : Traffic → Prop) : Traffic → Traffic → Prop :=
  Relation.ReflTransGen (Step may)

/-- Every client that was made is held or was asked to close. -/
def NoneIsLost (s : Traffic) : Prop :=
  ∀ n < s.connection.made, s.connection.held = some n ∨ n ∈ s.asked

/-- No close is under way, and the client that is held, if there is one, was not asked to close. -/
structure IsCalm (s : Traffic) : Prop where
  closing : s.closing = []
  fresh : ∀ n, s.connection.held = some n → n ∉ s.asked

/-- Whoever connects is given a client that was not asked to close, and from then on none is lost,
as long as others connect at calm moments. -/
def IsSafe (s : Traffic) : Prop :=
  ∀ r, (∀ n, s.given r = .ok n → n ∉ s.asked) ∧
    ∀ s', Leads IsCalm (s.connected r) s' → s'.NoneIsLost

/-! ## What holds if clients are asked for at calm moments -/

/-- The account of the clients of a connection. -/
structure Account (s : Traffic) : Prop where
  none_is_lost : s.NoneIsLost
  held_made : ∀ n, s.connection.held = some n → n < s.connection.made
  asked_made : ∀ n ∈ s.asked, n < s.connection.made
  closing_asked : ∀ n ∈ s.closing, n ∈ s.asked
  /-- While a client is held, only that client is being closed. -/
  closing_held : ∀ n, s.connection.held = some n → ∀ m ∈ s.closing, m = n

theorem account_initial (e : Endpoint) : Account (initial e) where
  none_is_lost n hn := absurd hn (Nat.not_lt_zero n)
  held_made n hn := by cases hn
  asked_made n hn := by cases hn
  closing_asked n hn := by cases hn
  closing_held n hn := by cases hn

/-- Connecting at a calm moment keeps the account. -/
theorem Account.connected (h : Account s) (hcalm : s.IsCalm) (r : Remote) :
    Account (s.connected r) := by
  rcases connect_cases r s.connection with ⟨n, -, hrun⟩ | ⟨f, -, -, hrun⟩ | ⟨hheld, -, hrun⟩
  · rw [Traffic.connected, hrun]
    exact h
  · rw [Traffic.connected, hrun]
    exact h
  · -- a new client is held, and those before it were asked to close, since none was held
    rw [Traffic.connected, hrun]
    refine ⟨?_, ?_, ?_, h.closing_asked, ?_⟩
    · intro n hn
      rcases Nat.lt_succ_iff_lt_or_eq.mp hn with hn | rfl
      · rcases h.none_is_lost n hn with hsome | hasked
        · cases hheld.symm.trans hsome
        · exact .inr hasked
      · exact .inl rfl
    · rintro n hn
      cases hn
      exact Nat.lt_succ_self _
    · exact fun n hn => Nat.lt_succ_of_lt (h.asked_made n hn)
    · intro n _ m hm
      rw [hcalm.closing] at hm
      cases hm

/-- A close that begins keeps the account. -/
theorem Account.closeBegins (h : Account s) (hheld : s.connection.held = some n) :
    Account { s with closing := s.closing ++ [n], asked := s.asked ++ [n] } where
  none_is_lost m hm := (h.none_is_lost m hm).imp_right (List.mem_append_left [n])
  held_made := h.held_made
  asked_made m hm := by
    rcases List.mem_append.mp hm with hm | hm
    · exact h.asked_made m hm
    · rw [List.mem_singleton.mp hm]
      exact h.held_made n hheld
  closing_asked m hm := by
    rcases List.mem_append.mp hm with hm | hm
    · exact List.mem_append_left [n] (h.closing_asked m hm)
    · exact List.mem_append_right s.asked hm
  closing_held k hk m hm := by
    cases hheld.symm.trans hk
    rcases List.mem_append.mp hm with hm | hm
    · exact h.closing_held n hheld m hm
    · exact List.mem_singleton.mp hm

/-- A close that ends keeps the account: what is let go of is the client that was closed. -/
theorem Account.closeEnds (h : Account s) {before after : List Nat} (failure : Option Failure)
    (hclosing : s.closing = before ++ n :: after) :
    Account { s with
      connection := s.connection.endClose failure, closing := before ++ after } := by
  have hmem : n ∈ s.closing := by
    rw [hclosing]
    exact List.mem_append_right before List.mem_cons_self
  have hstill : ∀ m ∈ before ++ after, m ∈ s.closing := by
    intro m hm
    rw [hclosing]
    exact (List.mem_append.mp hm).elim (List.mem_append_left _)
      fun hm => List.mem_append_right before (List.mem_cons_of_mem n hm)
  cases failure with
  | some f =>
    exact ⟨h.none_is_lost, h.held_made, h.asked_made, fun m hm => h.closing_asked m (hstill m hm),
      fun k hk m hm => h.closing_held k hk m (hstill m hm)⟩
  | none =>
    refine ⟨?_, nofun, h.asked_made, fun m hm => h.closing_asked m (hstill m hm), nofun⟩
    intro m hm
    rcases h.none_is_lost m hm with hheld | hasked
    · rw [← h.closing_held m hheld n hmem]
      exact .inr (h.closing_asked n hmem)
    · exact .inr hasked

/-- **Every step keeps the account**, where someone connects at calm moments only. -/
theorem Account.step (h : Account s) (hstep : Step IsCalm s s') : Account s' := by
  cases hstep with
  | connect r hcalm => exact h.connected hcalm r
  | closeNothing hnone => exact h
  | closeBegins n hheld => exact h.closeBegins hheld
  | closeEnds before n after failure hclosing => exact h.closeEnds failure hclosing

theorem Leads.account (h : Account s) (hleads : Leads IsCalm s s') : Account s' := by
  induction hleads with
  | refl => exact h
  | tail _ hstep ih => exact ih.step hstep

/-! ## Calm moments -/

theorem IsCalm.isSafe (hcalm : s.IsCalm) (h : Account s) : s.IsSafe := by
  intro r
  refine ⟨fun n hn => ?_, fun s' hleads => (Leads.account (h.connected hcalm r) hleads).none_is_lost⟩
  rw [given] at hn
  rcases connect_cases r s.connection with ⟨m, hheld, hrun⟩ | ⟨f, -, -, hrun⟩ | ⟨-, -, hrun⟩
  · rw [hrun] at hn
    cases hn
    exact hcalm.fresh _ hheld
  · rw [hrun] at hn
    cases hn
  · rw [hrun] at hn
    cases hn
    exact fun hasked => Nat.lt_irrefl _ (h.asked_made _ hasked)

/-- A service that answers every call. -/
def willing : Remote :=
  ⟨none, none, none, Script.toService {}⟩

theorem given_of_held (r : Remote) (h : s.connection.held = some n) : s.given r = .ok n := by
  rw [given, connect_held r h]
  rfl

/-- Where no client is held, who connects is given a new one. -/
theorem connected_of_none (h : s.connection.held = none) :
    s.connected willing = { s with connection := s.connection.holding } := by
  rcases connect_cases willing s.connection with ⟨n, hheld, -⟩ | ⟨f, -, hfails, -⟩ | ⟨-, -, hrun⟩
  · cases h.symm.trans hheld
  · cases hfails
  · rw [connected, hrun]

/-- At other moments, connecting gives a client that is being closed or was to be, or one that is
lost when a close ends. -/
theorem IsSafe.isCalm (hsafe : s.IsSafe) (h : Account s) : s.IsCalm := by
  have hfresh : ∀ n, s.connection.held = some n → n ∉ s.asked := fun n hheld =>
    (hsafe willing).1 n (given_of_held willing hheld)
  refine ⟨?_, hfresh⟩
  cases hclosing : s.closing with
  | nil => rfl
  | cons n rest =>
    have hmem : n ∈ s.closing := by rw [hclosing]; exact List.mem_cons_self
    have hasked := h.closing_asked n hmem
    cases hheld : s.connection.held with
    | some m =>
      rw [h.closing_held m hheld n hmem] at hasked
      exact absurd hasked (hfresh m hheld)
    | none =>
      -- the close that is under way ends, and lets go of the client that was just made
      have hend : Step IsCalm (s.connected willing) { s with
          connection := s.connection.holding.endClose none, closing := [] ++ rest } := by
        rw [connected_of_none hheld]
        exact .closeEnds { s with connection := s.connection.holding } [] n rest none hclosing
      rcases (hsafe willing).2 _ (.single hend) s.connection.made (Nat.lt_succ_self _) with
        hsome | hlate
      · cases hsome
      · exact absurd (h.asked_made _ hlate) (Nat.lt_irrefl _)

/-- **Calm moments are those at which connecting is safe.**

Suppose that so far everyone has connected at calm moments only, whatever else was interleaved.  Then
no client is lost.  Whoever connects now, at a calm moment, is given a client that was not asked to
close, and still none is lost later.  At any other moment connecting is not safe: it may give a client
that was asked to close, or one that is lost when a close ends that is under way. -/
theorem isCalm_iff_connect_is_safe (h : Leads IsCalm (initial e) s) :
    s.NoneIsLost ∧ (s.IsCalm ↔ s.IsSafe) := by
  have haccount : Account s := Leads.account (account_initial e) h
  exact ⟨haccount.none_is_lost, fun hcalm => hcalm.isSafe haccount, fun hsafe =>
    hsafe.isCalm haccount⟩

/-- A connection that has connected is safe to connect, and is not any more when a close has
begun. -/
theorem connect_is_unsafe_amid_close :
    let e : Endpoint := ⟨"https://localhost:8081", .str "key", .dict [], "auth", .int 25⟩
    let s : Traffic := (initial e).connected willing
    let s' : Traffic := { s with closing := [0], asked := [0] }
    Leads IsCalm (initial e) s' ∧ s.IsSafe ∧ s'.NoneIsLost ∧ ¬ s'.IsSafe := by
  intro e s s'
  have hfirst : Leads IsCalm (initial e) s := .single (.connect _ willing ⟨rfl, nofun⟩)
  have hthen : Leads IsCalm (initial e) s' := hfirst.tail (.closeBegins s 0 rfl)
  have hcalm : s.IsCalm := ⟨rfl, fun _ _ => List.not_mem_nil⟩
  obtain ⟨hnone, hiff⟩ := isCalm_iff_connect_is_safe hthen
  refine ⟨hthen, (isCalm_iff_connect_is_safe hfirst).2.mp hcalm, hnone, fun hsafe => ?_⟩
  cases (hiff.mpr hsafe).closing

/-- **Clients are given and lost at other moments.**  A client that is being closed is given to who
connects; so is one whose close has failed; and when two closes of one client overlap and someone
connects between their ends, the second end lets go of a client that no one asked to close. -/
theorem calls_amid_closes_give_and_lose_clients :
    let e : Endpoint := ⟨"https://localhost:8081", .str "key", .dict [], "auth", .int 25⟩
    (∃ s, Leads (fun _ => True) (initial e) s ∧ s.closing = [0] ∧ s.given willing = .ok 0 ∧
      0 ∈ s.asked) ∧
    (∃ s, Leads (fun _ => True) (initial e) s ∧ s.closing = [] ∧ s.given willing = .ok 0 ∧
      0 ∈ s.asked) ∧
    ∃ s, Leads (fun _ => True) (initial e) s ∧ s.connection.made = 2 ∧
      s.connection.held = none ∧ s.asked = [0, 0] ∧ ¬ s.NoneIsLost := by
  intro e
  let failure : Failure := ⟨.service (.general none (some "x")), none⟩
  let first : Connection := { endpoint := e, held := some 0, made := 1 }
  have hfirst : Leads (fun _ => True) (initial e) ⟨first, [], []⟩ :=
    .single (.connect _ willing trivial)
  have hbegun : Leads (fun _ => True) (initial e) ⟨first, [0], [0]⟩ :=
    hfirst.tail (.closeBegins ⟨first, [], []⟩ 0 rfl)
  have hfailed : Leads (fun _ => True) (initial e) ⟨first, [], [0]⟩ :=
    hbegun.tail (.closeEnds ⟨first, [0], [0]⟩ [] 0 [] (some failure) rfl)
  have htwice : Leads (fun _ => True) (initial e) ⟨first, [0, 0], [0, 0]⟩ :=
    hbegun.tail (.closeBegins ⟨first, [0], [0]⟩ 0 rfl)
  have hended : Leads (fun _ => True) (initial e) ⟨first.released, [0], [0, 0]⟩ :=
    htwice.tail (.closeEnds ⟨first, [0, 0], [0, 0]⟩ [] 0 [0] none rfl)
  have hagain : Leads (fun _ => True) (initial e) ⟨first.released.holding, [0], [0, 0]⟩ :=
    hended.tail (.connect ⟨first.released, [0], [0, 0]⟩ willing trivial)
  have hlost : Leads (fun _ => True) (initial e)
      ⟨first.released.holding.released, [], [0, 0]⟩ :=
    hagain.tail (.closeEnds ⟨first.released.holding, [0], [0, 0]⟩ [] 0 [] none rfl)
  refine ⟨⟨_, hbegun, rfl, rfl, List.mem_singleton_self 0⟩,
    ⟨_, hfailed, rfl, rfl, List.mem_singleton_self 0⟩, ⟨_, hlost, rfl, rfl, rfl, fun hnone => ?_⟩⟩
  have hsecond := hnone 1 (Nat.lt_succ_self 1)
  revert hsecond
  decide

end Traffic

end Docstore.Connection
