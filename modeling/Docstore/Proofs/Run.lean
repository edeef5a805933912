import Docstore.Proofs.Fault.Kinds
import Docstore.Store.Boundary

/-!
# Runs in sequence

Runs form a lawful monad, so they may be grouped as a proof wants them.  A run is local if it
reaches no store: all that it leaves are log records.

* `Run.bind_pure` — what a run comes to when its result is mapped.
* `Run.guarded_bind` — the boundary of a sequence is the boundary of each of its steps.
* `Run.IsLocal.bind` — local runs in sequence are local.
-/

namespace Docstore.Run

variable {α β : Type}

/-- A run without its result. -/
def forget (x : Run α) : Run Unit :=
  ⟨x.outcome.map fun _ => (), x.events⟩

/-- What a run comes to, with its result mapped. -/
theorem bind_pure (x : Run α) (g : α → β) :
    (x >>= fun a => pure (g a)) = ⟨x.outcome.map g, x.events⟩ := by
  obtain ⟨outcome, events⟩ := x
  cases outcome with
  | error e => rfl
  | ok a =>
    rw [bind_ok]
    exact congrArg (Run.mk _) (List.append_nil events)

theorem map_ok (g : α → β) (a : α) (events : List Event) :
    g <$> (⟨.ok a, events⟩ : Run α) = ⟨.ok (g a), events⟩ :=
  bind_pure ⟨.ok a, events⟩ g

theorem map_error (g : α → β) (e : Failure) (events : List Event) :
    g <$> (⟨.error e, events⟩ : Run α) = ⟨.error e, events⟩ := rfl

/-- What a run comes to when its first step succeeds. -/
theorem outcome_bind {x : Run α} {a : α} (g : α → Run β) (h : x.outcome = .ok a) :
    (x >>= g).outcome = (g a).outcome := by
  obtain ⟨outcome, events⟩ := x
  dsimp only at h
  rw [h, bind_ok]

theorem andThen_assoc {γ : Type} (x : Run α) (f : α → Run β) (g : β → Run γ) :
    (x >>= f) >>= g = x >>= fun a => f a >>= g := by
  obtain ⟨outcome, events⟩ := x
  cases outcome with
  | error e => rfl
  | ok a =>
    rw [bind_ok, bind_ok]
    obtain ⟨outcome, later⟩ := f a
    cases outcome with
    | error e => rfl
    | ok b => simp only [bind_ok, List.append_assoc]

instance : LawfulMonad Run :=
  .mk' Run
    (fun x => by
      obtain ⟨outcome, events⟩ := x
      refine (bind_pure _ id).trans ?_
      cases outcome <;> rfl)
    (fun _ _ => rfl)
    andThen_assoc

/-- Runs in sequence succeed if each of them does. -/
theorem exists_outcome_bind {x : Run α} {g : α → Run β} (hx : ∃ a, x.outcome = .ok a)
    (hg : ∀ a, ∃ b, (g a).outcome = .ok b) : ∃ b, (x >>= g).outcome = .ok b := by
  obtain ⟨a, ha⟩ := hx
  rw [outcome_bind g ha]
  exact hg a

theorem exists_outcome_mapM {f : α → Run β} (h : ∀ x, ∃ y, (f x).outcome = .ok y) (xs : List α) :
    ∃ ys, (xs.mapM f).outcome = .ok ys := by
  induction xs with
  | nil => exact ⟨[], rfl⟩
  | cons x rest ih =>
    rw [List.mapM_cons]
    exact exists_outcome_bind (h x) fun y => exists_outcome_bind ih fun ys => ⟨y :: ys, rfl⟩

theorem guarded_bind (action : Action) (x : Run α) (g : α → Run β) :
    (x >>= g).guarded action = x.guarded action >>= fun a => (g a).guarded action := by
  obtain ⟨outcome, events⟩ := x
  cases outcome <;> rfl

/-- A run that reaches no store: it leaves log records only, and its failures are of one kind. -/
structure IsLocal (P : Failure → Prop) (x : Run α) : Prop where
  logs : ∀ e ∈ x.events, ∃ entry, e = .log entry
  fails : FailsWith P x.outcome

section

variable {P : Failure → Prop}

/-- A computation without events. -/
theorem isLocal_of_outcome {x : Except Failure α} (h : FailsWith P x) :
    (⟨x, []⟩ : Run α).IsLocal P :=
  ⟨fun _ he => absurd he List.not_mem_nil, h⟩

theorem isLocal_of {x : Except Fault α} (h : FailsWith (fun e => P ⟨e, none⟩) x) :
    (of x).IsLocal P := by
  refine isLocal_of_outcome ?_
  cases x with
  | error e => exact h
  | ok a => trivial

theorem isLocal_log (level : Level) (logger message : String) :
    (log level logger message).IsLocal P :=
  ⟨fun _ he => ⟨_, List.mem_singleton.mp he⟩, trivial⟩

theorem isLocal_pure (a : α) : (pure a : Run α).IsLocal P :=
  isLocal_of_outcome trivial

theorem IsLocal.bind {x : Run α} {g : α → Run β} (hx : x.IsLocal P)
    (hg : ∀ a, x.outcome = .ok a → (g a).IsLocal P) : (x >>= g).IsLocal P := by
  obtain ⟨outcome, events⟩ := x
  cases outcome with
  | error e => exact ⟨hx.logs, hx.fails⟩
  | ok a =>
    refine ⟨fun e he => ?_, (hg a rfl).fails⟩
    exact (List.mem_append.mp he).elim (hx.logs e) ((hg a rfl).logs e)

end

end Docstore.Run
