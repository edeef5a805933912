import Docstore.Bulk.Plan
import Docstore.Proofs.Outcome

/-!
# What a plan contains and when there is none

A plan is made for all documents or for none.  A deletion is planned for every document, unless the
keys of one cannot be taken; a replacement is planned for a document that the mutation changes,
unless a comparison is refused or the keys of a changed document cannot be taken.

* `Planner.deletions_spec`, `Planner.replacements_spec` — the operations of a plan.
* `Planner.deletions_eq_error_iff`, `Planner.replacements_eq_error_iff` — when there is no plan.
-/

namespace Docstore.Planner

variable {p : Planner} {documents : List Value} {operations : List Operation} {mutation d : Value}

/-- The keys of a document cannot be taken. -/
def Unkeyed (p : Planner) (document : Value) : Prop :=
  (∃ e, p.documentKeyOf document = .error e) ∨ ∃ e, p.partitionKeyOf document = .error e

theorem not_unkeyed {key partition : Value} (hkey : p.documentKeyOf d = .ok key)
    (hpartition : p.partitionKeyOf d = .ok partition) : ¬p.Unkeyed d := by
  simp [Unkeyed, hkey, hpartition]

/-- A document that lacks the identifying field has no identifier. -/
theorem documentKeyOf_missing {fields : List (Value × Value)}
    (h : Value.lookup p.idField fields = none) :
    ∃ e, p.documentKeyOf (.dict fields) = .error e := by
  unfold documentKeyOf Value.part
  dsimp only
  split
  · exact ⟨_, rfl⟩
  · rw [h]
    exact ⟨_, rfl⟩

theorem deletion_kind {o : Operation} (h : p.deletion d = .ok o) : o.kind = .delete := by
  unfold deletion at h
  obtain ⟨key, -, h⟩ := bind_eq_ok.mp h
  obtain ⟨partition, -, h⟩ := bind_eq_ok.mp h
  cases h
  rfl

theorem deletion_eq_error_iff : (∃ e, p.deletion d = .error e) ↔ p.Unkeyed d := by
  unfold deletion Unkeyed
  cases p.documentKeyOf d with
  | error e => simp [bind, Except.bind]
  | ok key => cases p.partitionKeyOf d <;> simp [bind, Except.bind, pure, Except.pure]

/-- A deletion is planned for every document, unless the keys of one cannot be taken. -/
theorem deletions_spec (h : p.deletions documents = .ok operations) :
    operations.length = documents.length ∧ ∀ o ∈ operations, o.kind = .delete := by
  have hplans := mapM_eq_ok.mp h
  refine ⟨hplans.length_eq.symm, fun o ho => ?_⟩
  obtain ⟨i, hi, rfl⟩ := List.getElem_of_mem ho
  exact deletion_kind (hplans.get (hplans.length_eq ▸ hi) hi)

theorem deletions_eq_error_iff :
    (∃ e, p.deletions documents = .error e) ↔ ∃ d ∈ documents, p.Unkeyed d := by
  simp only [← deletion_eq_error_iff]
  exact mapM_eq_error_iff

/-- An operation replaces a document by one of the given fields, under the keys of the latter. -/
structure Writes (p : Planner) (fields : List (Value × Value)) (o : Operation) : Prop where
  kind : o.kind = .replace
  payload : o.payload = some (.dict fields)
  key : p.documentKeyOf (.dict fields) = .ok o.documentKey
  partition : p.partitionKeyOf (.dict fields) = .ok o.partitionKey

/-- What is planned for a document: nothing if the mutation does not change it, and else that the
changed document is written. -/
theorem replacement_eq_ok {planned : Option Operation}
    (h : p.replacement mutation d = .ok planned) :
    (∃ fields, Mutation.apply d mutation = .ok (fields, false) ∧ planned = none) ∨
      ∃ fields o, Mutation.apply d mutation = .ok (fields, true) ∧ planned = some o ∧
        p.Writes fields o := by
  unfold replacement at h
  obtain ⟨⟨fields, changed⟩, happly, h⟩ := bind_eq_ok.mp h
  cases changed with
  | false =>
    cases h
    exact .inl ⟨fields, happly, rfl⟩
  | true =>
    obtain ⟨key, hkey, h⟩ := bind_eq_ok.mp h
    obtain ⟨partition, hpartition, h⟩ := bind_eq_ok.mp h
    cases h
    exact .inr ⟨fields, _, happly, rfl, rfl, rfl, hkey, hpartition⟩

theorem replacement_of_unchanged {fields : List (Value × Value)}
    (h : Mutation.apply d mutation = .ok (fields, false)) :
    p.replacement mutation d = .ok none := by
  rw [replacement, h]
  rfl

/-- A replacement is not planned if the mutation cannot be applied, or changes the document to one
whose keys cannot be taken. -/
theorem replacement_eq_error_iff : (∃ e, p.replacement mutation d = .error e) ↔
    (∃ e, Mutation.apply d mutation = .error e) ∨
      ∃ fields, Mutation.apply d mutation = .ok (fields, true) ∧ p.Unkeyed (.dict fields) := by
  unfold replacement Unkeyed
  cases Mutation.apply d mutation with
  | error e => simp [bind, Except.bind]
  | ok result =>
    obtain ⟨fields, changed⟩ := result
    cases changed with
    | false => simp [bind, Except.bind, pure, Except.pure]
    | true =>
      cases hkey : p.documentKeyOf (.dict fields) with
      | error e => simp [bind, Except.bind, hkey]
      | ok key =>
        cases hpartition : p.partitionKeyOf (.dict fields) <;>
          simp [bind, Except.bind, pure, Except.pure, hkey, hpartition]

/-- The replacements of documents: there are some exactly if the mutation changes a document. -/
theorem replacements_spec (h : p.replacements mutation documents = .ok operations) :
    (∀ o ∈ operations, o.kind = .replace) ∧
      (operations ≠ [] ↔
        ∃ d ∈ documents, ∃ fields, Mutation.apply d mutation = .ok (fields, true)) := by
  unfold replacements at h
  obtain ⟨planned, hplanned, h⟩ := bind_eq_ok.mp h
  cases h
  have hplans := mapM_eq_ok.mp hplanned
  clear hplanned h
  induction hplans with
  | nil => simp
  | @cons d planned rest others hd hrest ih =>
    rcases replacement_eq_ok hd with ⟨fields, happly, rfl⟩ | ⟨fields, o, happly, rfl, hwrites⟩
    · simpa [happly] using ih
    · refine ⟨?_, by simp [happly]⟩
      intro o' ho'
      rcases List.mem_cons.mp ho' with rfl | ho'
      · exact hwrites.kind
      · exact ih.1 o' ho'

theorem replacements_eq_error_iff : (∃ e, p.replacements mutation documents = .error e) ↔
    ∃ d ∈ documents, (∃ e, Mutation.apply d mutation = .error e) ∨
      ∃ fields, Mutation.apply d mutation = .ok (fields, true) ∧ p.Unkeyed (.dict fields) := by
  simp only [← replacement_eq_error_iff, ← mapM_eq_error_iff]
  unfold replacements
  cases documents.mapM (p.replacement mutation) <;>
    simp [bind, Except.bind, pure, Except.pure]

/-- Nothing is planned for documents that the mutation does not change. -/
theorem replacements_of_unchanged
    (h : ∀ d ∈ documents, ∃ fields, Mutation.apply d mutation = .ok (fields, false)) :
    p.replacements mutation documents = .ok [] := by
  induction documents with
  | nil => rfl
  | cons d rest ih =>
    obtain ⟨fields, hd⟩ := h d List.mem_cons_self
    obtain ⟨planned, hrest, hnone⟩ := map_eq_ok.mp (ih fun d hd => h d (List.mem_cons_of_mem _ hd))
    rw [replacements, List.mapM_cons, replacement_of_unchanged hd, hrest]
    exact congrArg Except.ok hnone

/-- Planning replacements applies the mutation to each document; an empty mutation is no
exception. -/
theorem plan_replace (p : Planner) (documents : List Value) (changes : List (Value × Value)) :
    p.plan .replace documents (.dict changes) = p.replacements (.dict changes) documents := by
  cases changes <;> rfl

end Docstore.Planner
