import Docstore.Proofs.Bulk.Identity

/-!
# The names and values that data are given

A call renames the fields of the data that it is given and stores their values.  Where several fields
have one name in the store, the last of them stands.

* `Facade.given` — the value that data give to a name of the store.
* `Facade.exists_resolveData_iff` — data are resolved exactly if the resolver names their fields and
  their values have store forms.
* `Facade.lookup_resolveData` — resolved data hold the store form of what is given, and nothing else.
-/

namespace Docstore.Facade

open Value (lookup IsRecord)

variable {f : Facade} {model key : Value} {s : String} {data resolved entries : List (Value × Value)}

/-- The name under which the store knows a key, where the resolver gives it and it is a text. -/
def nameOf? (f : Facade) (model key : Value) : Option String :=
  (f.physicalKey model key).toOption.bind Value.text?

theorem nameOf?_of_physicalKey {name : Value} (h : f.physicalKey model key = .ok name) :
    f.nameOf? model key = name.text? := by
  rw [nameOf?, h]
  rfl

/-- The value that data give to a name of the store: that of the last field with this name. -/
def given (f : Facade) (model : Value) (s : String) : (data : List (Value × Value)) → Option Value
  | [] => none
  | (k, v) :: rest =>
    (given f model s rest).or (if f.nameOf? model k = some s then some v else none)

/-- An entry of data can be resolved: the resolver gives the name of its field, and its value has a
store form. -/
def IsResolvable (f : Facade) (model : Value) (e : Value × Value) : Prop :=
  (∃ name, f.physicalKey model e.1 = .ok name) ∧ ∃ w, e.2.store = .ok w

/-- Fields are resolved exactly if each of them can be. -/
theorem exists_resolveEntries_iff : ∀ {data : List (Value × Value)} (resolved : List (Value × Value)),
    (∃ entries, f.resolveEntries model resolved data = .ok entries) ↔
      ∀ e ∈ data, f.IsResolvable model e
  | [], resolved => iff_of_true ⟨resolved, rfl⟩ (by simp)
  | (k, v) :: rest, resolved => by
    rw [List.forall_mem_cons]
    constructor
    · rintro ⟨entries, h⟩
      obtain ⟨name, hname, h⟩ := bind_eq_ok.mp h
      obtain ⟨w, hw, h⟩ := bind_eq_ok.mp h
      exact ⟨⟨⟨name, hname⟩, w, hw⟩, (exists_resolveEntries_iff _).mp ⟨entries, h⟩⟩
    · rintro ⟨⟨⟨name, hname⟩, w, hw⟩, hrest⟩
      obtain ⟨entries, h⟩ := (exists_resolveEntries_iff (Value.insert name w resolved)).mpr hrest
      exact ⟨entries, bind_eq_ok.mpr ⟨name, hname, bind_eq_ok.mpr ⟨w, hw, h⟩⟩⟩

/-- **Data are resolved** exactly if each of their entries can be. -/
theorem exists_resolveData_iff : (∃ entries, f.resolveData model (.dict data) = .ok (.dict entries)) ↔
    ∀ e ∈ data, f.IsResolvable model e := by
  have hresult : ∀ body, f.resolveData model (.dict data) = .ok body ↔
      ∃ entries, f.resolveEntries model [] data = .ok entries ∧ .dict entries = body := by
    intro body
    have hentries : f.resolveData model (.dict data) =
        (f.resolveEntries model [] data).map Value.dict := by
      unfold resolveData
      cases hresolved : f.resolveEntries model [] data <;>
        simp [Value.entries, hresolved, bind, Except.bind, pure, Except.pure, Except.map]
    rw [hentries, map_eq_ok]
  rw [← exists_resolveEntries_iff []]
  simp only [hresult, Value.dict.injEq, exists_eq_right]

/-- What is found under a name once fields are resolved: the store form of what they give to it, or
what was there before. -/
theorem lookup_resolveEntries (hk : key.text? = some s) :
    ∀ {data resolved entries : List (Value × Value)}, (∀ e ∈ data, ∃ t, e.1.text? = some t) →
      f.resolveEntries model resolved data = .ok entries →
      lookup key entries = match f.given model s data with
        | some v => v.store.toOption
        | none => lookup key resolved
  | [], resolved, entries, _, h => by
    cases h
    rfl
  | (k, v) :: rest, resolved, entries, htexts, h => by
    obtain ⟨name, hname, h⟩ := bind_eq_ok.mp h
    obtain ⟨w, hw, h⟩ := bind_eq_ok.mp h
    obtain ⟨u, hu⟩ := htexts (k, v) List.mem_cons_self
    obtain ⟨t, ht⟩ := exists_text_of_physicalKey hu hname
    have hrest := lookup_resolveEntries hk (fun e he => htexts e (List.mem_cons_of_mem _ he)) h
    rw [hrest, given, Value.lookup_insert hk ht, nameOf?_of_physicalKey hname, ht]
    cases f.given model s rest with
    | some _ => rfl
    | none =>
      by_cases hst : s = t
      · subst hst
        simp [hw, Except.toOption]
      · have hne : t ≠ s := Ne.symm hst
        simp [hst, hne]

/-- **Resolved data** hold the store form of what is given to a name, and nothing else. -/
theorem lookup_resolveData (hk : key.text? = some s) (htexts : ∀ e ∈ data, ∃ t, e.1.text? = some t)
    (h : f.resolveData model (.dict data) = .ok (.dict entries)) :
    lookup key entries = (f.given model s data).bind fun v => v.store.toOption := by
  unfold resolveData at h
  obtain ⟨fields, hfields, h⟩ := bind_eq_ok.mp h
  obtain ⟨found, hfound, hdict⟩ := bind_eq_ok.mp h
  cases hfields
  cases hdict
  rw [lookup_resolveEntries hk htexts hfound]
  cases f.given model s data <;> rfl

/-- A name that no field has is given nothing. -/
theorem given_eq_none_iff :
    f.given model s data = none ↔ ∀ e ∈ data, f.nameOf? model e.1 ≠ some s := by
  induction data with
  | nil => simp [given]
  | cons e rest ih =>
    obtain ⟨k, v⟩ := e
    rw [given, Option.or_eq_none_iff, ih, List.forall_mem_cons, and_comm]
    by_cases h : f.nameOf? model k = some s <;> simp [h]

end Docstore.Facade
