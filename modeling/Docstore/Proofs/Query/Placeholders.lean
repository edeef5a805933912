import Docstore.Proofs.Query.Numbering

/-!
# Placeholders and the literals behind them

A placeholder stands for every value that was bound to it, before and after.  The literals of a
binder have different keys, so two values share a placeholder exactly if they have the same canonical
key; and the parameter that is found under the name of a placeholder holds a value with this key.

* `bind_standsFor` — the placeholder that a value gets stands for it.
* `StandsFor.eq_iff` — two values share a placeholder exactly if they have the same canonical key.
* `StandsFor.find?_parameters` — what is found under a placeholder has the canonical key of every
  value that it stands for.
-/

namespace Docstore.Binder

variable {b b' : Binder} {v w : Value} {p q : String}

/-- Whether a placeholder stands for the literal of a value. -/
def StandsFor (b : Binder) (v : Value) (p : String) : Prop :=
  ∃ number l, p = placeholder number ∧ b.bound[number]? = some l ∧ v.canonicalKey = .ok l.key

/-- A placeholder keeps standing for a value while more is bound. -/
theorem StandsFor.mono (h : b.StandsFor v p) (hext : b.bound <+: b'.bound) : b'.StandsFor v p := by
  obtain ⟨number, l, hp, hl, hkey⟩ := h
  exact ⟨number, l, hp, getElem?_of_bound hext hl, hkey⟩

/-- The placeholder that a value gets stands for it. -/
theorem bind_standsFor (h : b.bind v = .ok (p, b')) : b'.StandsFor v p := by
  obtain ⟨l, hl, hallot⟩ := map_eq_ok.mp h
  have hkey := (literal_eq_ok.mp hl).1
  unfold allot at hallot
  split at hallot
  · rename_i number hfound
    cases hallot
    obtain ⟨hlt, hbound, -⟩ := List.findIdx?_eq_some_iff_getElem.mp hfound
    refine ⟨number, b.bound[number], rfl, List.getElem?_eq_getElem hlt, ?_⟩
    rw [hkey, beq_iff_eq.mp hbound]
  · cases hallot
    exact ⟨b.bound.length, l, rfl, List.getElem?_concat_length, hkey⟩

theorem bindAll_standsFor : ∀ {vs : List Value} {b b' : Binder} {ps : List String},
    b.bindAll vs = .ok (ps, b') → List.Forall₂ b'.StandsFor vs ps
  | [], _, _, _, h => by
    cases h
    exact .nil
  | v :: rest, b, b', ps, h => by
    obtain ⟨p, b₁, others, hbind, hothers, rfl⟩ := bindAll_cons_eq_ok.mp h
    have hext : b₁.bound <+: b'.bound :=
      bindAll_keeps (P := fun c => b₁.bound <+: c.bound)
        (fun hb hstep => hb.trans (Binder.bind_prefix hstep)) (List.prefix_refl _) hothers
    exact .cons ((bind_standsFor hbind).mono hext) (bindAll_standsFor hothers)

/-- Binders with the same parameters mean values with the same key by a placeholder. -/
theorem StandsFor.canonicalKey_eq {c : Binder} (hb : b.IsDistinct) (hc : c.IsDistinct)
    (hparameters : b.parameters = c.parameters) (hv : b.StandsFor v p) (hw : c.StandsFor w p) :
    v.canonicalKey = w.canonicalKey := by
  obtain ⟨number, l, rfl, hl, hvkey⟩ := hv
  obtain ⟨number', k, hp, hk, hwkey⟩ := hw
  obtain rfl := placeholder_injective hp
  have hvalues := congrArg (List.map (·.value)) hparameters
  rw [parameters_values, parameters_values] at hvalues
  have hvalue := congrArg (·[number]?) hvalues
  simp only [List.getElem?_map, hl, hk, Option.map_some, Option.some.injEq] at hvalue
  have hkeys := hb.canonicalKey l (List.mem_of_getElem? hl)
  rw [hvalue, hc.canonicalKey k (List.mem_of_getElem? hk)] at hkeys
  rw [hvkey, hwkey, hkeys]

/-- **Two values share a placeholder exactly if they have the same canonical key.** -/
theorem StandsFor.eq_iff (hb : b.IsDistinct) (hv : b.StandsFor v p) (hw : b.StandsFor w q) :
    p = q ↔ v.canonicalKey = w.canonicalKey := by
  constructor
  · rintro rfl
    exact hv.canonicalKey_eq hb hb rfl hw
  · intro h
    obtain ⟨m, l, rfl, hl, hvkey⟩ := hv
    obtain ⟨n, k, rfl, hk, hwkey⟩ := hw
    rw [hvkey, hwkey, Except.ok.injEq] at h
    have hkeys : (b.bound.map (·.key))[m]? = (b.bound.map (·.key))[n]? := by
      rw [List.getElem?_map, List.getElem?_map, hl, hk, Option.map_some, Option.map_some, h]
    have hm : m < (b.bound.map (·.key)).length := by
      rw [List.length_map]
      exact (List.getElem?_eq_some_iff.mp hl).1
    rw [(List.getElem?_inj hm hb.keys_nodup).mp hkeys]

/-- **The parameter under the name of a placeholder** holds a value with the canonical key of every
value that the placeholder stands for. -/
theorem StandsFor.find?_parameters (hb : b.IsDistinct) (hv : b.StandsFor v p) :
    ∃ held, b.parameters.find? (·.name == p) = some held ∧
      held.value.canonicalKey = v.canonicalKey := by
  obtain ⟨number, l, rfl, hl, hkey⟩ := hv
  refine ⟨⟨placeholder number, l.value⟩, ?_, ?_⟩
  · rw [parameters, find?_zipIdx number b.bound 0 (Nat.zero_le _), Nat.sub_zero, hl]
    rfl
  · rw [hb.canonicalKey l (List.mem_of_getElem? hl), hkey]

end Docstore.Binder
