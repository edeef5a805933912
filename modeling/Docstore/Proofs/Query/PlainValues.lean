import Docstore.Proofs.Query.Placeholders
import Docstore.Proofs.Value.NormalForm

/-!
# Plain values in queries

A plain value is serialized by converting it once, and bound by converting it twice.  The two
conversions agree, and a conversion has nothing left to convert; so what a binder holds for the value
has the key that the value was looked up by, also where the placeholder was handed out before.

* `store_is_normal_form` — the store form of a plain value is a serializable normal form.
-/

namespace Docstore.Value

/-- **The store form of a plain value is a serializable normal form.**  A plain value has one exactly
if the integers in its sets are short enough to be written: the store form consists of what JSON
knows, it is its own store form, and it has the canonical key of the value.  There is such a key
exactly if all integers of the value are short enough to be written.  Then the value can be bound,
whatever was bound before, and the parameter under the name that it gets holds a value with exactly
this key. -/
theorem store_is_normal_form {v : Value} (hplain : v.isPlain = true) :
    ((∃ w, v.store = .ok w ∧ w.isNormal = true ∧ w.store = .ok w ∧
      w.canonicalKey = v.canonicalKey) ↔ v.hasWritableSets = true) ∧
    ((∃ key, v.canonicalKey = .ok key) ↔ v.isWritable = true) ∧
    (v.isWritable = true → v.hasWritableSets = true) ∧
    ∀ key, v.canonicalKey = .ok key → ∀ vs ps b, Binder.bindAll vs {} = .ok (ps, b) →
      ∃ p b' held, b.bind v = .ok (p, b') ∧ b'.parameters.find? (·.name == p) = some held ∧
        held.value.canonicalKey = .ok key := by
  refine ⟨⟨?_, fun hsets => ?_⟩, canonicalKey_of_isPlain hplain, hasWritableSets_of_isWritable, ?_⟩
  · rintro ⟨w, hw, -⟩
    exact hasWritableSets_of_store hw
  · obtain ⟨w, hw, hnormal, -⟩ := store_of_isPlain hplain hsets
    exact ⟨w, hw, hnormal, store_store hw, canonicalKey_of_store hw⟩
  · intro key hkey vs ps b hvs
    obtain ⟨number, b', hbind, -⟩ := Binder.bind_ok_of_canonicalKey (b := b) hkey
    have hdistinct : b'.IsDistinct := (Binder.isDistinct_empty.bindAll hvs).bind hbind
    obtain ⟨held, hheld, hsame⟩ := (Binder.bind_standsFor hbind).find?_parameters hdistinct
    exact ⟨_, b', held, hbind, hheld, hsame.trans hkey⟩

/-- A set whose elements have no order among themselves, bound after another value. -/
theorem store_is_normal_form_of_mixed_set :
    let v : Value := .dict [(.str "k", .set false [.str "b", .int 10, .null,
      .tuple [.date ⟨2024, 2, 29⟩, .decimal (.finite false 15 (-1)) 0], .set true [.bool true]])]
    v.isPlain = true ∧ v.isWritable = true ∧
      (∃ w, v.store = .ok w ∧ w.isNormal = true ∧ w.store = .ok w ∧
        w.canonicalKey = v.canonicalKey) ∧
      ∃ key p b' held, v.canonicalKey = .ok key ∧
        Binder.bind ⟨[⟨"7", .int 7⟩]⟩ v = .ok (p, b') ∧
        b'.parameters.find? (·.name == p) = some held ∧ held.value.canonicalKey = .ok key := by
  intro v
  have hplain : v.isPlain = true := by decide
  have hwritable : v.isWritable = true := by decide +kernel
  obtain ⟨hstored, hkeys, hsets, hbound⟩ := store_is_normal_form hplain
  obtain ⟨key, hkey⟩ := hkeys.mpr hwritable
  obtain ⟨p, b', held, hbind, hheld, hsame⟩ := hbound key hkey [.int 7] ["@param0"] _ rfl
  exact ⟨hplain, hwritable, hstored.mpr (hsets hwritable), key, p, b', held, hkey, hbind, hheld,
    hsame⟩

end Docstore.Value
