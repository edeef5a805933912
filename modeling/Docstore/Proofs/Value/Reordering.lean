import Docstore.Proofs.Fault.Origin
import Docstore.Proofs.Value.Enumeration
import Docstore.Proofs.Value.NormalForm

/-!
# Values that hold sets

The order in which a set is enumerated may change from one run to the next, for all sets at a time.
A set of elementary values is stored as the same data in all orders, and so lists, tuples and
dictionaries that hold such sets, at any depth, have one canonical key.  The keys of a dictionary
are kept as they are, sets in them too; but a key with a set in it cannot be written, so that there
is no canonical key then, in whatever order.

A set in a set is another matter.  Elements are put in order by the texts that show them, and the
text that shows a set follows its order of enumeration.

* `storedData_set_of_enumeratedAnew` — a set of elementary values is stored as the same data, if at
  all.
* `storedData_of_reordered` — what holds such sets is stored as the same data, if that can be
  written.
* `sets_serialize_alike` — canonical keys do not depend on the orders of such sets.
* `order_within_elements_shows` — they do depend on the order of a set in a set.
-/

namespace Docstore.Value

/-! ## Orders of enumeration -/

/-- Whether two lists are enumerations of one set of elementary values. -/
structure EnumeratedAnew (items items' : List Value) : Prop where
  keys : areKeys items = true
  elementary : areElementary items = true
  perm : items.Perm items'

mutual

/-- Whether two values differ at most in the orders in which the sets of elementary values in them
are enumerated, at any depth of lists, tuples and dictionaries. -/
inductive Reordered : Value → Value → Prop
  | same (v : Value) : Reordered v v
  | set {frozen : Bool} {items items' : List Value} (h : EnumeratedAnew items items') :
      Reordered (.set frozen items) (.set frozen items')
  | list {items items' : List Value} (h : ReorderedItems items items') :
      Reordered (.list items) (.list items')
  | tuple {items items' : List Value} (h : ReorderedItems items items') :
      Reordered (.tuple items) (.tuple items')
  | dict {entries entries' : List (Value × Value)} (h : ReorderedEntries entries entries') :
      Reordered (.dict entries) (.dict entries')

/-- Whether this holds of items, one by one. -/
inductive ReorderedItems : List Value → List Value → Prop
  | nil : ReorderedItems [] []
  | cons {v w : Value} {rest rest' : List Value} (h : Reordered v w)
      (hrest : ReorderedItems rest rest') : ReorderedItems (v :: rest) (w :: rest')

/-- Whether this holds of the keys and the values of entries, one by one. -/
inductive ReorderedEntries : List (Value × Value) → List (Value × Value) → Prop
  | nil : ReorderedEntries [] []
  | cons {k l v w : Value} {rest rest' : List (Value × Value)} (hkey : Reordered k l)
      (h : Reordered v w) (hrest : ReorderedEntries rest rest') :
      ReorderedEntries ((k, v) :: rest) ((l, w) :: rest')

end

theorem EnumeratedAnew.symm {items items' : List Value} (h : EnumeratedAnew items items') :
    EnumeratedAnew items' items where
  keys := areKeys_iff.mpr fun v hv => areKeys_iff.mp h.keys v (h.perm.mem_iff.mpr hv)
  elementary := areElementary_iff.mpr fun v hv =>
    areElementary_iff.mp h.elementary v (h.perm.mem_iff.mpr hv)
  perm := h.perm.symm

mutual

theorem Reordered.symm : ∀ {v w : Value}, v.Reordered w → w.Reordered v
  | _, _, .same v => .same v
  | _, _, .set h => .set h.symm
  | _, _, .list h => .list h.symm
  | _, _, .tuple h => .tuple h.symm
  | _, _, .dict h => .dict h.symm

theorem ReorderedItems.symm : ∀ {items items' : List Value}, ReorderedItems items items' →
    ReorderedItems items' items
  | _, _, .nil => .nil
  | _, _, .cons h hrest => .cons h.symm hrest.symm

theorem ReorderedEntries.symm : ∀ {entries entries' : List (Value × Value)},
    ReorderedEntries entries entries' → ReorderedEntries entries' entries
  | _, _, .nil => .nil
  | _, _, .cons hkey h hrest => .cons hkey.symm h.symm hrest.symm

end

/-! ## Sets -/

mutual

/-- Elementary values that may be elements of sets are plain. -/
theorem isPlain_of_isElementary : ∀ {v : Value}, v.isElementary = true → v.isKey = true →
    v.isPlain = true
  | .tuple _, helementary, hkey => arePlain_of_areElementary helementary hkey
  | .null, _, _ | .bool _, _, _ | .int _, _, _ | .float .., _, _ | .str _, _, _
  | .timestamp _, _, _ | .date _, _, _ | .uuid _, _, _ | .operator _, _, _ | .connector _, _, _
  | .direction _, _, _ => rfl
  | .decimal .., _, hkey => hkey

theorem arePlain_of_areElementary : ∀ {items : List Value}, areElementary items = true →
    areKeys items = true → arePlain items = true
  | [], _, _ => rfl
  | v :: rest, helementary, hkeys => by
    rw [areElementary, Bool.and_eq_true] at helementary
    rw [areKeys, Bool.and_eq_true] at hkeys
    rw [arePlain, isPlain_of_isElementary helementary.1 hkeys.1,
      arePlain_of_areElementary helementary.2 hkeys.2]
    rfl

end

/-- A set of elementary values that can be written is stored as a list. -/
theorem store_set_of_areWritable (frozen : Bool) {items items' : List Value}
    (h : EnumeratedAnew items items') (hwritable : areWritable items = true) :
    ∃ stored, (Value.set frozen items).store = .ok (.list stored) := by
  obtain ⟨stored, hstored, -⟩ := storeItems_of_arePlain
    (arePlain_of_areElementary h.elementary h.keys) (haveWritableSets_of_areWritable hwritable)
  exact ⟨_, store_set_eq_ok.mpr ⟨hwritable, stored, hstored, rfl⟩⟩

/-- **A set of elementary values is stored as the same data**, in whatever order it is enumerated,
or not stored in any. -/
theorem storedData_set_of_enumeratedAnew (frozen : Bool) {items items' : List Value}
    (h : EnumeratedAnew items items') :
    (Value.set frozen items).storedData = (Value.set frozen items').storedData := by
  cases hwritable : areWritable items with
  | true =>
    obtain ⟨stored, hstored⟩ := store_set_of_areWritable frozen h hwritable
    have hdata := storedData_of_store hstored
    rw [hdata, storedData_set_of_perm h.elementary h.perm hdata]
  | false =>
    have hwritable' : areWritable items' = false := (areWritable_of_perm h.perm).symm.trans hwritable
    rw [storedData, storedData, store_set_of_not_areWritable hwritable,
      store_set_of_not_areWritable hwritable']

/-! ## What holds sets -/

/-- A key that can be written holds no set. -/
theorem eq_of_reordered_of_keyText {k l : Value} {text : List Char} (h : k.Reordered l)
    (hk : Json.keyText k = .ok text) : k = l := by
  cases h with
  | same => rfl
  | set | list | tuple | dict => cases hk

/-- If a dictionary is written, so are its keys and the values under them. -/
theorem written_of_write_dict {entries : List (Value × Value)} {text : List Char}
    (h : Json.write (.dict entries) = .ok text) :
    ∀ e ∈ entries, (∃ key, Json.keyText e.1 = .ok key) ∧ ∃ t, Json.write e.2 = .ok t := by
  rw [Json.write] at h
  obtain ⟨sorted, hsorted, h⟩ := bind_eq_ok.mp h
  obtain ⟨texts, htexts, -⟩ := bind_eq_ok.mp h
  have hperm := (Json.ordered_yields _).of_ok hsorted
  intro e he
  refine ok_of_mapM_entry htexts (e.1, Json.write e.2) (hperm.mem_iff.mpr ?_)
  rw [writeEntries_eq_map]
  exact List.mem_map_of_mem he

-- The recursion is on how the two values are related.  What is written as a whole has parts that
-- are written, so the hypothesis that it is can be handed down, and at a key it leaves no set.
mutual

/-- **What holds sets is stored as the same data**, if that can be written. -/
theorem storedData_of_reordered : ∀ {v w d : Value} {text : List Char}, v.Reordered w →
    v.storedData = .ok d → Json.write d = .ok text → w.storedData = .ok d
  | _, _, _, _, .same v, hstored, _ => hstored
  | _, _, _, _, .set h, hstored, _ => storedData_set_of_perm h.elementary h.perm hstored
  | _, _, _, _, .list h, hstored, hwrite => by
    rw [storedData_list] at hstored
    obtain ⟨ds, hds, rfl⟩ := map_eq_ok.mp hstored
    rw [Json.write] at hwrite
    obtain ⟨texts, htexts, -⟩ := bind_eq_ok.mp hwrite
    rw [storedData_list, storedItems_of_reordered h hds (mem_of_writeItems htexts)]
    rfl
  | _, _, _, _, .tuple h, hstored, hwrite => by
    rw [storedData_tuple] at hstored
    obtain ⟨ds, hds, rfl⟩ := map_eq_ok.mp hstored
    rw [Json.write] at hwrite
    obtain ⟨texts, htexts, -⟩ := bind_eq_ok.mp hwrite
    rw [storedData_tuple, storedItems_of_reordered h hds (mem_of_writeItems htexts)]
    rfl
  | _, _, _, _, .dict h, hstored, hwrite => by
    rw [storedData_dict] at hstored
    obtain ⟨ds, hds, rfl⟩ := map_eq_ok.mp hstored
    rw [storedData_dict, storedEntries_of_reordered h hds (written_of_write_dict hwrite)]
    rfl

theorem storedItems_of_reordered : ∀ {items items' ds : List Value},
    ReorderedItems items items' → storedItems items = .ok ds →
    (∀ d ∈ ds, ∃ text, Json.write d = .ok text) → storedItems items' = .ok ds
  | _, _, _, .nil, hds, _ => hds
  | _, _, _, .cons h hrest, hds, hwrite => by
    rw [storedItems_cons] at hds
    obtain ⟨d, hd, hds⟩ := bind_eq_ok.mp hds
    obtain ⟨others, hothers, hds⟩ := bind_eq_ok.mp hds
    cases hds
    obtain ⟨⟨text, htext⟩, hwriteRest⟩ := List.forall_mem_cons.mp hwrite
    rw [storedItems_cons, storedData_of_reordered h hd htext,
      storedItems_of_reordered hrest hothers hwriteRest]
    rfl

theorem storedEntries_of_reordered : ∀ {entries entries' ds : List (Value × Value)},
    ReorderedEntries entries entries' → storedEntries entries = .ok ds →
    (∀ e ∈ ds, (∃ key, Json.keyText e.1 = .ok key) ∧ ∃ text, Json.write e.2 = .ok text) →
    storedEntries entries' = .ok ds
  | _, _, _, .nil, hds, _ => hds
  | _, _, _, .cons hkey h hrest, hds, hwrite => by
    rw [storedEntries_cons] at hds
    obtain ⟨d, hd, hds⟩ := bind_eq_ok.mp hds
    obtain ⟨others, hothers, hds⟩ := bind_eq_ok.mp hds
    cases hds
    obtain ⟨⟨⟨key, hkeyText⟩, text, htext⟩, hwriteRest⟩ := List.forall_mem_cons.mp hwrite
    obtain rfl := eq_of_reordered_of_keyText hkey hkeyText
    rw [storedEntries_cons, storedData_of_reordered h hd htext,
      storedEntries_of_reordered hrest hothers hwriteRest]
    rfl

end

theorem canonicalKey_of_reordered {v w : Value} {key : String} (h : v.Reordered w)
    (hv : v.canonicalKey = .ok key) : w.canonicalKey = .ok key := by
  obtain ⟨d, hd, hwrite⟩ := canonicalKey_eq_ok_iff.mp hv
  exact canonicalKey_eq_ok_iff.mpr ⟨d, storedData_of_reordered h hd hwrite, hwrite⟩

/-- **Sets are serialized alike in whatever order they are enumerated.**  A set of elementary values
is stored as the same data in all orders, and as a list with a canonical text exactly if the integers
in it are short enough to be written; otherwise it is stored in no order.  And what holds such sets,
at any depth of lists, tuples and dictionaries, has one canonical key for all orders of all of them,
or none for any. -/
theorem sets_serialize_alike (frozen : Bool) {items items' : List Value}
    (h : EnumeratedAnew items items') :
    (Value.set frozen items).storedData = (Value.set frozen items').storedData ∧
    ((∃ stored key, (Value.set frozen items).store = .ok (.list stored) ∧
      (Value.list stored).canonicalKey = .ok key) ↔ areWritable items = true) ∧
    ∀ v w : Value, v.Reordered w → ∀ key, v.canonicalKey = .ok key ↔ w.canonicalKey = .ok key := by
  have hplain : (Value.set frozen items).isPlain = true :=
    arePlain_of_areElementary h.elementary h.keys
  have hkey : (∃ key, (Value.set frozen items).canonicalKey = .ok key) ↔ areWritable items = true :=
    canonicalKey_of_isPlain hplain
  refine ⟨storedData_set_of_enumeratedAnew frozen h, ⟨?_, fun hwritable => ?_⟩, fun v w hsame key => ?_⟩
  · rintro ⟨stored, key, hstore, hlist⟩
    exact hkey.mp ⟨key, (canonicalKey_of_store hstore).symm.trans hlist⟩
  · obtain ⟨stored, hstore⟩ := store_set_of_areWritable frozen h hwritable
    obtain ⟨key, hset⟩ := hkey.mpr hwritable
    exact ⟨stored, key, hstore, (canonicalKey_of_store hstore).trans hset⟩
  · exact ⟨canonicalKey_of_reordered hsame, canonicalKey_of_reordered hsame.symm⟩

/-- A set with two objects that are not numbers, in two orders, within a dictionary that holds it
twice. -/
theorem sets_serialize_alike_in_dictionary :
    let items : List Value := [.str "it's", .float .nan (.given 0), .int 10, .null,
      .float .nan (.given 1), .tuple [.date ⟨2024, 2, 29⟩, .tuple [],
        .decimal (.finite false 15 (-1)) 0]]
    let holding (items : List Value) : Value :=
      .dict [(.str "k", .list [.set true items, .tuple [.set false items, .bool true]])]
    EnumeratedAnew items items.reverse ∧
    (Value.set true items).storedData = (Value.set true items.reverse).storedData ∧
    (∃ stored key, (Value.set true items).store = .ok (.list stored) ∧
      (Value.list stored).canonicalKey = .ok key) ∧
    ∃ key, (holding items).canonicalKey = .ok key ∧
      (holding items.reverse).canonicalKey = .ok key := by
  intro items holding
  have hanew : EnumeratedAnew items items.reverse := ⟨rfl, rfl, (List.reverse_perm _).symm⟩
  have hwritable : areWritable items = true := by decide +kernel
  obtain ⟨hstore, hlist, hholding⟩ := sets_serialize_alike true hanew
  have hsame : (holding items).Reordered (holding items.reverse) :=
    .dict (.cons (.same _) (.list (.cons (.set hanew)
      (.cons (.tuple (.cons (.set hanew) (.cons (.same _) .nil))) .nil))) .nil)
  obtain ⟨key, hkey⟩ := (canonicalKey_of_isPlain (v := holding items) rfl).mpr (by decide +kernel)
  exact ⟨hanew, hstore, hlist.mpr hwritable, key, hkey, (hholding _ _ hsame key).mp hkey⟩

/-- A set with an integer that is too long is not stored, and a dictionary with keys that have no
order among themselves has no canonical key, whatever the orders of sets are. -/
theorem longer_integer_in_set_is_not_stored :
    EnumeratedAnew [.int (10 ^ Text.maxDigits)] [.int (10 ^ Text.maxDigits)] ∧
    (Value.set false [.int (10 ^ Text.maxDigits)]).store = .error (.flawed .tooLongToWrite) ∧
    EnumeratedAnew [.int 1, .int 2] [.int 2, .int 1] ∧
    ∀ items ∈ [[.int 1, .int 2], [.int 2, .int 1]],
      (Value.dict [(.str "a", .set false items), (.int 1, .int 0)]).canonicalKey =
        .error (.wrongType none) := by
  have hitem : areWritable [.int (10 ^ Text.maxDigits)] = false := by
    rw [areWritable, isWritable, Json.isWritable_bound]
    rfl
  refine ⟨⟨rfl, rfl, .refl _⟩, store_set_of_not_areWritable hitem, ⟨rfl, rfl, .swap _ _ _⟩, ?_⟩
  intro items hitems
  rcases List.mem_pair.mp hitems with rfl | rfl <;> rfl

/-- **The order of a set in a set shows**: two orders of one inner set put it before and behind
another element. -/
theorem order_within_elements_shows :
    EnumeratedAnew [.int 0, .int 8] [.int 8, .int 0] ∧
    (Value.set false [.set true [.int 0, .int 8], .set true [.int 1]]).canonicalKey =
      .ok "[[0,8],[1]]" ∧
    (Value.set false [.set true [.int 8, .int 0], .set true [.int 1]]).canonicalKey =
      .ok "[[1],[0,8]]" :=
  ⟨⟨rfl, rfl, .swap _ _ _⟩, by rfl, by rfl⟩

end Docstore.Value
