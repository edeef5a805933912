import Docstore.Proofs.Facade.Resolution
import Docstore.Store.Scripted

/-!
# Where data are written and where filters look

A creation puts every value under the physical name of its field, as one key of the document.  A
statement refers to the field by the alias and the same name, and the store reads points in it as
steps into the document.  The two mean the same place as long as names have no points and no two
fields share one.

* `FieldNames.path?` — the steps that a reference leads through.
* `FieldNames.read` — what a store reads where a statement refers to a field.
* `Facade.Places` — a creation puts every value where references to its field look.
* `Facade.places_iff` — which names of fields let creations place whatever they are given.
-/

namespace Docstore

open Value (lookup IsRecord)

/-! ## References as paths -/

/-- What a document holds along a path of property names. -/
def Value.atPath : (path : List String) → Value → Option Value
  | [], v => some v
  | name :: rest, .dict entries => (lookup (.str name) entries).bind (atPath rest)
  | _ :: _, _ => none

namespace FieldNames

variable {names : FieldNames} {s t : String} {entries : List (Value × Value)}

/-- The steps that a reference leads through: what stands behind the alias and its point, cut at
points. -/
def path? (names : FieldNames) (ref : String) : Option (List String) :=
  ((names.aliasName ++ ".").toList.isPrefixOf? ref.toList).map fun rest =>
    (rest.splitOn '.').map String.ofList

/-- What a store reads from a document where a statement refers to a field. -/
def read (names : FieldNames) (field : String) (document : Value) : Option Value :=
  (names.path? (names.ref field)).bind document.atPath

theorem path?_ref (names : FieldNames) (s : String) :
    names.path? (names.ref s) = some (((names.physical s).toList.splitOn '.').map String.ofList) := by
  have hprefix : (names.aliasName ++ ".").toList.isPrefixOf? (names.ref s).toList =
      some (names.physical s).toList := by
    rw [ref, List.isPrefixOf?_eq_some_iff_append_eq]
    simp only [String.toList_append]
  rw [path?, hprefix]
  rfl

/-- Fields with the same physical name are read at the same place. -/
theorem read_congr (h : names.physical s = names.physical t) (document : Value) :
    names.read s document = names.read t document := by
  rw [read, read, path?_ref, path?_ref, h]

/-- A name without points is one step into the document. -/
theorem read_of_plain (h : '.' ∉ (names.physical s).toList) :
    names.read s (.dict entries) = lookup (.str (names.physical s)) entries := by
  have hsplit : (names.physical s).toList.splitOn '.' = [(names.physical s).toList] := by
    refine List.splitOnP_eq_singleton fun c hc => ?_
    rw [beq_eq_false_iff_ne]
    rintro rfl
    exact h hc
  rw [read, path?_ref, hsplit, List.map_singleton, String.ofList_toList]
  simp [Value.atPath]

/-- A name with points leads through a property, which has to be a dictionary. -/
theorem read_of_dotted (h : '.' ∈ (names.physical s).toList)
    (hflat : ∀ name v, lookup (.str name) entries = some v → ∀ inner, v ≠ .dict inner) :
    names.read s (.dict entries) = none := by
  obtain ⟨first, rest, hname, hfirst⟩ := List.eq_append_cons_of_mem h
  have hsplit : (names.physical s).toList.splitOn '.' = first :: rest.splitOn '.' := by
    rw [hname]
    refine List.splitOnP_append_cons_of_forall_mem (fun c hc => ?_) '.' rfl rest
    rw [beq_eq_false_iff_ne]
    rintro rfl
    exact hfirst hc
  obtain ⟨second, others, hrest⟩ := List.exists_cons_of_ne_nil (List.splitOnP_ne_nil (· == '.') rest)
  have hsteps : (rest.splitOn '.').map String.ofList =
      String.ofList second :: others.map String.ofList := by
    rw [List.splitOn, hrest, List.map_cons]
  rw [read, path?_ref, hsplit, List.map_cons, hsteps, Option.bind_some, Value.atPath]
  cases hfound : lookup (.str (String.ofList first)) entries with
  | none => rfl
  | some v =>
    have hnot := hflat _ v hfound
    rw [Option.bind_some]
    cases v with
    | dict inner => exact absurd rfl (hnot inner)
    | _ => rfl

end FieldNames

/-! ## Creations -/

namespace Facade

variable {f : Facade} {c : Container} {model key v : Value} {s : String}
  {data body : List (Value × Value)} {fields : List String}

/-- The physical name of a field, as keys of documents have it: the key's own, or the one that the
resolver gives. -/
theorem physicalKey_eq_map (hk : key.text? = some s) :
    f.physicalKey model key =
      ((f.names model).renamed? s).map fun renamed => (renamed.map Value.str).getD key := by
  unfold physicalKey
  rw [hk]
  dsimp only
  cases (f.names model).renamed? s <;> rfl

/-- A field has a name in documents exactly if the resolver gives it. -/
theorem exists_physicalKey_iff (hk : key.text? = some s) :
    (∃ name, f.physicalKey model key = .ok name) ↔ (f.names model).Resolves s := by
  unfold FieldNames.Resolves FieldNames.resolve
  rw [physicalKey_eq_map hk]
  cases (f.names model).renamed? s <;> simp [Except.map, bind, Except.bind, pure, Except.pure]

theorem nameOf?_of_resolves (hk : key.text? = some s) (h : (f.names model).Resolves s) :
    f.nameOf? model key = some ((f.names model).physical s) := by
  obtain ⟨name, hname⟩ := h
  obtain ⟨renamed, hrenamed, hown⟩ := bind_eq_ok.mp hname
  rw [FieldNames.physical_of_resolve hname, ← Except.ok.inj hown, nameOf?, physicalKey_eq_map hk,
    hrenamed]
  cases renamed with
  | none => exact hk
  | some physical => rfl

/-- What is given to a name is the value of a field. -/
theorem mem_of_given (h : f.given model s data = some v) : ∃ e ∈ data, e.2 = v := by
  induction data with
  | nil => cases h
  | cons e rest ih =>
    rw [given, Option.or_eq_some_iff] at h
    rcases h with h | ⟨-, h⟩
    · obtain ⟨d, hd, hv⟩ := ih h
      exact ⟨d, List.mem_cons_of_mem _ hd, hv⟩
    · split at h
      · cases h
        exact ⟨e, List.mem_cons_self, rfl⟩
      · cases h

/-- A field gives its value to its name if no other field has this name. -/
theorem given_of_mem {e : Value × Value} (he : e ∈ data)
    (hnodup : (data.map fun e => f.nameOf? model e.1).Nodup)
    (hs : f.nameOf? model e.1 = some s) : f.given model s data = some e.2 := by
  induction data with
  | nil => cases he
  | cons d rest ih =>
    obtain ⟨hnot, hrest⟩ := List.nodup_cons.mp hnodup
    rw [given]
    rcases List.mem_cons.mp he with rfl | he
    · have hnone : f.given model s rest = none := by
        refine given_eq_none_iff.mpr fun d hd heq => hnot ?_
        exact List.mem_map.mpr ⟨d, hd, heq.trans hs.symm⟩
      rw [hnone, Option.none_or, if_pos hs]
    · rw [ih he hrest, Option.some_or]

/-- A creation submits the resolved data. -/
theorem create_events (hc : f.registry.resolve model = .ok c)
    (hdata : f.resolveData model (.dict data) = .ok (.dict body)) :
    ∃ later, (f.create model (.dict data)).events =
      .request c.name (.create (.dict body)) :: later := by
  have hitem : (c.createItem (.dict body)).guarded .create =
      ⟨(c.create (.dict body)).outcome.mapError fun e => e.recast .create,
        .request c.name (.create (.dict body)) :: (c.create (.dict body)).events⟩ := rfl
  unfold create container
  rw [hc, hdata]
  dsimp only [Run.of, Except.mapError]
  rw [Run.bind_ok, Run.bind_ok, hitem]
  cases (c.create (.dict body)).outcome with
  | error e => exact ⟨_, rfl⟩
  | ok created => exact ⟨_, rfl⟩

/-- A creation puts every value of the data, in store form, where references to its field look. -/
def Places (f : Facade) (c : Container) (model : Value) (data : List (Value × Value)) : Prop :=
  ∃ body, (∃ later, (f.create model (.dict data)).events =
      .request c.name (.create (.dict body)) :: later) ∧
    ∀ e ∈ data, ∀ s, e.1.text? = some s → ∃ w, e.2.store = .ok w ∧
      (f.names model).read s (.dict body) = some w

/-- A creation of data that are not resolved does not reach the store. -/
theorem create_events_of_unresolved (hc : f.registry.resolve model = .ok c) {e : Fault}
    (hdata : f.resolveData model (.dict data) = .error e) :
    (f.create model (.dict data)).events = [] := by
  unfold create container
  rw [hc, hdata]
  rfl

/-- Data that are placed are resolved. -/
theorem isResolvable_of_places (hc : f.registry.resolve model = .ok c) (h : f.Places c model data) :
    ∀ e ∈ data, f.IsResolvable model e := by
  obtain ⟨body, ⟨later, hevents⟩, -⟩ := h
  rw [← exists_resolveData_iff]
  cases hdata : f.resolveData model (.dict data) with
  | error e =>
    rw [create_events_of_unresolved hc hdata] at hevents
    cases hevents
  | ok resolved =>
    obtain ⟨entries, -, hresolved⟩ := bind_eq_ok.mp hdata
    obtain ⟨found, -, hdict⟩ := bind_eq_ok.mp hresolved
    exact ⟨found, hdict ▸ rfl⟩

/-- A creation places its data exactly if the resolved data do. -/
theorem places_of_resolved (hc : f.registry.resolve model = .ok c)
    (hdata : f.resolveData model (.dict data) = .ok (.dict body)) :
    f.Places c model data ↔ ∀ e ∈ data, ∀ s, e.1.text? = some s → ∃ w, e.2.store = .ok w ∧
      (f.names model).read s (.dict body) = some w := by
  obtain ⟨later, hevents⟩ := create_events hc hdata
  constructor
  · rintro ⟨body', ⟨later', hevents'⟩, h⟩
    cases hevents.symm.trans hevents'
    exact h
  · exact fun h => ⟨body, ⟨later, hevents⟩, h⟩

/-- Data are placed whose fields have physical names without points, none of them twice. -/
theorem places_of_plain (hc : f.registry.resolve model = .ok c)
    (hfields : data.map (·.1.text?) = fields.map some) (hstored : ∀ e ∈ data, ∃ w, e.2.store = .ok w)
    (hresolves : ∀ s ∈ fields, (f.names model).Resolves s)
    (hplain : ∀ s ∈ fields, '.' ∉ ((f.names model).physical s).toList)
    (hnodup : (fields.map (f.names model).physical).Nodup) : f.Places c model data := by
  have hname : ∀ e ∈ data, ∃ s ∈ fields, e.1.text? = some s := by
    intro e he
    have hmem : e.1.text? ∈ fields.map some := hfields ▸ List.mem_map_of_mem he
    obtain ⟨s, hs, heq⟩ := List.mem_map.mp hmem
    exact ⟨s, hs, heq.symm⟩
  have hphysical : (data.map fun e => f.nameOf? model e.1) =
      (fields.map (f.names model).physical).map some := by
    calc (data.map fun e => f.nameOf? model e.1)
        = data.map fun e => e.1.text?.map (f.names model).physical := by
          refine List.map_congr_left fun e he => ?_
          obtain ⟨s, hmem, hs⟩ := hname e he
          rw [nameOf?_of_resolves hs (hresolves s hmem), hs, Option.map_some]
      _ = (fields.map some).map (Option.map (f.names model).physical) := by
          rw [← hfields, List.map_map]
          rfl
      _ = (fields.map (f.names model).physical).map some := by
          rw [List.map_map, List.map_map]
          rfl
  have hdistinct : (data.map fun e => f.nameOf? model e.1).Nodup := by
    rw [hphysical]
    exact hnodup.map fun _ _ h => Option.some.inj h
  have hresolvable : ∀ e ∈ data, f.IsResolvable model e := by
    intro e he
    obtain ⟨s, hmem, hs⟩ := hname e he
    exact ⟨(exists_physicalKey_iff hs).mpr (hresolves s hmem), hstored e he⟩
  obtain ⟨body, hbody⟩ := exists_resolveData_iff.mpr hresolvable
  refine (places_of_resolved hc hbody).mpr fun e he s hs => ?_
  obtain ⟨t, ht, hst⟩ := hname e he
  cases hs.symm.trans hst
  obtain ⟨w, hw⟩ := hstored e he
  have htexts : ∀ e ∈ data, ∃ s, e.1.text? = some s := fun e he => (hname e he).imp fun _ h => h.2
  refine ⟨w, hw, ?_⟩
  rw [FieldNames.read_of_plain (hplain s ht), lookup_resolveData rfl htexts hbody,
    given_of_mem he hdistinct (nameOf?_of_resolves hs (hresolves s ht)), Option.bind_some, hw]
  rfl

/-! ## Names that misplace -/

/-- Data that number the fields. -/
def numberedData (fields : List String) : List (Value × Value) :=
  fields.zipIdx.map fun p => (.str p.1, .int p.2)

theorem exists_number_of_mem (hs : s ∈ fields) :
    ∃ i : Nat, fields[i]? = some s ∧ (.str s, .int i) ∈ numberedData fields := by
  obtain ⟨i, hi⟩ := List.mem_iff_getElem?.mp hs
  exact ⟨i, hi, List.mem_map.mpr ⟨(s, i), List.mk_mem_zipIdx_iff_getElem?.mpr hi, rfl⟩⟩

theorem numberedData_entries (fields : List String) :
    ∀ e ∈ numberedData fields, ∃ (s : String) (n : Int), e = (.str s, .int n) := by
  intro e he
  obtain ⟨p, -, rfl⟩ := List.mem_map.mp he
  exact ⟨p.1, p.2, rfl⟩

theorem numberedData_names (fields : List String) :
    (numberedData fields).map (·.1.text?) = fields.map some := by
  rw [numberedData, List.map_map]
  calc fields.zipIdx.map (fun p => some p.1)
      = (fields.zipIdx.map Prod.fst).map some := by rw [List.map_map]; rfl
    _ = fields.map some := by rw [List.zipIdx_map_fst]

theorem numberedData_stored (fields : List String) :
    ∀ e ∈ numberedData fields, ∃ w, e.2.store = .ok w := by
  intro e he
  obtain ⟨s, n, rfl⟩ := numberedData_entries fields e he
  exact ⟨.int n, rfl⟩

/-- Numbered fields that are placed are read as their numbers, in a document that holds numbers
only. -/
theorem exists_numbers_of_places (hc : f.registry.resolve model = .ok c)
    (h : f.Places c model (numberedData fields)) :
    ∃ body, (∀ name v, lookup (.str name) body = some v → ∀ inner, v ≠ .dict inner) ∧
      ∀ s ∈ fields, ∃ i : Nat, fields[i]? = some s ∧
        (f.names model).read s (.dict body) = some (.int i) := by
  obtain ⟨body, hbody⟩ := exists_resolveData_iff.mpr (isResolvable_of_places hc h)
  have htexts : ∀ e ∈ numberedData fields, ∃ s, e.1.text? = some s := by
    intro e he
    obtain ⟨s, n, rfl⟩ := numberedData_entries fields e he
    exact ⟨s, rfl⟩
  refine ⟨body, fun name v hfound inner hv => ?_, fun s hs => ?_⟩
  · rw [lookup_resolveData rfl htexts hbody, Option.bind_eq_some_iff] at hfound
    obtain ⟨number, hgiven, hstore⟩ := hfound
    obtain ⟨e, he, rfl⟩ := mem_of_given hgiven
    obtain ⟨t, n, rfl⟩ := numberedData_entries fields e he
    cases hv
    cases hstore
  · obtain ⟨i, hi, hmem⟩ := exists_number_of_mem hs
    obtain ⟨w, hw, hread⟩ := (places_of_resolved hc hbody).mp h _ hmem s rfl
    cases hw
    exact ⟨i, hi, hread⟩

/-- Numbers are not placed under names that are not given. -/
theorem resolves_of_places (hc : f.registry.resolve model = .ok c)
    (h : f.Places c model (numberedData fields)) (hs : s ∈ fields) :
    (f.names model).Resolves s := by
  obtain ⟨i, -, hmem⟩ := exists_number_of_mem hs
  exact (exists_physicalKey_iff rfl).mp (isResolvable_of_places hc h _ hmem).1

/-- Numbers are not placed under a name with points. -/
theorem plain_of_places (hc : f.registry.resolve model = .ok c)
    (h : f.Places c model (numberedData fields)) (hs : s ∈ fields) :
    '.' ∉ ((f.names model).physical s).toList := by
  intro hdotted
  obtain ⟨body, hflat, hread⟩ := exists_numbers_of_places hc h
  obtain ⟨i, -, hs⟩ := hread s hs
  rw [FieldNames.read_of_dotted hdotted hflat] at hs
  cases hs

/-- Different numbers are not placed under one name. -/
theorem eq_of_places {t : String} (hc : f.registry.resolve model = .ok c)
    (h : f.Places c model (numberedData fields)) (hs : s ∈ fields) (ht : t ∈ fields)
    (heq : (f.names model).physical s = (f.names model).physical t) : s = t := by
  obtain ⟨body, -, hread⟩ := exists_numbers_of_places hc h
  obtain ⟨i, hi, hsread⟩ := hread s hs
  obtain ⟨j, hj, htread⟩ := hread t ht
  have hnumbers : (Value.int i) = .int j :=
    Option.some.inj (hsread.symm.trans ((FieldNames.read_congr heq _).trans htread))
  have hij : i = j := by
    injection hnumbers with h
    exact Int.ofNat.inj h
  subst hij
  exact Option.some.inj (hi.symm.trans hj)

/-- **Creations place every value** where statements look for its field, whatever the values, exactly
if the resolver names every field, and the physical names have no points and are different from one
another. -/
theorem places_iff (hc : f.registry.resolve model = .ok c) (hfields : fields.Nodup) :
    (∀ data, data.map (·.1.text?) = fields.map some → (∀ e ∈ data, ∃ w, e.2.store = .ok w) →
        f.Places c model data) ↔
      (∀ s ∈ fields, (f.names model).Resolves s) ∧
        (∀ s ∈ fields, '.' ∉ ((f.names model).physical s).toList) ∧
        (fields.map (f.names model).physical).Nodup := by
  constructor
  · intro h
    have hplaces : f.Places c model (numberedData fields) :=
      h _ (numberedData_names fields) (numberedData_stored fields)
    refine ⟨fun s hs => resolves_of_places hc hplaces hs, fun s hs => plain_of_places hc hplaces hs,
      hfields.map_on fun s hs t ht heq => ?_⟩
    exact eq_of_places hc hplaces hs ht heq
  · rintro ⟨hresolves, hplain, hnodup⟩ data hnames hstored
    exact places_of_plain hc hnames hstored hresolves hplain hnodup

/-- A field that is renamed and one that keeps its name, with a date and a dictionary. -/
theorem places_renamed_field :
    let c := Script.toContainer {} "users"
    let f : Facade := ⟨⟨[("user", .container c)], false⟩,
      .ofTable [("user", [("email", "emailAddress")])], .standard⟩
    f.Places c (.str "user")
      [(.str "email", .list [.tuple [.int 1]]), (.str "name", .dict [(.str "first", .str "Ada")])] := by
  intro c f
  have hc : f.registry.resolve (.str "user") = .ok c := rfl
  have hplain : ∀ s ∈ ["email", "name"], '.' ∉ ((f.names (.str "user")).physical s).toList := by
    decide
  have hdifferent : (["email", "name"].map (f.names (.str "user")).physical).Nodup := by decide
  refine (places_iff hc (by decide)).mpr ⟨fun s _ => ⟨_, rfl⟩, hplain, hdifferent⟩ _ rfl
    fun e he => ?_
  simp only [List.mem_cons, List.not_mem_nil, or_false] at he
  rcases he with rfl | rfl
  · exact ⟨.list [.list [.int 1]], rfl⟩
  · exact ⟨.dict [(.str "first", .str "Ada")], rfl⟩

/-- A name with a point leads to a place that holds nothing, and of two fields with one name only the
last is found there. -/
theorem dotted_or_shared_names_misplace :
    let c := Script.toContainer {} "users"
    let facade (renamed : List (String × String)) : Facade :=
      ⟨⟨[("user", .container c)], false⟩, .ofTable [("user", renamed)], .standard⟩
    let dotted := facade [("displayName", "profile.displayName")]
    let shared := facade [("email", "contact"), ("phone", "contact")]
    ¬ dotted.Places c (.str "user") [(.str "displayName", .str "x")] ∧
      ¬ shared.Places c (.str "user") [(.str "email", .str "1"), (.str "phone", .str "2")] := by
  intro c facade dotted shared
  constructor
  · intro hplaces
    have hbody : dotted.resolveData (.str "user") (.dict [(.str "displayName", .str "x")]) =
        .ok (.dict [(.str "profile.displayName", .str "x")]) := rfl
    obtain ⟨w, -, hread⟩ :=
      (places_of_resolved rfl hbody).mp hplaces _ List.mem_cons_self "displayName" rfl
    rw [FieldNames.read_of_dotted (by decide)] at hread
    · cases hread
    · intro name v hfound inner hv
      obtain ⟨k, -, hmem⟩ := Value.mem_of_lookup rfl hfound
      cases List.mem_singleton.mp hmem
      cases hv
  · intro hplaces
    have hemail : shared.physicalKey (.str "user") (.str "email") = .ok (.str "contact") := rfl
    have hphone : shared.physicalKey (.str "user") (.str "phone") = .ok (.str "contact") := rfl
    have hbody : shared.resolveData (.str "user")
        (.dict [(.str "email", .str "1"), (.str "phone", .str "2")]) =
        .ok (.dict [(.str "contact", .str "2")]) := by
      simp [resolveData, resolveEntries, hemail, hphone, Value.entries, Value.store, Value.insert,
        bind, Except.bind, pure, Except.pure]
    obtain ⟨w, hw, hread⟩ :=
      (places_of_resolved rfl hbody).mp hplaces _ List.mem_cons_self "email" rfl
    cases hw
    have hphysical : (shared.names (.str "user")).physical "email" = "contact" := by decide
    rw [FieldNames.read_of_plain (by decide), hphysical, Value.lookup_cons _ _ _ rfl] at hread
    simp [Value.text?] at hread

end Facade

end Docstore
