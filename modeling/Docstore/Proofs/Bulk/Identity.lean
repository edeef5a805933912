import Docstore.Facade
import Docstore.Proofs.Bulk.Application
import Docstore.Proofs.Outcome

/-!
# Which document a replacement addresses

Updating one document replaces it under its own identifier.  The planner of batches takes the
identifier from the document as changed, so a mutation that gives the identifier another value makes
a batch address another document; the partition key and the body are the same on both paths.

* `resolveData_isRecord` — the mutation that a call hands on has text keys, each once.
* `replacement_spec` — the operation that the planner makes of a document that is changed.
* `update_firstWrite?`, `updateMany_firstWrite?` — what the two calls ask the store to write.
* `paths_agree_iff` — the two paths agree exactly if the identifier keeps its value.
-/

namespace Docstore

open Value (lookup IsRecord)

/-! ## Writes of a run -/

/-- The first write among events. -/
def firstWrite? (events : List Event) : Option Request :=
  events.findSome? fun
    | .request _ r => if r.isWrite then some r else none
    | _ => none

/-- A step that succeeds without a write leaves the first write to the rest of the run. -/
theorem firstWrite?_bind {α β : Type} {x : Run α} {a : α} (g : α → Run β) (h : x.outcome = .ok a)
    (hw : firstWrite? x.events = none) :
    firstWrite? (x >>= g).events = firstWrite? (g a).events := by
  obtain ⟨outcome, events⟩ := x
  dsimp only at h hw
  subst h
  rw [Run.bind_ok]
  unfold firstWrite? at hw ⊢
  rw [List.findSome?_append, hw, Option.none_or]

/-- A step that asks for a write is the first one to do so, however the run goes on. -/
theorem firstWrite?_bind_write {α β : Type} {x : Run α} {r : Request} (g : α → Run β)
    (h : firstWrite? x.events = some r) : firstWrite? (x >>= g).events = some r := by
  obtain ⟨outcome, events⟩ := x
  cases outcome with
  | error e => exact h
  | ok a =>
    rw [Run.bind_ok]
    unfold firstWrite? at h ⊢
    rw [List.findSome?_append, h, Option.some_or]

theorem firstWrite?_of {α β : Type} {x : Except Fault α} {a : α} (g : α → Run β) (h : x = .ok a) :
    firstWrite? (Run.of x >>= g).events = firstWrite? (g a).events := by
  subst h
  exact firstWrite?_bind g rfl rfl

/-! ## What the planner makes of a document -/

namespace Planner

variable {p : Planner} {id : String} {fields changes updated : List (Value × Value)} {own : Value}

theorem isKey_of_text? {v : Value} {s : String} (h : v.text? = some s) : v.isKey = true := by
  cases v <;> first | rfl | cases h

theorem documentKeyOf_dict (hid : p.idField.text? = some id)
    (h : lookup p.idField fields = some own) :
    p.documentKeyOf (.dict fields) = .ok own := by
  unfold documentKeyOf Value.part
  simp only [isKey_of_text? hid, h]
  rfl

/-- The identifier of a changed document: the one it had, unless the mutation gives it a value that
does not equal that. -/
def newKey (own : Value) (change : Option Value) : Value :=
  match change with
  | none => own
  | some v => Mutation.settled (some own) v

theorem newKey_eq_own_iff (own : Value) (change : Option Value) :
    newKey own change = own ↔ ∀ v, change = some v → own.compare v = .equal ∨ v = own := by
  cases change with
  | none => simp [newKey]
  | some v =>
    unfold newKey Mutation.settled
    dsimp only
    by_cases h : own.compare v = .equal
    · simp [h]
    · simp [h]

/-- **The operation that the planner makes** of a document that is changed. -/
theorem replacement_spec (hid : p.idField.text? = some id)
    (hown : lookup p.idField fields = some own)
    (hpart : ∀ extract, p.partitionKey = some extract → ∀ doc, ∃ key, extract (.dict doc) = .ok key)
    (hrecord : IsRecord changes)
    (h : Mutation.apply (.dict fields) (.dict changes) = .ok (updated, true)) :
    ∃ partition, p.partitionKeyOf (.dict updated) = .ok partition ∧
      p.replacement (.dict changes) (.dict fields) = .ok (some ⟨.replace,
        newKey own (lookup p.idField changes), partition, some (.dict updated)⟩) := by
  have hkey : p.documentKeyOf (.dict updated) = .ok (newKey own (lookup p.idField changes)) := by
    refine documentKeyOf_dict hid ?_
    rw [(Mutation.apply_spec hrecord h).1 hid, hown]
    cases lookup p.idField changes <;> rfl
  have hpartition : ∃ partition, p.partitionKeyOf (.dict updated) = .ok partition := by
    unfold partitionKeyOf
    cases hp : p.partitionKey with
    | none => exact ⟨_, hkey⟩
    | some extract => exact hpart extract hp updated
  obtain ⟨partition, hpartition⟩ := hpartition
  refine ⟨partition, hpartition, ?_⟩
  unfold replacement
  rw [h]
  exact bind_eq_ok.mpr ⟨_, rfl, bind_eq_ok.mpr ⟨_, hkey, bind_eq_ok.mpr ⟨_, hpartition, rfl⟩⟩⟩

theorem replacements_singleton {mutation d : Value} {o : Operation}
    (h : p.replacement mutation d = .ok (some o)) : p.replacements mutation [d] = .ok [o] := by
  unfold replacements
  rw [List.mapM_cons, h]
  rfl

end Planner

namespace Facade

variable {f : Facade} {model conditions data d : Value} {c : Container} {q : Query}

/-! ## Mutations of calls -/

/-- The name of a text key is a text. -/
theorem exists_text_of_physicalKey {key name : Value} {s : String} (hkey : key.text? = some s)
    (h : f.physicalKey model key = .ok name) : ∃ t, name.text? = some t := by
  unfold physicalKey at h
  rw [hkey] at h
  obtain ⟨renamed, -, hname⟩ := bind_eq_ok.mp h
  cases hname
  cases renamed with
  | none => exact ⟨s, hkey⟩
  | some t => exact ⟨t, rfl⟩

theorem fetchFirst_outcome (h : (c.query q (some 1)).first.result = .ok (some d)) :
    (fetchFirst c q).outcome = .ok d := by
  unfold fetchFirst logQuery Run.log Run.emit
  rw [Run.bind_ok]
  unfold Run.guarded Container.queryFirst Container.reading Drain.closing
  simp only [h]
  rfl

theorem fetchAll_outcome {documents : List Value} {limit : Option Int}
    (h : (c.query q limit).all.result = .ok documents) :
    (fetchAll c q limit).outcome = .ok documents := by
  unfold fetchAll logQuery Run.log Run.emit
  rw [Run.bind_ok]
  unfold Run.guarded Container.queryAll Container.reading
  simp only [h]
  rfl

theorem fetchFirst_firstWrite? (h : (c.query q (some 1)).first.result = .ok (some d)) :
    firstWrite? (fetchFirst c q).events = none := by
  unfold fetchFirst logQuery Run.log Run.emit
  rw [Run.bind_ok]
  unfold Run.guarded Container.queryFirst Container.reading Drain.closing
  simp only [h]
  rfl

theorem fetchAll_firstWrite? (c : Container) (q : Query) (limit : Option Int) :
    firstWrite? (fetchAll c q limit).events = none := rfl

/-- What `update` asks the store to write: the changed document, under the identifier that it had
before. -/
theorem update_firstWrite? {fields changes updated : List (Value × Value)} {own partition : Value}
    {changed : Bool} (hc : f.registry.resolve model = .ok c)
    (hq : f.statement model f.selectAll conditions = .ok q)
    (hfirst : (c.query q (some 1)).first.result = .ok (some (.dict fields)))
    (hdata : f.resolveData model data = .ok (.dict changes))
    (happly : Mutation.apply (.dict fields) (.dict changes) = .ok (updated, changed))
    (hown : f.planner.documentKeyOf (.dict fields) = .ok own)
    (hpartition : f.planner.partitionKeyOf (.dict updated) = .ok partition) :
    firstWrite? (f.update model conditions data).events =
      some (.replace own partition (.dict updated)) := by
  unfold update container
  -- every step before the replacement succeeds without a write
  rw [firstWrite?_of _ hc, firstWrite?_of _ hq,
    firstWrite?_bind _ (fetchFirst_outcome hfirst) (fetchFirst_firstWrite? hfirst)]
  dsimp only
  rw [firstWrite?_of _ hdata, firstWrite?_of _ happly]
  refine firstWrite?_bind_write _ ?_
  unfold Run.guarded
  dsimp only
  rw [firstWrite?_of _ hown, firstWrite?_of _ hpartition]
  exact firstWrite?_bind_write _ rfl

/-- What `updateMany` asks the store to write where one document matches and is changed. -/
theorem updateMany_firstWrite? {mutation : Value} {o : Operation}
    (hc : f.registry.resolve model = .ok c)
    (hq : f.statement model f.selectAll conditions = .ok q)
    (hall : (c.query q none).all.result = .ok [d])
    (hdata : f.resolveData model data = .ok mutation)
    (hplan : f.planner.replacements mutation [d] = .ok [o]) :
    firstWrite? (f.updateMany model conditions data).events = some (.bulk [o]) := by
  unfold updateMany container
  rw [firstWrite?_of _ hc, firstWrite?_of _ hq,
    firstWrite?_bind _ (fetchAll_outcome hall) (fetchAll_firstWrite? c q none)]
  rw [if_neg (by simp), firstWrite?_of _ hdata, firstWrite?_of _ hplan]
  refine firstWrite?_bind_write _ ?_
  unfold submit
  rw [firstWrite?_bind (a := ()) _ rfl rfl]
  exact firstWrite?_bind_write _ (firstWrite?_bind_write _ rfl)

end Facade

/-! ## The two paths -/

/-- **The paths agree exactly if the identifier keeps its value.**  For a document that a mutation
changes, the planned replacement has the partition key and the body that updating the document alone
submits.  It carries the document's own identifier exactly if the mutation gives the identifier no
value that differs from it; updating alone always addresses the document by its own identifier. -/
theorem paths_agree_iff (p : Planner) {id : String} {fields changes updated : List (Value × Value)}
    {own : Value} (hid : p.idField.text? = some id) (hown : lookup p.idField fields = some own)
    (hpart : ∀ extract, p.partitionKey = some extract → ∀ doc, ∃ key, extract (.dict doc) = .ok key)
    (hrecord : IsRecord changes)
    (happly : Mutation.apply (.dict fields) (.dict changes) = .ok (updated, true)) :
    ∃ o, p.replacement (.dict changes) (.dict fields) = .ok (some o) ∧ o.kind = .replace ∧
      p.partitionKeyOf (.dict updated) = .ok o.partitionKey ∧ o.payload = some (.dict updated) ∧
      (o.documentKey = own ↔
        ∀ v, lookup p.idField changes = some v → own.compare v = .equal ∨ v = own) ∧
      ∀ (f : Facade) (model conditions data : Value) (c : Container) (q : Query), f.planner = p →
        f.registry.resolve model = .ok c →
        f.statement model f.selectAll conditions = .ok q →
        (c.query q (some 1)).first.result = .ok (some (.dict fields)) →
        (c.query q none).all.result = .ok [.dict fields] →
        f.resolveData model data = .ok (.dict changes) →
        firstWrite? (f.update model conditions data).events =
          some (.replace own o.partitionKey (.dict updated)) ∧
        firstWrite? (f.updateMany model conditions data).events = some (.bulk [o]) := by
  obtain ⟨partition, hpartition, hplan⟩ :=
    Planner.replacement_spec hid hown hpart hrecord happly
  refine ⟨_, hplan, rfl, hpartition, rfl, Planner.newKey_eq_own_iff own _, ?_⟩
  rintro f model conditions data c q rfl hc hq hfirst hall hdata
  have hkey := Planner.documentKeyOf_dict hid hown
  exact ⟨Facade.update_firstWrite? hc hq hfirst hdata happly hkey hpartition,
    Facade.updateMany_firstWrite? hc hq hall hdata (Planner.replacements_singleton hplan)⟩

/-- A container that answers every query with one document and every write with nothing. -/
def Container.ofDocument (d : Value) : Container where
  name := "documents"
  create _ := pure .null
  query _ _ := .ofPages [[d]]
  replace _ _ _ := pure .null
  delete _ _ := pure ()
  bulk _ := pure .null

/-- Two paths for a mutation that leaves the identifier alone. -/
theorem paths_agree_on_other_field :
    let f : Facade := ⟨⟨[("m", .container (.ofDocument
      (.dict [(.str "id", .str "a"), (.str "v", .null)])))], false⟩, .identity, .standard⟩
    ∃ o : Operation, o.documentKey = .str "a" ∧
      firstWrite? (f.update (.str "m") .null (.dict [(.str "v", .str "b")])).events =
        some (.replace (.str "a") o.partitionKey
          (.dict [(.str "id", .str "a"), (.str "v", .str "b")])) ∧
      firstWrite? (f.updateMany (.str "m") .null (.dict [(.str "v", .str "b")])).events =
        some (.bulk [o]) := by
  intro f
  have happly : Mutation.apply (.dict [(.str "id", .str "a"), (.str "v", .null)])
      (.dict [(.str "v", .str "b")]) =
        .ok ([(.str "id", .str "a"), (.str "v", .str "b")], true) := by
    simp [Mutation.apply, Value.mapping, Value.entries, Mutation.setFields, lookup, Value.insert,
      Value.compare, Value.compareAtoms, Value.number?, Value.text?, bind, Except.bind]
  have hrecord : IsRecord [(.str "v", .str "b")] := ⟨by simp [Value.text?], by decide⟩
  have hid : lookup (.str "id") [(.str "id", .str "a"), (.str "v", .null)] = some (.str "a") := by
    simp [lookup]
  obtain ⟨o, -, -, -, -, hown, hfacade⟩ := paths_agree_iff ⟨.str "id", none⟩ rfl hid (by simp)
    hrecord happly
  have hdata : f.resolveData (.str "m") (.dict [(.str "v", .str "b")]) =
      .ok (.dict [(.str "v", .str "b")]) := rfl
  exact ⟨o, hown.mpr (by simp [lookup]),
    hfacade f (.str "m") .null _ _ _ rfl rfl rfl rfl rfl hdata⟩

/-- A mutation that assigns the identifier makes the planner address another document. -/
theorem replacement_of_assigned_identifier :
    (⟨.str "id", none⟩ : Planner).replacement (.dict [(.str "id", .str "b")])
        (.dict [(.str "id", .str "a")]) =
      .ok (some ⟨.replace, .str "b", .str "b", some (.dict [(.str "id", .str "b")])⟩) ∧
    (⟨.str "id", none⟩ : Planner).documentKeyOf (.dict [(.str "id", .str "a")]) =
      .ok (.str "a") ∧ Value.str "b" ≠ .str "a" := by
  have happly : Mutation.apply (.dict [(.str "id", .str "a")]) (.dict [(.str "id", .str "b")]) =
      .ok ([(.str "id", .str "b")], true) := by
    simp [Mutation.apply, Value.mapping, Value.entries, Mutation.setFields, lookup, Value.insert,
      Value.compare, Value.compareAtoms, Value.number?, Value.text?, bind, Except.bind,
      Verdict.ofBool]
  have hkey : ∀ s : String, (⟨.str "id", none⟩ : Planner).documentKeyOf
      (.dict [(.str "id", .str s)]) = .ok (.str s) := fun s =>
    Planner.documentKeyOf_dict rfl (by simp [lookup])
  refine ⟨?_, hkey "a", by simp⟩
  simp [Planner.replacement, happly, Planner.partitionKeyOf, hkey, bind, Except.bind, pure,
    Except.pure]

end Docstore
